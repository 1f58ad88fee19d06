import Mathlib
import Vocoder.Proofs.Leftover

/-!
# What is built is received

The packets that carry samples, voice bytes and gains are built by the side that sends them and taken apart
by the side that receives them. Samples travel high byte first, and any of their bytes may be a start
marker; still each value arrives as it was sent.

* **`Session.run_settled`** — a frame at the settings believed is one exchange, and what it delivers are the
  data of the packet found behind noise.
* **`voiceReply`, `audioReply`** — the packets that the builders build, as packets of the line.
* **`Reader.receive_gainRequest`** — a reader takes gains for what they are, clamped.
* **`Session.built_is_received`** — all of it, over any byte stream.
-/

namespace Vocoder

open AnsweringLine

/-! ## Frames at the settings believed -/

namespace Session

variable {L : Type} [Line L] [AnsweringLine L] {c : SessionConfig} {s : Session L}
  {answers : List (List UInt8)}

/-- **A frame at the settings believed is one exchange.** -/
theorem run_settled {f : FrameCall} {noise : List UInt8} {p : WirePacket c.lengthField}
    (h : s.Awaits c [] ((noise ++ p.bytes) :: answers)) (hclear : Clear c.responseTimeoutMs noise)
    (hfits : f.Fits) (hrate : f.rate = s.settings.rate) (hgain : f.gain = s.settings.gain f.direction)
    (hkind : p.response = f.response) (hwide : headerLength + dataOffset + f.width ≤ p.bytes.length) :
    ∃ s', f.run s = (f.delivered (p.data.take f.width), s') ∧ s'.Awaits c [] answers := by
  have hprepare : s.prepareFrame f.available f.rate f.direction f.gain = (.ok (), s) := by
    rw [prepareFrame, if_pos h.isOpen, if_neg (Nat.not_lt.mpr hfits), adoptRate, if_pos hrate]
    exact if_pos hgain
  obtain ⟨s', hfetch, hawaits⟩ := fetch_behind h hclear rfl (f.isRequest_packet hfits) hwide
  rw [hkind] at hfetch
  refine ⟨s'.countFrame f.direction (.ok (p.data.take f.width)), ?_, ?_⟩
  · rw [f.run_eq, hprepare]
    dsimp only
    rw [hfetch]
  · obtain ⟨g, hg⟩ := s'.exists_countFrame_eq f.direction (.ok (p.data.take f.width))
    rw [hg]
    exact ⟨hawaits.config, hawaits.line⟩

end Session

/-! ## Packets that are built -/

section Reply

variable {field : LengthField}

/-- The payload of a packet with the voice bytes of a rate. -/
def voicePayload (voice : List UInt8) (rate : Rate) : List UInt8 :=
  channelField :: UInt8.ofNat rate.voiceBits :: voice.take rate.voiceBytes

theorem voicePayload_fits (voice : List UInt8) (rate : Rate) :
    headerLength + (voicePayload voice rate).length ≤ maxPacketLength := by
  have hmost := rate.voiceBytes_le
  rw [Rate.maxVoiceBytes] at hmost
  simp only [voicePayload, List.length_cons, List.length_take, headerLength, maxPacketLength]
  omega

/-- The packet with the voice bytes of a rate. -/
def voiceReply (voice : List UInt8) (rate : Rate) : WirePacket field :=
  .ofPayload voiceType (voicePayload voice rate) (voicePayload_fits voice rate)

theorem data_voiceReply (voice : List UInt8) (rate : Rate) :
    (voiceReply voice rate : WirePacket field).data = voice.take rate.voiceBytes := rfl

theorem wide_voiceReply {voice : List UInt8} {rate : Rate} (h : rate.voiceBytes ≤ voice.length) :
    headerLength + dataOffset + rate.voiceBytes ≤
      (voiceReply voice rate : WirePacket field).bytes.length := by
  show _ ≤ (packet _ (voicePayload voice rate)).length
  rw [length_packet, voicePayload, List.length_cons, List.length_cons, List.length_take, headerLength, dataOffset]
  omega

/-- The payload of a packet with a block of samples. -/
def audioPayload (block : AudioBlock) : List UInt8 :=
  speechField :: UInt8.ofNat blockSamples :: encodeSamples block.samples

theorem length_audioPayload (block : AudioBlock) : (audioPayload block).length = dataOffset + blockBytes := by
  rw [audioPayload, List.length_cons, List.length_cons, length_encodeSamples, block.length_samples]
  rfl

theorem audioPayload_fits (block : AudioBlock) :
    headerLength + (audioPayload block).length ≤ maxPacketLength := by
  rw [length_audioPayload]
  decide

/-- The packet with a block of samples. -/
def audioReply (block : AudioBlock) : WirePacket field :=
  .ofPayload audioType (audioPayload block) (audioPayload_fits block)

theorem bytes_audioReply (block : AudioBlock) :
    (audioReply block : WirePacket field).bytes = audioPacket block :=
  (audioPacket_eq block).symm

theorem data_audioReply (block : AudioBlock) :
    (audioReply block : WirePacket field).data = encodeSamples block.samples := rfl

theorem length_audioReply (block : AudioBlock) :
    (audioReply block : WirePacket field).bytes.length = headerLength + dataOffset + blockBytes := by
  show (packet _ (audioPayload block)).length = _
  rw [length_packet, length_audioPayload, Nat.add_assoc]

theorem gainPayload_fits (gainIn gainOut : Int) :
    headerLength + [gainSubtype, gainByte gainIn, gainByte gainOut].length ≤ maxPacketLength := by
  simp only [List.length_cons, List.length_nil]
  decide

/-- The packet with two gains. -/
def gainReply (gainIn gainOut : Int) : WirePacket field :=
  .ofPayload controlType [gainSubtype, gainByte gainIn, gainByte gainOut] (gainPayload_fits gainIn gainOut)

theorem bytes_gainReply (gainIn gainOut : Int) :
    (gainReply gainIn gainOut : WirePacket field).bytes = gainRequest gainIn gainOut := rfl

theorem response_gainReply (gainIn gainOut : Int) :
    (gainReply gainIn gainOut : WirePacket field).response = .gain :=
  classify_gainRequest gainIn gainOut

end Reply

/-! ## Gains -/

/-- **A reader takes gains for what they are**, and finds them clamped in the payload. -/
theorem Reader.receive_gainRequest {L : Type} [Line L] [AnsweringLine L] {r : Reader}
    (ht : 0 < r.timeoutMs) {noise : List UInt8} (hnoise : startMarker ∉ noise) (gainIn gainOut : Int)
    {behind : List UInt8} {answers : List (List UInt8)} {l : L}
    (h : Stands l (noise ++ (gainRequest gainIn gainOut ++ behind)) answers) :
    ∃ r' l' a b, r.receive l = (.ok .gain, r', l') ∧ r'.held = gainRequest gainIn gainOut ∧
      r'.payload = [gainSubtype, a, b] ∧ signedByte a = clampGain gainIn ∧
      signedByte b = clampGain gainOut ∧ Stands l' behind answers := by
  let p : WirePacket r.lengthField := gainReply gainIn gainOut
  obtain ⟨l₁, hprepare, hflows, hstands⟩ := prepare_of_stands h
  have hcut := Cut.first_of_noise_packet (.inl ht) (fun b hb hm => hnoise (hm ▸ hb)) p behind
  have hreceive := r.receive_of_flows hprepare hflows
  rw [readable_of_stands hstands, ← bytes_gainReply, hcut, response_gainReply] at hreceive
  refine ⟨_, _, _, _, hreceive, rfl, rfl, signedByte_gainByte gainIn, signedByte_gainByte gainOut, ?_⟩
  have hleft : (noise ++ (p.bytes ++ behind)).drop (noise.length + p.bytes.length) = behind := by
    rw [← List.append_assoc, ← List.length_append, List.drop_left]
  have hstands' := stands_advance (noise.length + p.bytes.length) hstands
  rwa [show gainRequest gainIn gainOut = p.bytes from rfl, hleft] at hstands'

/-! ## Both ways -/

namespace Session

variable {L : Type} [Line L] [AnsweringLine L] {c : SessionConfig} {s : Session L} {noise : List UInt8}
  {answers : List (List UInt8)}

/-- An encoding that is answered by voice bytes returns them. -/
theorem encode_voiceReply (hclear : Clear c.responseTimeoutMs noise) {voice buffer : List UInt8}
    (hvoice : s.settings.rate.voiceBytes ≤ voice.length)
    (hbuffer : s.settings.rate.voiceBytes ≤ buffer.length)
    (h : s.Awaits c [] ((noise ++ (voiceReply voice s.settings.rate : WirePacket c.lengthField).bytes) ::
      answers)) (audio : AudioBlock) :
    ∃ s', s.encode audio buffer s.settings.rate s.settings.gainIn =
        (.ok s.settings.rate.voiceBytes,
          voice.take s.settings.rate.voiceBytes ++ buffer.drop s.settings.rate.voiceBytes, s') ∧
      s'.Awaits c [] answers := by
  let f : FrameCall := .encode audio buffer s.settings.rate s.settings.gainIn
  obtain ⟨s', hrun, hawaits⟩ := run_settled (f := f) h hclear hbuffer rfl rfl
    (Response.classify_packet ..) (wide_voiceReply hvoice)
  have hdata : (voice.take s.settings.rate.voiceBytes).take s.settings.rate.voiceBytes =
      voice.take s.settings.rate.voiceBytes := by
    rw [List.take_take, Nat.min_self]
  rw [data_voiceReply, show f.width = s.settings.rate.voiceBytes from rfl, hdata] at hrun
  rcases hencode : s.encode audio buffer s.settings.rate s.settings.gainIn with ⟨x, buffer', s''⟩
  simp only [f, FrameCall.run, hencode] at hrun
  cases hrun
  exact ⟨s', rfl, hawaits⟩

/-- A decoding that is answered by a block yields the block, whatever was in the caller's before. -/
theorem decode_audioReply (hclear : Clear c.responseTimeoutMs noise) {voice : List UInt8}
    (hvoice : s.settings.rate.voiceBytes ≤ voice.length) {block : AudioBlock}
    (h : s.Awaits c [] ((noise ++ audioPacket block) :: answers)) (before : AudioBlock) :
    ∃ s', s.decode voice before s.settings.rate s.settings.gainOut = (.ok (), block, s') ∧
      s'.Awaits c [] answers := by
  let f : FrameCall := .decode voice before s.settings.rate s.settings.gainOut
  rw [← (bytes_audioReply block : (audioReply block : WirePacket c.lengthField).bytes = _)] at h
  obtain ⟨s', hrun, hawaits⟩ := run_settled (f := f) h hclear hvoice rfl rfl
    (Response.classify_packet ..) (Nat.le_of_eq (length_audioReply block).symm)
  have hdata : (encodeSamples block.samples).take f.width = encodeSamples block.samples := by
    refine List.take_of_length_le ?_
    rw [length_encodeSamples, block.length_samples]
    exact Nat.le_refl _
  have hdelivered : f.delivered (encodeSamples block.samples) = .decoded (.ok ()) block :=
    congrArg _ (AudioBlock.overwrite_encodeSamples block before)
  rw [data_audioReply, hdata, hdelivered] at hrun
  rcases hdecode : s.decode voice before s.settings.rate s.settings.gainOut with ⟨x, audio, s''⟩
  simp only [f, FrameCall.run, hdecode] at hrun
  cases hrun
  exact ⟨s', rfl, hawaits⟩

/-- **What is built is received.** On a byte stream with nothing readable, for either reading of lengths and
with time to wait, and whatever noise without a start marker comes before an answer: an encoding that is
answered by the voice packet of some voice bytes returns as many of them as a frame has; a decoding that is
answered by the packet of a block yields this block, whatever was in the caller's before; and gains are
received as gains, each clamped to what the chip accepts. The frames are at the settings believed, where
nothing is asked for before them. -/
theorem built_is_received (ht : 0 < c.responseTimeoutMs) (hnoise : startMarker ∉ noise) :
    (∀ (rate : Rate) (voice : List UInt8), rate.voiceBytes ≤ voice.length →
      ∃ reply, voicePacket voice rate .host = .ok reply ∧
        ∀ (s : Session L) (answers : List (List UInt8)) (audio : AudioBlock) (buffer : List UInt8)
          (gain : Int), s.Awaits c [] ((noise ++ reply) :: answers) → s.settings.rate = rate →
          s.settings.gainIn = gain → rate.voiceBytes ≤ buffer.length →
          ∃ s', s.encode audio buffer rate gain =
              (.ok rate.voiceBytes, voice.take rate.voiceBytes ++ buffer.drop rate.voiceBytes, s') ∧
            s'.Awaits c [] answers) ∧
    (∀ (block before : AudioBlock) (s : Session L) (answers : List (List UInt8)) (voice : List UInt8)
      (rate : Rate) (gain : Int), s.Awaits c [] ((noise ++ audioPacket block) :: answers) →
      s.settings.rate = rate → s.settings.gainOut = gain → rate.voiceBytes ≤ voice.length →
      ∃ s', s.decode voice before rate gain = (.ok (), block, s') ∧ s'.Awaits c [] answers) ∧
    ∀ (gainIn gainOut : Int) (r : Reader) (l : L) (behind : List UInt8) (answers : List (List UInt8)),
      r.lengthField = c.lengthField → r.timeoutMs = c.responseTimeoutMs →
      Stands l (noise ++ (gainRequest gainIn gainOut ++ behind)) answers →
      ∃ r' l' a b, r.receive l = (.ok .gain, r', l') ∧ r'.held = gainRequest gainIn gainOut ∧
        r'.payload = [gainSubtype, a, b] ∧ signedByte a = clampGain gainIn ∧
        signedByte b = clampGain gainOut ∧ Stands l' behind answers := by
  have hclear : Clear c.responseTimeoutMs noise := .inr ⟨ht, hnoise⟩
  refine ⟨?_, ?_, ?_⟩
  · intro rate voice hvoice
    refine ⟨_, voicePacket_host hvoice, ?_⟩
    rintro s answers audio buffer gain h rfl rfl hbuffer
    exact encode_voiceReply hclear hvoice hbuffer h audio
  · rintro block before s answers voice rate gain h rfl rfl hvoice
    exact decode_audioReply hclear hvoice h before
  · rintro gainIn gainOut r l behind answers - htime h
    exact Reader.receive_gainRequest (by rw [htime]; exact ht) hnoise gainIn gainOut h

/-- A session that masks lengths, at a rate and at gains, whose line answers the next request. -/
def atRest (answer : List UInt8) : Session BenchLine where
  config := { lengthField := .masked }
  line := some { replies := [answer], readChunk := 3 }
  settings := { rate := .r2450, gainIn := -3, gainOut := 5 }

/-- Voice bytes and samples that hold start markers. -/
theorem built_is_received_marked :
    let c : SessionConfig := { lengthField := .masked }
    let noise : List UInt8 := [0x00, 0xff]
    let voice : List UInt8 := [0x61, 0x00, 0x01, 0x00, 0x61, 0x80, 0xff, 0x07]
    let block := AudioBlock.fill (-0x619f)
    let l : BenchLine := { incoming := noise ++ (gainRequest 0x61 (-100) ++ [0x61]), readChunk := 1 }
    0 < c.responseTimeoutMs ∧ startMarker ∉ noise ∧
    (∃ reply s', voicePacket voice .r2450 .host = .ok reply ∧
      (atRest (noise ++ reply)).encode (AudioBlock.fill 0) (List.replicate 9 0) .r2450 (-3) =
        (.ok 7, [0x61, 0x00, 0x01, 0x00, 0x61, 0x80, 0xff, 0x00, 0x00], s')) ∧
    (∃ s', (atRest (noise ++ audioPacket block)).decode voice (AudioBlock.fill 1) .r2450 5 =
      (.ok (), block, s')) ∧
    ∃ r' l' a b, ({ lengthField := .masked } : Reader).receive l = (.ok .gain, r', l') ∧
      r'.payload = [gainSubtype, a, b] ∧ signedByte a = 90 ∧ signedByte b = -90 := by
  intro c noise voice block l
  have ht : 0 < c.responseTimeoutMs := by decide
  have hnoise : startMarker ∉ noise := by decide
  have hrest : ∀ answer, (atRest answer).Awaits c [] [answer] := fun answer =>
    ⟨rfl, _, rfl, ⟨rfl, rfl⟩, rfl, rfl, rfl, rfl, rfl⟩
  obtain ⟨hencode, hdecode, hgain⟩ := built_is_received (L := BenchLine) ht hnoise
  refine ⟨ht, hnoise, ?_, ?_, ?_⟩
  · obtain ⟨reply, hreply, hcall⟩ := hencode .r2450 voice (by decide)
    obtain ⟨s', hs', -⟩ := hcall _ [] (AudioBlock.fill 0) (List.replicate 9 0) (-3) (hrest _) rfl rfl
      (by decide)
    exact ⟨reply, s', hreply, hs'⟩
  · obtain ⟨s', hs', -⟩ := hdecode block (AudioBlock.fill 1) _ [] voice .r2450 5 (hrest _) rfl rfl
      (by decide)
    exact ⟨s', hs'⟩
  · obtain ⟨r', l', a, b, hreceive, -, hpayload, ha, hb, -⟩ :=
      hgain 0x61 (-100) { lengthField := .masked } l [0x61] [] rfl rfl
        ⟨⟨rfl, rfl⟩, rfl, rfl, rfl, rfl, rfl⟩
    exact ⟨r', l', a, b, hreceive, hpayload, ha, hb⟩

end Session

end Vocoder
