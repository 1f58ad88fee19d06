import Mathlib
import Vocoder.Proofs.Hearing
import Vocoder.Proofs.Passage

/-!
# What a device receives of some blocks

Two frames go out for a block: its audio, and the voice that came of it. Before them the session brings the
device to the rate and the gain, which only the first block needs.

* **`leg_standing`** — both frames of a block, from any settings.
* **`Passage.standing`** — the frames of a passage, and what is counted on the way.
* **`requestsFrom_new`**, **`countsFrom_new`** — the same for a new session, block by block.
* **`requestsFrom_chunks`** — the requests from the bytes of the input, with the bytes of every sample in the
  other order.
-/

namespace Vocoder

namespace LoopTest

/-- The voice packet of a frame. -/
def voiceRequest (rate : Rate) (frame : List UInt8) : List UInt8 :=
  packet voiceType (channelField :: UInt8.ofNat rate.voiceBits :: frame)

/-- What is sent for a block at some settings, which have no input gain: the audio packet, and if a frame
came of it the voice packet, each after the request for its settings. -/
def legRequests (t : Settings) (rate : Rate) (gain : Int) (block : AudioBlock) :
    Option (List UInt8) → List (List UInt8)
  | none => t.rateStep rate ++ [audioPacket block]
  | some frame =>
    t.rateStep rate ++ [audioPacket block] ++ (t.gainStep .output gain ++ [voiceRequest rate frame])

/-- The settings once a block is through. -/
def settled (rate : Rate) (gain : Int) : Settings where
  rate := rate
  gainOut := gain

def requestsFrom (t : Settings) (rate : Rate) (gain : Int) :
    List (AudioBlock × Option (List UInt8)) → List (List UInt8)
  | [] => []
  | (block, frame?) :: later =>
    legRequests t rate gain block frame? ++ requestsFrom (settled rate gain) rate gain later

namespace Stop

/-- How many blocks were encoded, but did not come through. -/
def encoded : Stop → Nat
  | through | encoding _ => 0
  | decoding .. => 1

/-- The frames that blocks were encoded to, of all the blocks that were tried. -/
def frames (trips : List Trip) : Stop → List (Option (List UInt8))
  | through => trips.map fun t => some t.frame
  | encoding _ => (trips.map fun t => some t.frame) ++ [none]
  | decoding frame _ => (trips.map fun t => some t.frame) ++ [some frame]

theorem frames_cons (trip : Trip) (trips : List Trip) (stop : Stop) :
    stop.frames (trip :: trips) = some trip.frame :: stop.frames trips := by
  cases stop <;> rfl

end Stop

/-- The counts after some blocks were tried at some settings. -/
def countsFrom (t : Settings) (c : Stats) (rate : Rate) (gain : Int) (blocks : List AudioBlock)
    (trips : List Trip) (stop : Stop) : Stats where
  framesEncoded := c.framesEncoded + (trips.length + stop.encoded)
  framesDecoded := c.framesDecoded + trips.length
  rateRequests := c.rateRequests + if blocks.isEmpty then 0 else (t.rateStep rate).length
  gainRequests :=
    c.gainRequests + if trips.length + stop.encoded = 0 then 0 else (t.gainStep .output gain).length
  failedExchanges := c.failedExchanges + stop.fault?.toList.length

section Standing

variable {s s' : Session Link} {requests : List (List UInt8)} {t : Settings} {c : Stats} {rate : Rate}
  {gain : Int} {block audio : AudioBlock} {buffer voice frame : List UInt8}

/-- Encoding a block at settings without an input gain. -/
theorem encode_standing (h : s.Standing requests t c) (hgain : t.gainIn = 0)
    (hbuffer : buffer.length = Rate.maxVoiceBytes) {x : Except Fault Nat}
    (hencode : s.encode block buffer rate 0 = (x, voice, s')) :
    s'.Standing (requests ++ (t.rateStep rate ++ [audioPacket block])) (t.withRate rate)
      { c.addFrame .input (!x.isOk) with
        rateRequests := c.rateRequests + (t.rateStep rate).length } := by
  have hfits : (FrameCall.encode block buffer rate 0).Fits := rate.voiceBytes_le.trans hbuffer.ge
  have hstanding := FrameCall.standing h hfits
  have hstep : t.gainStep .input 0 = [] := if_pos hgain.symm
  have hrun : (FrameCall.encode block buffer rate 0).run s = (.encoded x voice, s') := by
    simp only [FrameCall.run, hencode]
  have hsettings : (t.withRate rate).withGain .input 0 = t.withRate rate :=
    Settings.withGain_self hgain.symm
  rw [hrun] at hstanding
  refine hstanding.of_eq ?_ hsettings ?_
  · simp only [FrameCall.schedule, FrameCall.rate, FrameCall.gain, FrameCall.direction,
      FrameCall.packet, hstep, List.append_nil]
  · simp only [FrameCall.account, FrameCall.rate, FrameCall.gain, FrameCall.direction, hstep]
    cases x <;> rfl

/-- Decoding a frame at the rate that is set. -/
theorem decode_standing (h : s.Standing requests t c) (hrate : t.rate = rate)
    (hframe : frame.length = rate.voiceBytes) {x : Except Fault Unit}
    (hdecode : s.decode frame block rate gain = (x, audio, s')) :
    s'.Standing (requests ++ (t.gainStep .output gain ++ [voiceRequest rate frame]))
      (t.withGain .output gain)
      { c.addFrame .output (!x.isOk) with
        gainRequests := c.gainRequests + (t.gainStep .output gain).length } := by
  have hstanding := FrameCall.standing (f := .decode frame block rate gain) h hframe.ge
  have hstep : t.rateStep rate = [] := if_pos hrate.symm
  have hpacket : (FrameCall.decode frame block rate gain).packet = voiceRequest rate frame := by
    rw [FrameCall.packet, voiceRequest, List.take_of_length_le hframe.le]
  have hrun : (FrameCall.decode frame block rate gain).run s = (.decoded x audio, s') := by
    simp only [FrameCall.run, hdecode]
  have hsettings : t.withRate rate = t := Settings.withRate_self hrate.symm
  rw [hrun] at hstanding
  refine hstanding.of_eq ?_ ?_ ?_
  · rw [FrameCall.schedule, hpacket]
    simp only [FrameCall.rate, FrameCall.gain, FrameCall.direction, hstep, List.nil_append]
  · show (t.withRate rate).withGain .output gain = _
    rw [hsettings]
  · simp only [FrameCall.account, FrameCall.rate, FrameCall.gain, FrameCall.direction, hstep]
    cases x <;> rfl

/-- Both calls for a block that is encoded to a frame. -/
theorem leg_standing {s₁ : Session Link} (h : s.Standing requests t c) (hgain : t.gainIn = 0)
    (hbuffer : buffer.length = Rate.maxVoiceBytes) {n : Nat} {x : Except Fault Unit}
    (hencode : s.encode block buffer rate 0 = (.ok n, voice, s₁))
    (hdecode : s₁.decode (voice.take n) block rate gain = (x, audio, s')) :
    s'.Standing (requests ++ legRequests t rate gain block (some (voice.take n))) (settled rate gain)
      { (c.addFrame .input false).addFrame .output (!x.isOk) with
        rateRequests := c.rateRequests + (t.rateStep rate).length
        gainRequests := c.gainRequests + (t.gainStep .output gain).length } := by
  obtain ⟨_, -, hvoice⟩ := encode_voiceBuffer hbuffer hencode
  obtain ⟨rfl, hframe, -⟩ := hvoice n rfl
  have h₂ := decode_standing (encode_standing h hgain hbuffer hencode) rfl hframe hdecode
  have hsettled : (t.withRate rate).withGain .output gain = settled rate gain := by
    show (⟨rate, t.gainIn, gain⟩ : Settings) = ⟨rate, 0, gain⟩
    rw [hgain]
  rw [Settings.gainStep_withRate] at h₂
  refine h₂.of_eq ?_ hsettled ?_
  · rw [List.append_assoc]
    rfl
  · cases x <;> rfl

end Standing

theorem rateStep_settled (rate : Rate) (gain : Int) : (settled rate gain).rateStep rate = [] :=
  if_pos rfl

theorem gainStep_settled (rate : Rate) (gain : Int) :
    (settled rate gain).gainStep .output gain = [] :=
  if_pos rfl

theorem countsFrom_cons (t : Settings) (c : Stats) (rate : Rate) (gain : Int) (block : AudioBlock)
    (later : List AudioBlock) (trip : Trip) (trips : List Trip) (stop : Stop) :
    countsFrom t c rate gain (block :: later) (trip :: trips) stop =
      countsFrom (settled rate gain)
        { (c.addFrame .input false).addFrame .output false with
          rateRequests := c.rateRequests + (t.rateStep rate).length
          gainRequests := c.gainRequests + (t.gainStep .output gain).length }
        rate gain later trips stop := by
  have htried : trips.length + 1 + stop.encoded ≠ 0 := by omega
  simp only [countsFrom, rateStep_settled, gainStep_settled, Stats.addFrame, List.length_nil, ite_self,
    List.isEmpty_cons, List.length_cons, Bool.false_eq_true, if_false, if_neg htried, Nat.add_zero,
    Stats.mk.injEq, and_true]
  omega

/-- **What a device receives on the way of some blocks**, and what is counted. The first block is tried at the
settings there are, and every later one at those that the first one left. -/
theorem Passage.standing {rate : Rate} {gain : Int} {s s' : Session Link} {blocks : List AudioBlock}
    {trips : List Trip} {stop : Stop} (h : Passage rate gain s blocks trips stop s')
    {requests : List (List UInt8)} {t : Settings} {c : Stats} (hs : s.Standing requests t c)
    (hgain : t.gainIn = 0) :
    ∃ t', s'.Standing (requests ++ requestsFrom t rate gain (blocks.zip (stop.frames trips))) t'
      (countsFrom t c rate gain blocks trips stop) := by
  induction h generalizing requests t c with
  | through =>
    refine ⟨t, ?_⟩
    show Session.Standing _ (requests ++ []) t c
    rw [List.append_nil]
    exact hs
  | @encoding s s' block later buffer voice f hbuffer hencode =>
    refine ⟨t.withRate rate, ?_⟩
    have h₁ := encode_standing hs hgain hbuffer hencode
    have hrequests : requestsFrom t rate gain ((block :: later).zip ((Stop.encoding f).frames [])) =
        t.rateStep rate ++ [audioPacket block] := by
      simp [Stop.frames, requestsFrom, legRequests]
    rw [hrequests]
    exact h₁
  | @decoding s s₁ s' block audio later buffer voice n f hbuffer hencode hdecode =>
    refine ⟨settled rate gain, ?_⟩
    have h₁ := leg_standing hs hgain hbuffer hencode hdecode
    have hrequests : requestsFrom t rate gain
        ((block :: later).zip ((Stop.decoding (voice.take n) f).frames [])) =
        legRequests t rate gain block (some (voice.take n)) := by
      simp [Stop.frames, requestsFrom]
    rw [hrequests]
    exact h₁
  | @next s s₁ s₂ s' block decoded later buffer voice n trips stop hbuffer hencode hdecode _ ih =>
    obtain ⟨t', h₂⟩ := ih (leg_standing hs hgain hbuffer hencode hdecode) rfl
    refine ⟨t', ?_⟩
    have hrequests : requestsFrom t rate gain
        ((block :: later).zip (stop.frames (⟨voice.take n, decoded⟩ :: trips))) =
        legRequests t rate gain block (some (voice.take n)) ++
          requestsFrom (settled rate gain) rate gain (later.zip (stop.frames trips)) := by
      rw [Stop.frames_cons]
      rfl
    -- the later blocks need no requests for settings any more
    rw [hrequests, ← List.append_assoc, countsFrom_cons]
    exact h₂

/-! ## From the start of a session -/

/-- The request for an output gain without an input gain: the signed byte of the clamped gain. -/
def outputGainRequest (gain : Int) : List UInt8 :=
  packet controlType [gainSubtype, 0, byteOfValue (clampGain gain)]

/-- What is sent for the block of a number in the row: only the first one comes with requests for the rate and
the gain. -/
def blockRequests (rate : Rate) (gain : Int) (i : Nat) (audio : List UInt8)
    (frame? : Option (List UInt8)) : List (List UInt8) :=
  (if i = 0 then rate.request?.toList else []) ++ [audio] ++
    match frame? with
    | none => []
    | some frame =>
      (if i = 0 ∧ gain ≠ 0 then [outputGainRequest gain] else []) ++ [voiceRequest rate frame]

theorem rateStep_new (rate : Rate) : ({} : Settings).rateStep rate = rate.request?.toList := by
  unfold Settings.rateStep
  split
  · rename_i hnone
    rw [hnone]
    rfl
  · rfl

theorem gainStep_new (gain : Int) :
    ({} : Settings).gainStep .output gain = if gain ≠ 0 then [outputGainRequest gain] else [] := by
  have hzero : byteOfValue (clampGain 0) = 0 := by decide +kernel
  show (if gain = 0 then [] else [gainRequest 0 gain]) = _
  rw [ite_not, gainRequest_clamped, hzero, outputGainRequest]

theorem legRequests_new (rate : Rate) (gain : Int) (block : AudioBlock) (frame? : Option (List UInt8)) :
    legRequests {} rate gain block frame? = blockRequests rate gain 0 (audioPacket block) frame? := by
  cases frame? with
  | none => simp [legRequests, blockRequests, rateStep_new]
  | some frame => simp [legRequests, blockRequests, rateStep_new, gainStep_new]

theorem legRequests_settled (rate : Rate) (gain : Int) (i : Nat) (block : AudioBlock)
    (frame? : Option (List UInt8)) :
    legRequests (settled rate gain) rate gain block frame? =
      blockRequests rate gain (i + 1) (audioPacket block) frame? := by
  cases frame? with
  | none => simp [legRequests, blockRequests, rateStep_settled]
  | some frame => simp [legRequests, blockRequests, rateStep_settled, gainStep_settled]

theorem requestsFrom_settled (rate : Rate) (gain : Int) (n : Nat)
    (tried : List (AudioBlock × Option (List UInt8))) :
    requestsFrom (settled rate gain) rate gain tried =
      (tried.mapIdx fun i x => blockRequests rate gain (i + (n + 1)) (audioPacket x.1) x.2).flatten := by
  induction tried generalizing n with
  | nil => rfl
  | cons x later ih =>
    rw [requestsFrom, ih (n + 1), legRequests_settled rate gain n, List.mapIdx_cons, List.flatten_cons]
    simp only [Nat.zero_add, Nat.add_comm, Nat.add_left_comm]

theorem requestsFrom_new (rate : Rate) (gain : Int) (tried : List (AudioBlock × Option (List UInt8))) :
    requestsFrom {} rate gain tried =
      (tried.mapIdx fun i x => blockRequests rate gain i (audioPacket x.1) x.2).flatten := by
  cases tried with
  | nil => rfl
  | cons x later =>
    rw [requestsFrom, legRequests_new, requestsFrom_settled rate gain 0, List.mapIdx_cons, List.flatten_cons]

/-! ## From the bytes of an input -/

/-- The audio packet of a chunk of input. The samples of the chunk have their low byte first, those of the
packet their high byte. -/
def audioRequest (chunk : List UInt8) : List UInt8 :=
  [0x61, 0x01, 0x42, 0x02, 0x00, 0xa0] ++ swapped chunk

theorem audioPacket_blockOf {chunk : List UInt8} (h : chunk.length = blockBytes) :
    audioPacket (blockOf chunk) = audioRequest chunk := by
  have hheader : audioHeader = [0x61, 0x01, 0x42, 0x02, 0x00, 0xa0] := by decide
  rw [audioPacket, samples_blockOf h, encodeSamples_decodeSamplesLow, hheader, audioRequest]

theorem requestsFrom_chunks (rate : Rate) (gain : Int) (bytes : List UInt8)
    (frames : List (Option (List UInt8))) :
    requestsFrom {} rate gain ((blocksOf bytes).1.zip frames) =
      (((chunksOf bytes).zip frames).mapIdx fun i x =>
        blockRequests rate gain i (audioRequest x.1) x.2).flatten := by
  rw [requestsFrom_new, (blocksOf_eq bytes).1]
  congr 1
  apply List.ext_getElem
  · simp
  · intro i hi _
    simp [audioPacket_blockOf (length_of_mem_chunksOf (List.getElem_mem _))]

/-- What a new session has counted when it is done with some blocks: no request for a rate without one, and
none for no gain. -/
def tally (rate : Rate) (gain : Int) (blocks : List AudioBlock) (trips : List Trip) (stop : Stop) :
    Stats where
  framesEncoded := trips.length + stop.encoded
  framesDecoded := trips.length
  rateRequests := if blocks.isEmpty then 0 else rate.request?.toList.length
  gainRequests := if trips.length + stop.encoded = 0 ∨ gain = 0 then 0 else 1
  failedExchanges := stop.fault?.toList.length

theorem countsFrom_new (rate : Rate) (gain : Int) (blocks : List AudioBlock) (trips : List Trip)
    (stop : Stop) : countsFrom {} {} rate gain blocks trips stop = tally rate gain blocks trips stop := by
  have hgain : (({} : Settings).gainStep .output gain).length = if gain = 0 then 0 else 1 := by
    rw [gainStep_new, ite_not]
    split <;> rfl
  unfold countsFrom tally
  rw [rateStep_new, hgain]
  simp only [Nat.zero_add, ite_or]

end LoopTest

end Vocoder
