import Mathlib
import Vocoder.Proofs.Handshake
import Vocoder.Proofs.Wiretap

/-!
# What a frame delivers

A frame call delivers the data of one packet or nothing. The packet is the one that answered the frame
itself; what was heard while rate and gain were adopted is never delivered, and a call that fails leaves
the caller's buffer or block as it was.

* **`exchange_answered_last`** — after an exchange that succeeded the reader holds the packet that
  answered it.
* **`decodeSamples_getElem?`** — a word of the data is a sample.
* **`frames_all_or_nothing`** — what both frame calls make of the caller's buffer, whatever the chip sends.
-/

namespace Vocoder

open Workbench (Outcome)

/-! ## Data as samples -/

theorem decodeSamples_getElem? (bytes : List UInt8) (i : Nat) :
    (decodeSamples bytes)[i]? =
      (bytes[2 * i]?).bind fun hi => (bytes[2 * i + 1]?).map (sampleOfBytes hi) := by
  induction bytes using decodeSamples.induct generalizing i with
  | case1 hi lo rest ih =>
    unfold decodeSamples
    cases i with
    | zero => rfl
    | succ i =>
      rw [List.getElem?_cons_succ, ih, show 2 * (i + 1) = 2 * i + 1 + 1 by omega]
      simp only [List.getElem?_cons_succ]
  | case2 bytes h =>
    -- less than a word is left, so there is no word at any place
    have hshort : bytes.length < 2 := by
      rcases bytes with _ | ⟨a, _ | ⟨b, rest⟩⟩
      · simp
      · simp
      · exact (h a b rest rfl).elim
    have hempty : (decodeSamples bytes).length = 0 := by
      rw [length_decodeSamples]
      omega
    have hnone : bytes[2 * i + 1]? = none := List.getElem?_eq_none (by omega)
    rw [List.getElem?_eq_none (by omega), hnone]
    simp

theorem AudioBlock.samples_overwrite {data : List UInt8} (h : data.length = blockBytes)
    (base : AudioBlock) : (base.overwrite data).samples = decodeSamples data := by
  have hlength : (decodeSamples data).length = blockSamples := by
    rw [length_decodeSamples, h]
    rfl
  have hrest : base.samples.drop (decodeSamples data).length = [] := by
    apply List.drop_eq_nil_of_le
    rw [hlength, base.length_samples]
  show (decodeSamples data ++ base.samples.drop (decodeSamples data).length).take blockSamples = _
  rw [hrest, List.append_nil, List.take_of_length_le (by omega)]

theorem AudioBlock.getElem?_overwrite {payload : List UInt8}
    (h : dataOffset + blockBytes ≤ payload.length) (base : AudioBlock) {i : Nat} (hi : i < blockSamples) :
    ∃ hi lo, payload[dataOffset + 2 * i]? = some hi ∧ payload[dataOffset + (2 * i + 1)]? = some lo ∧
      (base.overwrite ((payload.drop dataOffset).take blockBytes)).samples[i]? =
        some (sampleOfBytes hi lo) := by
  have hword : 2 * i + 1 < blockBytes := by
    unfold blockBytes
    omega
  have hhi : dataOffset + 2 * i < payload.length := by omega
  have hlo : dataOffset + (2 * i + 1) < payload.length := by omega
  have hwhole : ((payload.drop dataOffset).take blockBytes).length = blockBytes := by
    rw [List.length_take, List.length_drop]
    omega
  refine ⟨_, _, List.getElem?_eq_getElem hhi, List.getElem?_eq_getElem hlo, ?_⟩
  rw [samples_overwrite hwhole, decodeSamples_getElem?, List.getElem?_take_of_lt (by omega),
    List.getElem?_take_of_lt hword, List.getElem?_drop, List.getElem?_drop,
    List.getElem?_eq_getElem hhi, List.getElem?_eq_getElem hlo]
  simp

theorem front_replaced {payload buffer : List UInt8} {n : Nat} (hbuffer : n ≤ buffer.length)
    (hpayload : dataOffset + n ≤ payload.length) :
    let buffer' := (payload.drop dataOffset).take n ++ buffer.drop n
    buffer'.length = buffer.length ∧ (∀ i < n, buffer'[i]? = payload[dataOffset + i]?) ∧
      ∀ i ≥ n, buffer'[i]? = buffer[i]? := by
  intro buffer'
  have hfront : ((payload.drop dataOffset).take n).length = n := by
    rw [List.length_take, List.length_drop]
    omega
  refine ⟨?_, ?_, ?_⟩
  · rw [List.length_append, hfront, List.length_drop]
    omega
  · intro i hi
    rw [List.getElem?_append_left (by omega), List.getElem?_take_of_lt hi, List.getElem?_drop]
  · intro i hi
    rw [List.getElem?_append_right (by omega), hfront, List.getElem?_drop, Nat.add_sub_cancel' hi]

/-! ## The packet that answers -/

namespace Session

variable {L : Type} [Line L] {s s' s₁ : Session (Wiretap L)}

/-- The exchange of the request came last: the packet held is of this kind and was heard in answer to it. -/
structure AnsweredLast (s s' : Session (Wiretap L)) (request : List UInt8) (kind : Response) : Prop where
  log : ∃ earlier, s'.log =
    { request := request, sent := .ok (), heard := [(.ok kind, s'.held)] } :: (earlier ++ s.log)
  classify_held : Response.classify s'.held = kind

theorem exchange_answered_last {request : List UInt8} {expected : Response}
    (hs : s.exchange request expected = (.ok (), s')) : s.AnsweredLast s' request expected := by
  unfold exchange at hs
  cases hline : s.line with
  | none =>
    rw [hline] at hs
    cases hs
  | some t =>
    rw [hline] at hs
    dsimp only at hs
    rcases hsend : Line.send t.line request with ⟨_ | _, l₁⟩
    all_goals rw [Wiretap.send_eq hsend] at hs
    · cases hs
    · dsimp only at hs
      rcases hreceive : s.reader.receive l₁ with ⟨_ | got, r, l₂⟩
      all_goals rw [Wiretap.receive_eq (t := ⟨l₁, _⟩) hreceive] at hs
      · cases hs
      · dsimp only at hs
        obtain ⟨hgot, rfl⟩ := Prod.mk.inj hs
        -- an answer of another kind would have been a fault
        have hkind : got = expected := by
          unfold require at hgot
          split at hgot
          · assumption
          · split at hgot <;> cases hgot
        subst hkind
        refine ⟨⟨[], ?_⟩, (Reader.receive_ok hreceive).1⟩
        simp [log, withLine, hline, Exchange.hear]

theorem fetch_answered_last {request data : List UInt8} {expected : Response} {n : Nat}
    (hs : s.fetch request expected n = (.ok data, s')) :
    s.AnsweredLast s' request expected ∧ dataOffset + n ≤ s'.reader.payload.length ∧
      data = s'.reader.data.take n := by
  unfold fetch at hs
  rcases hexchange : s.exchange request expected with ⟨_ | _, s₁⟩
  all_goals rw [hexchange] at hs
  · cases hs
  · obtain ⟨hdata, rfl⟩ := Prod.mk.inj hs
    unfold frameData at hdata
    split at hdata
    · cases hdata
    · cases hdata
      exact ⟨exchange_answered_last hexchange, by omega, rfl⟩

/-! ## A call as a whole -/

theorem kept_log (old : List Exchange) :
    Kept fun s : Session (Wiretap L) => ∃ new, s.log = new ++ old where
  exchange {s} request expected _ h := by
    obtain ⟨new, hnew⟩ := h
    by_cases hopen : s.isOpen = true
    · obtain ⟨e, -, hlogged, -⟩ := exchange_logged hopen (Prod.mk.eta (p := s.exchange request expected)).symm
      exact ⟨e :: new, by rw [hlogged.log, hnew]; rfl⟩
    · have hline : s.line = none := by simpa [isOpen] using hopen
      rw [exchange, hline]
      exact ⟨new, hnew⟩
  count _ h := h
  believe _ h := h

theorem AnsweredLast.of_prepareFrame {available : Nat} {rate : Rate} {d : Direction} {gain : Int}
    {x : Except Fault Unit} {request : List UInt8} {kind : Response}
    (hs : s.prepareFrame available rate d gain = (x, s₁)) (h : s₁.AnsweredLast s' request kind) :
    s.AnsweredLast s' request kind := by
  obtain ⟨new, hnew⟩ := (kept_log s.log).conserved.prepareFrame available rate d gain ⟨[], rfl⟩
  rw [hs] at hnew
  obtain ⟨earlier, hearlier⟩ := h.log
  exact ⟨⟨earlier ++ new, by rw [hearlier, hnew, List.append_assoc]⟩, h.classify_held⟩

omit [Line L] in
theorem AnsweredLast.countFrame {request : List UInt8} {kind : Response}
    (h : s.AnsweredLast s' request kind) (d : Direction) (x : Except Fault (List UInt8)) :
    s.AnsweredLast (s'.countFrame d x) request kind ∧
      (s'.countFrame d x).reader = s'.reader := by
  obtain ⟨f, hf⟩ := s'.exists_countFrame_eq d x
  rw [hf]
  exact ⟨⟨h.log, h.classify_held⟩, rfl⟩

/-- A frame call fails, or it delivers the data of the packet that answered the frame. -/
theorem frame_delivery (s : Session (Wiretap L)) (f : FrameCall) :
    (∃ e, (f.run s).1 = f.failed e) ∨
      f.Fits ∧ s.AnsweredLast (f.run s).2 f.packet f.response ∧
        dataOffset + f.width ≤ (f.run s).2.reader.payload.length ∧
        (f.run s).1 = f.delivered ((f.run s).2.reader.data.take f.width) := by
  rw [f.run_eq]
  rcases hprepare : s.prepareFrame f.available f.rate f.direction f.gain with ⟨e | _, s₁⟩
  · exact .inl ⟨e, rfl⟩
  · rcases hfetch : s₁.fetch f.packet f.response f.width with ⟨e | data, s₂⟩
    all_goals simp only [hfetch]
    · exact .inl ⟨e, rfl⟩
    · right
      obtain ⟨hlast, hlength, hdata⟩ := fetch_answered_last hfetch
      obtain ⟨hcounted, hreader⟩ :=
        (AnsweredLast.of_prepareFrame hprepare hlast).countFrame f.direction (.ok data)
      rw [hreader]
      exact ⟨FrameCall.fits_of_prepareFrame hprepare, hcounted, hlength, by rw [hdata]⟩

/-- Where a session is closed, or the caller's voice bytes are too few, nothing else is looked at. -/
theorem frame_refused {M : Type} [Port M] (s : Session M) (f : FrameCall) :
    (s.isOpen = false → f.run s = (f.failed .notOpen, s)) ∧
      (s.isOpen = true → ¬ f.Fits →
        f.run s = (f.failed (.bufferTooSmall f.rate.voiceBytes f.available), s)) := by
  refine ⟨Call.run_of_closed (.frame f), ?_⟩
  intro hopen hfits
  have hsmall : f.available < f.rate.voiceBytes := Nat.not_le.mp hfits
  rw [f.run_eq, prepareFrame, if_pos hopen, if_pos hsmall]

/-- **Encoding and decoding are all or nothing.** An encoding that succeeds gives the width of the rate.
The chip answered the audio packet by a voice packet, the last one received, whose payload has the field
identifier, the count and at least a frame; the front of the buffer is that frame and the rest of it is
unchanged. A decoding that succeeds has every sample out of the audio packet received last. A call that
fails leaves the whole buffer, or every sample, as it was.

A closed session, and then a buffer or frame that is too narrow, are refused before all else: the session
is left just as it was, with its cache, its counts, what its reader holds, and its line, which is neither
prepared nor written to nor read. The wiretap changes nothing about the calls. -/
theorem frames_all_or_nothing (s : Session (Wiretap L)) :
    (∀ audio buffer rate gain,
      match s.encode audio buffer rate gain with
      | (.error _, buffer', _) => buffer' = buffer
      | (.ok n, buffer', s') =>
        n = rate.voiceBytes ∧ s.AnsweredLast s' (audioPacket audio) .voice ∧
        dataOffset + n ≤ s'.reader.payload.length ∧ buffer'.length = buffer.length ∧
        (∀ i < n, buffer'[i]? = s'.reader.payload[dataOffset + i]?) ∧
        ∀ i ≥ n, buffer'[i]? = buffer[i]?) ∧
    (∀ voice audio rate gain,
      match s.decode voice audio rate gain with
      | (.error _, audio', _) => audio' = audio
      | (.ok (), audio', s') =>
        (∃ request, voicePacket voice rate .host = .ok request ∧ s.AnsweredLast s' request .audio) ∧
        dataOffset + blockBytes ≤ s'.reader.payload.length ∧
        ∀ i < blockSamples, ∃ hi lo,
          s'.reader.payload[dataOffset + 2 * i]? = some hi ∧
          s'.reader.payload[dataOffset + (2 * i + 1)]? = some lo ∧
          audio'.samples[i]? = some (sampleOfBytes hi lo)) ∧
    (∀ f : FrameCall, s.isOpen = false → f.run s = (f.failed .notOpen, s)) ∧
    (∀ f : FrameCall, s.isOpen = true → ¬ f.Fits →
      f.run s = (f.failed (.bufferTooSmall f.rate.voiceBytes f.available), s)) ∧
    ∀ f : FrameCall,
      f.run (s.mapLine Wiretap.line) = ((f.run s).1, (f.run s).2.mapLine Wiretap.line) := by
  refine ⟨?_, ?_, fun f => (s.frame_refused f).1, fun f => (s.frame_refused f).2,
    fun f => Wiretap.erases.call s (.frame f)⟩
  · intro audio buffer rate gain
    have hcases := s.frame_delivery (.encode audio buffer rate gain)
    rcases hencode : s.encode audio buffer rate gain with ⟨_ | n, buffer', s'⟩
    all_goals simp only [FrameCall.run, hencode] at hcases ⊢
    · rcases hcases with ⟨e, he⟩ | ⟨-, -, -, hdelivered⟩
      · cases he
        rfl
      · cases hdelivered
    · rcases hcases with ⟨e, he⟩ | ⟨hfits, hlast, hlength, hdelivered⟩
      · cases he
      · cases hdelivered
        exact ⟨rfl, hlast, hlength, front_replaced hfits hlength⟩
  · intro voice audio rate gain
    have hcases := s.frame_delivery (.decode voice audio rate gain)
    rcases hdecode : s.decode voice audio rate gain with ⟨_ | _, audio', s'⟩
    all_goals simp only [FrameCall.run, hdecode] at hcases ⊢
    · rcases hcases with ⟨e, he⟩ | ⟨-, -, -, hdelivered⟩
      · cases he
        rfl
      · cases hdelivered
    · rcases hcases with ⟨e, he⟩ | ⟨hfits, hlast, hlength, hdelivered⟩
      · cases he
      · cases hdelivered
        exact ⟨⟨_, voicePacket_host hfits, hlast⟩, hlength,
          fun i hi => AudioBlock.getElem?_overwrite hlength audio hi⟩

/-- A session whose chip acknowledges a rate and then answers by a voice packet of nine data bytes, two more
than a frame at that rate has. -/
def answeredAtLength : Session (Wiretap BenchLine) where
  line := some
    { line :=
        { replies :=
            [ packet controlType [rateSubtype, 0x00],
              packet voiceType [channelField, 0x31, 1, 2, 3, 4, 5, 6, 7, 8, 9] ] } }

/-- A session whose chip answers by an audio packet whose second sample is -2, the others 1. -/
def answeredByAudio : Session (Wiretap BenchLine) where
  line := some
    { line :=
        { replies :=
            [ packet audioType
                (speechField :: 160 ::
                  ([0, 1, 0xff, 0xfe] ++ (List.replicate 158 [0, 1]).flatten)) ] } }

/-- A buffer keeps its rest behind the frame, and a sample is the word at its place: with the bytes `ff` and
`fe` it is -2. -/
theorem frames_all_or_nothing_answeredAtLength :
    (answeredAtLength.encode (AudioBlock.fill 0) (List.replicate 8 0xff) .r2450 0).1 = .ok 7 ∧
      (answeredAtLength.encode (AudioBlock.fill 0) (List.replicate 8 0xff) .r2450 0).2.1 =
        [1, 2, 3, 4, 5, 6, 7, 0xff] ∧
      answeredAtLength.AnsweredLast
        (answeredAtLength.encode (AudioBlock.fill 0) (List.replicate 8 0xff) .r2450 0).2.2
        (audioPacket (AudioBlock.fill 0)) .voice ∧
      (FrameCall.encode (AudioBlock.fill 0) (List.replicate 6 0xff) .r2450 0).run answeredAtLength =
        (.encoded (.error (.bufferTooSmall 7 6)) (List.replicate 6 0xff), answeredAtLength) ∧
      (answeredByAudio.decode [] (AudioBlock.fill 5) .none 0).1 = .ok () ∧
      (answeredByAudio.decode [] (AudioBlock.fill 5) .none 0).2.1.samples[1]? = some (-2 : Int16) := by
  obtain ⟨hencode, -, -, hsmall, -⟩ := frames_all_or_nothing answeredAtLength
  have hok : (answeredAtLength.encode (AudioBlock.fill 0) (List.replicate 8 0xff) .r2450 0).1 = .ok 7 := by
    decide +kernel
  have hwide := hencode (AudioBlock.fill 0) (List.replicate 8 0xff) .r2450 0
  rw [show answeredAtLength.encode (AudioBlock.fill 0) (List.replicate 8 0xff) .r2450 0 =
    (.ok 7, _, _) from Prod.ext hok rfl] at hwide
  obtain ⟨-, hlast, -⟩ := hwide
  obtain ⟨-, hdecode, -⟩ := frames_all_or_nothing answeredByAudio
  have hdecoded : (answeredByAudio.decode [] (AudioBlock.fill 5) .none 0).1 = .ok () := by
    decide +kernel
  have hheard : (answeredByAudio.decode [] (AudioBlock.fill 5) .none 0).2.2.reader.payload[4]? = some 0xff ∧
      (answeredByAudio.decode [] (AudioBlock.fill 5) .none 0).2.2.reader.payload[5]? = some 0xfe := by
    decide +kernel
  have hblock := hdecode [] (AudioBlock.fill 5) .none 0
  rw [show answeredByAudio.decode [] (AudioBlock.fill 5) .none 0 =
    (.ok (), _, _) from Prod.ext hdecoded rfl] at hblock
  obtain ⟨-, -, hsamples⟩ := hblock
  obtain ⟨hi, lo, hhi, hlo, hsample⟩ := hsamples 1 (by decide)
  cases hhi.symm.trans hheard.1
  cases hlo.symm.trans hheard.2
  exact ⟨hok, by decide +kernel, hlast, hsmall _ rfl (by decide), hdecoded, hsample⟩

end Session

end Vocoder
