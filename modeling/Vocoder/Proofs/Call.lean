import Vocoder.Proofs.Simulation
import Vocoder.Workbench

/-!
# Calls

What a caller can ask of an open session, as data: to change the rate, to change the gains, or to send a
frame through the chip. Encoding and decoding run through the same stations and differ in what they send
and in what they make of the answer.

* `FrameCall.run_eq` — both frame calls are a preparation, one exchange, and a count.
* `classify_rateRequest`, `classify_gainRequest`, `FrameCall.classify_packet` — requests for settings can be
  told from each other and from frames.
* `Workbench.step_call` — a call at the workbench is the call on its session.
* `Session.Conserved.call` — what every whole request keeps is kept by every call.
* `Session.Kept.call` — so is what exchanges keep and what does not depend on counts and settings. A
  session stays open, or closed, through every call (`Call.isOpen_run`).
* `Call.run_of_closed` — a closed session refuses every call.
* `Similar.call` — over corresponding ports a call gives the same, but for the names of faults.
-/

namespace Vocoder

open Workbench (Outcome)

/-! ## Frames -/

/-- A call that sends one frame through the chip. -/
inductive FrameCall where
  | encode (audio : AudioBlock) (buffer : List UInt8) (rate : Rate) (gain : Int)
  | decode (voice : List UInt8) (audio : AudioBlock) (rate : Rate) (gain : Int)

namespace FrameCall

/-- The rate the frame needs. -/
def rate : FrameCall → Rate
  | encode _ _ rate _ => rate
  | decode _ _ rate _ => rate

/-- The gain the frame needs, in its own direction. -/
def gain : FrameCall → Int
  | encode _ _ _ gain => gain
  | decode _ _ _ gain => gain

/-- The way of the frame through the chip. -/
def direction : FrameCall → Direction
  | encode .. => .input
  | decode .. => .output

/-- How many voice bytes the caller brings, as room or as a frame. -/
def available : FrameCall → Nat
  | encode _ buffer _ _ => buffer.length
  | decode voice _ _ _ => voice.length

/-- The caller's voice bytes are as many as a frame of the rate has. -/
def Fits (f : FrameCall) : Prop :=
  f.rate.voiceBytes ≤ f.available

instance (f : FrameCall) : Decidable f.Fits :=
  inferInstanceAs (Decidable (_ ≤ _))

def packet : FrameCall → List UInt8
  | encode audio _ _ _ => audioPacket audio
  | decode voice _ rate _ =>
    Vocoder.packet voiceType
      (channelField :: UInt8.ofNat rate.voiceBits :: voice.take rate.voiceBytes)

def response : FrameCall → Response
  | encode .. => .voice
  | decode .. => .audio

/-- How many bytes of data the answer must carry. -/
def width : FrameCall → Nat
  | encode _ _ rate _ => rate.voiceBytes
  | decode .. => blockBytes

/-- What a failed call gives: the caller's buffer or block is as it was. -/
def failed (f : FrameCall) (e : Fault) : Outcome :=
  match f with
  | encode _ buffer _ _ => .encoded (.error e) buffer
  | decode _ audio _ _ => .decoded (.error e) audio

/-- What a successful call makes of the data of the answer. -/
def delivered (f : FrameCall) (data : List UInt8) : Outcome :=
  match f with
  | encode _ buffer rate _ => .encoded (.ok rate.voiceBytes) (data ++ buffer.drop rate.voiceBytes)
  | decode _ audio _ _ => .decoded (.ok ()) (audio.overwrite data)

variable {L : Type} [Port L]

def run (s : Session L) : FrameCall → Outcome × Session L
  | encode audio buffer rate gain =>
    match s.encode audio buffer rate gain with
    | (result, buffer, s) => (.encoded result buffer, s)
  | decode voice audio rate gain =>
    match s.decode voice audio rate gain with
    | (result, audio, s) => (.decoded result audio, s)

theorem fits_of_prepareFrame {s s' : Session L} {available : Nat} {rate : Rate} {d : Direction}
    {gain : Int} (h : s.prepareFrame available rate d gain = (.ok (), s')) :
    rate.voiceBytes ≤ available := by
  rw [Session.prepareFrame] at h
  by_cases hopen : s.isOpen = true
  · rw [if_pos hopen] at h
    by_cases hsmall : available < rate.voiceBytes
    · rw [if_pos hsmall] at h
      cases h
    · exact Nat.le_of_not_lt hsmall
  · rw [if_neg hopen] at h
    cases h

/-- The packet of a frame that fits is what a session sends. -/
theorem isRequest_packet (f : FrameCall) (h : f.Fits) : IsRequest f.packet := by
  cases f with
  | encode audio buffer rate gain => exact .audio audio
  | decode voice audio rate gain => exact .voice (voicePacket_host h)

/-- **Both frame calls run through the same stations.** The packet of a decoding is never refused: the
preparation has seen that the caller's voice bytes suffice. -/
theorem run_eq (f : FrameCall) (s : Session L) :
    f.run s =
      match s.prepareFrame f.available f.rate f.direction f.gain with
      | (.error e, s₁) => (f.failed e, s₁)
      | (.ok (), s₁) =>
        match s₁.fetch f.packet f.response f.width with
        | (.error e, s₂) => (f.failed e, s₂.countFrame f.direction (.error e))
        | (.ok data, s₂) => (f.delivered data, s₂.countFrame f.direction (.ok data)) := by
  cases f with
  | encode audio buffer rate gain =>
    simp only [run, Session.encode, available, FrameCall.rate, direction, FrameCall.gain, packet,
      response, width]
    rcases s.prepareFrame buffer.length rate .input gain with ⟨_ | _, s₁⟩
    · rfl
    · rcases hfetch : s₁.fetch (audioPacket audio) .voice rate.voiceBytes with ⟨_ | _, s₂⟩
      · simp only [hfetch]
        rfl
      · simp only [hfetch]
        rfl
  | decode voice audio rate gain =>
    simp only [run, Session.decode, available, FrameCall.rate, direction, FrameCall.gain, packet,
      response, width]
    rcases hprepare : s.prepareFrame voice.length rate .output gain with ⟨_ | _, s₁⟩
    · rfl
    · -- a frame that was prepared fits, so its packet is not refused
      rw [voicePacket_host (fits_of_prepareFrame hprepare)]
      dsimp only
      generalize Vocoder.packet voiceType _ = request
      rcases s₁.fetch request .audio blockBytes with ⟨_ | _, s₂⟩
      · rfl
      · rfl

end FrameCall

/-! ## Calls -/

inductive Call where
  | setRate (rate : Rate)
  | setGain (gainIn gainOut : Int)
  | frame (f : FrameCall)

namespace Call

def run {L : Type} [Port L] (s : Session L) : Call → Outcome × Session L
  | setRate rate =>
    match s.setRate rate with
    | (result, s) => (.finished result, s)
  | setGain gainIn gainOut =>
    match s.setGain gainIn gainOut with
    | (result, s) => (.finished result, s)
  | frame f => f.run s

def step : Call → Workbench.Step
  | setRate rate => .setRate rate
  | setGain gainIn gainOut => .setGain gainIn gainOut
  | frame (.encode audio buffer rate gain) => .encode audio buffer rate gain
  | frame (.decode voice audio rate gain) => .decode voice audio rate gain

end Call

/-- A call at the workbench is the call on its session, and nothing else changes. -/
theorem Workbench.step_call (w : Workbench) (c : Call) :
    w.step c.step = ((c.run w.session).1, { w with session := (c.run w.session).2 }) := by
  cases c with
  | setRate rate => rfl
  | setGain gainIn gainOut => rfl
  | frame f =>
    cases f with
    | encode audio buffer rate gain => rfl
    | decode voice audio rate gain => rfl

/-! ## The gains of a request -/

/-- The byte of a signed value from -128 to 127. -/
def byteOfValue (n : Int) : UInt8 :=
  (((List.range 256).map UInt8.ofNat).find? (signedByte · = n)).getD 0

theorem signedByte_inj {a b : UInt8} (h : signedByte a = signedByte b) : a = b := by
  have ha := a.toNat_lt
  have hb := b.toNat_lt
  unfold signedByte at h
  apply UInt8.toNat_inj.mp
  split at h <;> split at h <;> omega

theorem byteOfValue_signedByte (b : UInt8) : byteOfValue (signedByte b) = b := by
  unfold byteOfValue
  cases hfind : ((List.range 256).map UInt8.ofNat).find? (signedByte · = signedByte b) with
  | none =>
    -- the byte itself is among them
    have hmem : b ∈ (List.range 256).map UInt8.ofNat :=
      List.mem_map.mpr ⟨b.toNat, List.mem_range.mpr b.toNat_lt, UInt8.ofNat_toNat⟩
    exact absurd (decide_eq_true rfl) (List.find?_eq_none.mp hfind b hmem)
  | some a =>
    have ha := List.find?_some hfind
    exact signedByte_inj (of_decide_eq_true ha)

/-- A request for gains carries the clamped gains, input first. -/
theorem gainRequest_clamped (gainIn gainOut : Int) :
    gainRequest gainIn gainOut =
      packet controlType
        [gainSubtype, byteOfValue (clampGain gainIn), byteOfValue (clampGain gainOut)] := by
  rw [gainRequest_eq, ← signedByte_gainByte gainIn, ← signedByte_gainByte gainOut,
    byteOfValue_signedByte, byteOfValue_signedByte]

/-! ## Kinds of requests -/

theorem classify_rateRequest {rate : Rate} {bytes : List UInt8} (h : rate.request? = some bytes) :
    Response.classify bytes = .rate := by
  rw [Rate.request?] at h
  obtain ⟨words, -, rfl⟩ := Option.map_eq_some_iff.mp h
  rw [Response.classify_packet]
  rfl

theorem classify_gainRequest (gainIn gainOut : Int) :
    Response.classify (gainRequest gainIn gainOut) = .gain := by
  rw [gainRequest_eq, Response.classify_packet]
  rfl

theorem classify_audioPacket (block : AudioBlock) :
    Response.classify (audioPacket block) = .audio := by
  rw [audioPacket_eq, Response.classify_packet]
  rfl

/-- What a frame call sends through the chip. -/
def FrameCall.kind : FrameCall → Response
  | encode .. => .audio
  | decode .. => .voice

theorem FrameCall.classify_eq_kind (f : FrameCall) : Response.classify f.packet = f.kind := by
  cases f with
  | encode audio buffer rate gain => exact classify_audioPacket audio
  | decode voice audio rate gain =>
    rw [FrameCall.packet, Response.classify_packet]
    rfl

theorem FrameCall.classify_packet (f : FrameCall) :
    Response.classify f.packet ≠ .rate ∧ Response.classify f.packet ≠ .gain := by
  rw [f.classify_eq_kind]
  cases f with
  | encode | decode => exact ⟨nofun, nofun⟩

theorem Rate.exists_request {rate : Rate} (h : rate ≠ .none) : ∃ bytes, rate.request? = some bytes := by
  cases rate with
  | none => exact absurd rfl h
  | _ => exact ⟨_, rfl⟩

/-! ## What every call keeps -/

/-- A property of sessions that every whole request keeps, and believing. In the middle of a request, when
it is sent and not counted yet or the other way round, it need not hold. -/
structure Session.Conserved {L : Type} [Port L] (P : Session L → Prop) : Prop where
  requestRate : ∀ {s} (rate : Rate), P s → P (s.requestRate rate).2
  requestGain : ∀ {s} (t : Settings), P s → P (s.requestGain t).2
  believe : ∀ {s} (t : Settings), P s → P (s.believe t)
  frame : ∀ {s} {f : FrameCall}, f.Fits → P s →
    P ((s.fetch f.packet f.response f.width).2.countFrame f.direction
      (s.fetch f.packet f.response f.width).1)

namespace Session.Conserved

variable {L : Type} [Port L] {P : Session L → Prop} {s : Session L}

theorem settle (C : Conserved P) (what : String) (t : Settings) (x : Except Fault Unit) (h : P s) :
    P (Session.settle what t (x, s)).2 := by
  cases x with
  | ok _ => exact C.believe t h
  | error f =>
    rw [Session.settle]
    cases s.config.cachePolicy with
    | always => exact C.believe t h
    | onSuccess => exact h

theorem adoptRate (C : Conserved P) (rate : Rate) (h : P s) : P (s.adoptRate rate).2 := by
  rw [Session.adoptRate]
  split
  · exact h
  · exact C.settle "rate" _ _ (C.requestRate rate h)

theorem adoptGain (C : Conserved P) (d : Direction) (gain : Int) (h : P s) :
    P (s.adoptGain d gain).2 := by
  rw [Session.adoptGain]
  split
  · exact h
  · exact C.settle "gain" _ _ (C.requestGain _ h)

theorem prepareFrame (C : Conserved P) (available : Nat) (rate : Rate) (d : Direction) (gain : Int)
    (h : P s) : P (s.prepareFrame available rate d gain).2 := by
  rw [Session.prepareFrame]
  split
  · split
    · exact h
    · have h₁ := C.adoptRate rate h
      rcases hrate : s.adoptRate rate with ⟨_ | _, s₁⟩
      · rw [hrate] at h₁
        exact h₁
      · rw [hrate] at h₁
        exact C.adoptGain d gain h₁
  · exact h

theorem frameCall (C : Conserved P) (f : FrameCall) (h : P s) : P (f.run s).2 := by
  rw [f.run_eq]
  have h₁ := C.prepareFrame f.available f.rate f.direction f.gain h
  rcases hprepare : s.prepareFrame f.available f.rate f.direction f.gain with ⟨_ | _, s₁⟩
  all_goals rw [hprepare] at h₁
  · exact h₁
  · have hfits : f.Fits := FrameCall.fits_of_prepareFrame hprepare
    have h₂ := C.frame hfits h₁
    rcases hfetch : s₁.fetch f.packet f.response f.width with ⟨_ | _, s₂⟩
    all_goals
      rw [hfetch] at h₂
      simp only [hfetch]
      exact h₂

/-- **What every whole request keeps, every call keeps.** -/
theorem call (C : Conserved P) (c : Call) (h : P s) : P (c.run s).2 := by
  cases c with
  | setRate rate =>
    show P (s.setRate rate).2
    rw [Session.setRate]
    split
    · have h₁ := C.requestRate rate h
      rcases hrequest : s.requestRate rate with ⟨_ | _, s₁⟩
      all_goals rw [hrequest] at h₁
      · exact h₁
      · exact C.believe _ h₁
    · exact h
  | setGain gainIn gainOut =>
    show P (s.setGain gainIn gainOut).2
    rw [Session.setGain]
    split
    · have h₁ := C.requestGain { s.settings with gainIn := gainIn, gainOut := gainOut } h
      rcases hrequest : s.requestGain { s.settings with gainIn := gainIn, gainOut := gainOut } with
        ⟨_ | _, s₁⟩
      all_goals rw [hrequest] at h₁
      · exact h₁
      · exact C.believe _ h₁
    · exact h
  | frame f => exact C.frameCall f h

end Session.Conserved

/-- A property of sessions that exchanges keep, and that counting and believing keep. -/
structure Session.Kept {L : Type} [Port L] (P : Session L → Prop) : Prop where
  exchange : ∀ {s} {request : List UInt8} (expected : Response), IsRequest request → P s →
    P (s.exchange request expected).2
  count : ∀ {s} (f : Stats → Stats), P s → P (s.count f)
  believe : ∀ {s} (t : Settings), P s → P (s.believe t)

namespace Session.Kept

variable {L : Type} [Port L] {P : Session L → Prop} {s s' : Session L}

theorem requestRate (K : Kept P) (rate : Rate) (h : P s) : P (s.requestRate rate).2 := by
  rw [Session.requestRate]
  cases hrequest : rate.request? with
  | none => exact h
  | some request => exact K.exchange .rate (.rate hrequest) (K.count _ h)

theorem requestGain (K : Kept P) (t : Settings) (h : P s) : P (s.requestGain t).2 :=
  K.exchange .gain (.gain ..) (K.count _ h)

theorem fetch (K : Kept P) {request : List UInt8} (expected : Response) (n : Nat)
    (hrequest : IsRequest request) (h : P s) : P (s.fetch request expected n).2 := by
  have h₁ := K.exchange expected hrequest h
  rw [Session.fetch]
  rcases hexchange : s.exchange request expected with ⟨_ | _, s₁⟩
  all_goals
    rw [hexchange] at h₁
    exact h₁

theorem countFrame (K : Kept P) (d : Direction) (x : Except Fault (List UInt8)) (h : P s) :
    P (s.countFrame d x) := by
  obtain ⟨f, hf⟩ := s.exists_countFrame_eq d x
  rw [hf]
  exact K.count f h

/-- What exchanges keep and counting keeps, whole requests keep. -/
theorem conserved (K : Kept P) : Conserved P where
  requestRate := K.requestRate
  requestGain := K.requestGain
  believe := K.believe
  frame {_ f} hfits h :=
    K.countFrame f.direction _ (K.fetch f.response f.width (f.isRequest_packet hfits) h)

theorem frame (K : Kept P) (f : FrameCall) (h : P s) : P (f.run s).2 :=
  K.conserved.frameCall f h

/-- **What every call keeps.** -/
theorem call (K : Kept P) (c : Call) (h : P s) : P (c.run s).2 :=
  K.conserved.call c h

/-- Exchanges neither open nor close a session. -/
theorem of_isOpen (b : Bool) : Kept fun s : Session L => s.isOpen = b where
  exchange {s} request expected _ h := by
    rw [Session.exchange]
    cases hl : s.line with
    | none => exact h
    | some l =>
      have hopen : true = b := by
        rw [← h, Session.isOpen, hl]
        rfl
      dsimp only
      rcases Port.send l request with ⟨_ | _, l₁⟩
      · exact hopen
      · dsimp only
        rcases Port.receive s.reader l₁ with ⟨_ | _, r, l₂⟩
        · exact hopen
        · exact hopen
  count _ h := h
  believe _ h := h

theorem of_config (c : SessionConfig) : Kept fun s : Session L => s.config = c where
  exchange {s} request expected _ h := by
    rw [Session.exchange]
    cases hl : s.line with
    | none => exact h
    | some l =>
      dsimp only
      rcases Port.send l request with ⟨_ | _, l₁⟩
      · exact h
      · dsimp only
        rcases Port.receive s.reader l₁ with ⟨_ | _, r, l₂⟩
        · exact h
        · exact h
  count _ h := h
  believe _ h := h

/-- Exchanges tell nothing new of the chip's name. -/
theorem of_productName (name : Option String) :
    Kept fun s : Session L => s.productName = name where
  exchange {s} request expected _ h := by
    rw [Session.exchange]
    cases s.line with
    | none => exact h
    | some l =>
      dsimp only
      rcases Port.send l request with ⟨_ | _, l₁⟩
      · exact h
      · dsimp only
        rcases Port.receive s.reader l₁ with ⟨_ | _, r, l₂⟩
        · exact h
        · exact h
  count _ h := h
  believe _ h := h

end Session.Kept

theorem Call.isOpen_run {L : Type} [Port L] (c : Call) (s : Session L) :
    (c.run s).2.isOpen = s.isOpen :=
  (Session.Kept.of_isOpen s.isOpen).call c rfl

/-- What a call comes to that is refused with a fault: the caller's buffer or block is as it was. -/
def Call.refused (f : Fault) : Call → Outcome
  | setRate _ | setGain .. => .finished (.error f)
  | frame g => g.failed f

/-- **A closed session refuses every call** before anything else is looked at, and stays as it was. -/
theorem Call.run_of_closed {L : Type} [Port L] (c : Call) {s : Session L} (h : s.isOpen = false) :
    c.run s = (c.refused .notOpen, s) := by
  have hclosed : ¬ s.isOpen = true := by simp [h]
  cases c with
  | setRate rate =>
    simp only [run, Session.setRate, if_neg hclosed]
    rfl
  | setGain gainIn gainOut =>
    simp only [run, Session.setGain, if_neg hclosed]
    rfl
  | frame f =>
    show f.run s = _
    rw [f.run_eq, Session.prepareFrame, if_neg hclosed]
    rfl

/-! ## Calls over corresponding ports -/

/-- The outcome with other names for faults. -/
def Workbench.Outcome.mapFault (g : Fault → Fault) : Outcome → Outcome
  | .onLine outcome => .onLine outcome
  | .done => .done
  | .finished result => .finished (result.mapError g)
  | .encoded result buffer => .encoded (result.mapError g) buffer
  | .decoded result audio => .decoded (result.mapError g) audio

theorem Workbench.Outcome.mapFault_id (o : Outcome) : o.mapFault id = o := by
  cases o <;> simp only [mapFault, mapError_id]

theorem Port.Simulation.Similar.call {L M : Type} [Port L] [Port M] {c : SessionConfig}
    {S : Port.Simulation L M c} {s : Session L} {t : Session M} (h : S.Similar s t) (call : Call) :
    ∃ t', call.run t = ((call.run s).1.mapFault S.rename, t') ∧ S.Similar (call.run s).2 t' := by
  cases call with
  | setRate rate =>
    rcases hs : s.setRate rate with ⟨x, s'⟩
    obtain ⟨t', ht, h'⟩ := h.setRate hs
    simp only [Call.run, hs, ht]
    exact ⟨t', rfl, h'⟩
  | setGain gainIn gainOut =>
    rcases hs : s.setGain gainIn gainOut with ⟨x, s'⟩
    obtain ⟨t', ht, h'⟩ := h.setGain hs
    simp only [Call.run, hs, ht]
    exact ⟨t', rfl, h'⟩
  | frame f =>
    cases f with
    | encode audio buffer rate gain =>
      rcases hs : s.encode audio buffer rate gain with ⟨x, buffer', s'⟩
      obtain ⟨t', ht, h'⟩ := h.encode hs
      simp only [Call.run, FrameCall.run, hs, ht]
      exact ⟨t', rfl, h'⟩
    | decode voice audio rate gain =>
      rcases hs : s.decode voice audio rate gain with ⟨x, audio', s'⟩
      obtain ⟨t', ht, h'⟩ := h.decode hs
      simp only [Call.run, FrameCall.run, hs, ht]
      exact ⟨t', rfl, h'⟩

end Vocoder
