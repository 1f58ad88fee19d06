import Vocoder.Proofs.Call
import Vocoder.Proofs.Cut

/-!
# What a session writes

A session writes to its port and listens to it. This module says what is written, whatever is heard, on
ports that take every request.

* `Recording` — a kind of port that keeps what it took. A port may still fail in every other way: its
  answers may be anything, receiving may fail, and a request may be reported as taken in part.
* `Session.Wrote` — one session has become another by writing some packets.
* `Session.setRate_cases`, `Session.setGain_cases`, `FrameCall.course` — everything a call can write, and
  what the session then believes. A frame runs one of four courses, which the constructors of
  `FrameCall.Course` name.
-/

namespace Vocoder

open Workbench (Outcome)

/-- The fault that a step ended with, if it ended with one. -/
def Workbench.Outcome.fault? : Outcome → Option Fault
  | .finished (.error f) | .encoded (.error f) _ | .decoded (.error f) _ => some f
  | .onLine (.failed f) => some f
  | _ => none

/-- The change that a frame depends on failed. -/
def Fault.IsReconfiguration : Fault → Prop
  | reconfigurationFailed _ => True
  | _ => False

theorem Fault.IsReconfiguration.isOfSession {f : Fault} (h : f.IsReconfiguration) :
    f.IsOfSession := by
  cases f
  case reconfigurationFailed what => trivial
  all_goals exact h.elim

/-! ## Ports that keep what they took -/

/-- A kind of port that keeps every request it took, oldest first, and on which requests keep being
taken. The faults it finds are its own, not those of a session. -/
class Recording (L : Type) [Port L] where
  taken : L → List (List UInt8)
  /-- Requests are taken, now and later. -/
  Accepts : L → Prop
  send_spec : ∀ {l l' : L} {bytes : List UInt8} {x}, Accepts l → Port.send l bytes = (x, l') →
    taken l' = taken l ++ [bytes] ∧ Accepts l' ∧ ∀ f, x = .error f → ¬ f.IsOfSession
  receive_spec : ∀ {l l' : L} {r r' : Reader} {x}, Accepts l → Port.receive r l = (x, r', l') →
    taken l' = taken l ∧ Accepts l' ∧ ∀ f, x = .error f → ¬ f.IsOfSession

open Recording

/-- Cutting finds no fault of a session. -/
theorem Cut.not_isOfSession_of_packet {field : LengthField} {noise : Nat} {behind : List UInt8}
    {f : Fault} (h : (packet field noise behind).result = .error f) : ¬ f.IsOfSession := by
  have hends := ends_packet field noise behind
  generalize packet field noise behind = cut at h hends
  cases hends with
  | inHeader _ | refused _ | inPayload _ _ =>
    cases h
    exact id
  | whole _ _ => cases h

theorem Cut.not_isOfSession_of_first {field : LengthField} {timeoutMs : Nat} {bytes : List UInt8}
    {f : Fault} (h : (first field timeoutMs bytes).result = .error f) : ¬ f.IsOfSession := by
  have hfinds := finds_first field timeoutMs bytes
  generalize first field timeoutMs bytes = cut at h hfinds
  cases hfinds with
  | hurried _ | nothing _ =>
    cases h
    exact id
  | marker _ _ => exact not_isOfSession_of_packet h

/-- A bench line keeps what it took while it is open and its writes are not told to fail. -/
instance BenchLine.recording : Recording BenchLine where
  taken l := l.sent
  Accepts l := l.isClosed = false ∧ l.failWrites = false
  send_spec := by
    intro l l' bytes x ⟨hopen, hwrites⟩ hs
    have hwrite : Line.write l bytes =
        (.ok (l.acceptLimit.elim bytes.length (min bytes.length)),
          { l with
            sent := l.sent ++ [bytes]
            incoming := l.incoming ++ l.replies.head?.getD []
            replies := l.replies.tail }) := by
      show BenchLine.write l bytes = _
      rw [BenchLine.write, if_neg (by rw [hopen]; decide), if_neg (by rw [hwrites]; decide)]
    replace hs : Line.send l bytes = (x, l') := hs
    rw [Line.send, hwrite] at hs
    dsimp only at hs
    split at hs
    · cases hs
      exact ⟨rfl, ⟨hopen, hwrites⟩, fun f hf => by cases hf⟩
    · cases hs
      refine ⟨rfl, ⟨hopen, hwrites⟩, fun f hf => ?_⟩
      cases hf
      exact id
  -- whatever stops the reader, the line keeps what it took
  receive_spec := by
    intro l l' r r' x ⟨hopen, hwrites⟩ hs
    replace hs : r.receive l = (x, r', l') := hs
    rw [r.receive_bench l] at hs
    dsimp only at hs
    split at hs
    · cases hs
      refine ⟨rfl, ⟨hopen, hwrites⟩, fun f hf => ?_⟩
      cases hf
      exact id
    · split at hs
      · cases hs
        refine ⟨rfl, ⟨hopen, hwrites⟩, fun f hf => ?_⟩
        cases hf
        exact id
      · split at hs
        · cases hs
          refine ⟨rfl, ⟨hopen, hwrites⟩, fun f hf => ?_⟩
          cases hf
          exact id
        · cases hs
          exact ⟨rfl, ⟨hopen, hwrites⟩, fun f hf => Cut.not_isOfSession_of_first hf⟩

/-! ## What is written -/

namespace Settings

/-- What is written to come to a rate. -/
def rateStep (t : Settings) (rate : Rate) : List (List UInt8) :=
  if rate = t.rate then [] else rate.request?.toList

/-- What is written to come to a gain in one direction: one request carries the gains of both. -/
def gainStep (t : Settings) (d : Direction) (gain : Int) : List (List UInt8) :=
  if gain = t.gain d then []
  else [gainRequest (t.withGain d gain).gainIn (t.withGain d gain).gainOut]

theorem withRate_self {t : Settings} {rate : Rate} (h : rate = t.rate) : t.withRate rate = t := by
  rw [h]
  rfl

theorem withGain_self {t : Settings} {d : Direction} {gain : Int} (h : gain = t.gain d) :
    t.withGain d gain = t := by
  rw [h]
  cases d <;> rfl

theorem gainStep_withRate (t : Settings) (rate : Rate) (d : Direction) (gain : Int) :
    (t.withRate rate).gainStep d gain = t.gainStep d gain := by
  cases d <;> rfl

end Settings

namespace Session

variable {L : Type} [Port L] [Recording L] {s s' s'' : Session L}

/-- The session is open on a port that takes requests. -/
def Ready (s : Session L) : Prop :=
  ∃ l, s.line = some l ∧ Accepts l

def taken (s : Session L) : List (List UInt8) :=
  (s.line.map Recording.taken).getD []

/-- The second session is the first after it wrote some packets, so many of them counted as requests for a
rate and so many as requests for gains. -/
structure Wrote (s s' : Session L) (packets : List (List UInt8)) (rates gains : Nat) : Prop where
  ready : s'.Ready
  config : s'.config = s.config
  taken : s'.taken = s.taken ++ packets
  rates : s'.stats.rateRequests = s.stats.rateRequests + rates
  gains : s'.stats.gainRequests = s.stats.gainRequests + gains

namespace Wrote

theorem nil (h : s.Ready) : s.Wrote s [] 0 0 :=
  ⟨h, rfl, (List.append_nil _).symm, rfl, rfl⟩

theorem trans {p q : List (List UInt8)} {i j m n : Nat} (h : s.Wrote s' p i j)
    (h' : s'.Wrote s'' q m n) : s.Wrote s'' (p ++ q) (i + m) (j + n) where
  ready := h'.ready
  config := h'.config.trans h.config
  taken := by rw [h'.taken, h.taken, List.append_assoc]
  rates := by rw [h'.rates, h.rates, Nat.add_assoc]
  gains := by rw [h'.gains, h.gains, Nat.add_assoc]

/-- What a session believes is not written. -/
theorem believe {p : List (List UInt8)} {i j : Nat} (h : s.Wrote s' p i j) (t : Settings) :
    s.Wrote (s'.believe t) p i j :=
  { h with }

end Wrote

/-- **An exchange writes its request**, whatever becomes of the answer. Its faults are no failed
reconfiguration. -/
theorem exchange_spec (h : s.Ready) {request : List UInt8} {expected : Response}
    {x : Except Fault Unit} (hs : s.exchange request expected = (x, s')) :
    s.Wrote s' [request] 0 0 ∧ s'.settings = s.settings ∧ s'.stats = s.stats ∧
      ∀ f, x = .error f → ¬ f.IsReconfiguration := by
  obtain ⟨l, hl, haccepts⟩ := h
  have hown : ∀ {f : Fault}, ¬ f.IsOfSession → ¬ f.IsReconfiguration := fun hf h => hf h.isOfSession
  rw [exchange, hl] at hs
  dsimp only at hs
  rcases hsend : Port.send l request with ⟨_ | _, l₁⟩
  all_goals
    obtain ⟨htaken₁, haccepts₁, hfault₁⟩ := send_spec haccepts hsend
    rw [hsend] at hs
    dsimp only at hs
  · cases hs
    refine ⟨⟨⟨l₁, rfl, haccepts₁⟩, rfl, ?_, rfl, rfl⟩, rfl, rfl, ?_⟩
    · simp only [Session.taken, hl, Option.map_some, Option.getD_some, htaken₁]
    · rintro f hf
      cases hf
      exact hown (hfault₁ _ rfl)
  · rcases hreceive : Port.receive s.reader l₁ with ⟨_ | got, r, l₂⟩
    all_goals
      obtain ⟨htaken₂, haccepts₂, hfault₂⟩ := receive_spec haccepts₁ hreceive
      rw [hreceive] at hs
      dsimp only at hs
      cases hs
      have htaken : (s.withLine l₂ r).taken = s.taken ++ [request] := by
        simp only [Session.taken, withLine, hl, Option.map_some, Option.getD_some, htaken₂, htaken₁]
      refine ⟨⟨⟨l₂, rfl, haccepts₂⟩, rfl, htaken, rfl, rfl⟩, rfl, rfl, ?_⟩
      intro f hf
    · cases hf
      exact hown (hfault₂ _ rfl)
    · -- an answer of another kind is a fault of the session, but no reconfiguration
      rw [require] at hf
      split at hf
      · cases hf
      · split at hf
        all_goals
          cases hf
          exact id

/-- Asking for a rate writes the request of the rate, if it has one. -/
theorem requestRate_spec (h : s.Ready) {rate : Rate} {x : Except Fault Unit}
    (hs : s.requestRate rate = (x, s')) :
    s.Wrote s' rate.request?.toList rate.request?.toList.length 0 ∧ s'.settings = s.settings ∧
      (rate.request? = none → x = .ok ()) := by
  rw [requestRate] at hs
  cases hq : rate.request? with
  | none =>
    rw [hq] at hs
    cases hs
    exact ⟨.nil h, rfl, fun _ => rfl⟩
  | some request =>
    rw [hq] at hs
    dsimp only at hs
    obtain ⟨l, hl, haccepts⟩ := h
    obtain ⟨hw, hsettings, hstats, -⟩ := exchange_spec ⟨l, by exact hl, haccepts⟩ hs
    refine ⟨?_, hsettings, fun h => by cases h⟩
    exact { hw with rates := by rw [hstats]; rfl, gains := by rw [hstats]; rfl }

theorem requestGain_spec (h : s.Ready) {t : Settings} {x : Except Fault Unit}
    (hs : s.requestGain t = (x, s')) :
    s.Wrote s' [gainRequest t.gainIn t.gainOut] 0 1 ∧ s'.settings = s.settings := by
  rw [requestGain] at hs
  obtain ⟨l, hl, haccepts⟩ := h
  obtain ⟨hw, hsettings, hstats, -⟩ := exchange_spec ⟨l, by exact hl, haccepts⟩ hs
  refine ⟨?_, hsettings⟩
  exact { hw with rates := by rw [hstats]; rfl, gains := by rw [hstats]; rfl }

theorem isOpen_of_ready (h : s.Ready) : s.isOpen = true := by
  obtain ⟨l, hl, -⟩ := h
  rw [isOpen, hl]
  rfl

/-- Setting the rate: it is believed if the request was acknowledged, and only then. -/
theorem setRate_cases (h : s.Ready) {rate : Rate} {x : Except Fault Unit}
    (hs : s.setRate rate = (x, s')) :
    (x = .ok () ∧ s.Wrote s' rate.request?.toList rate.request?.toList.length 0 ∧
        s'.settings = s.settings.withRate rate) ∨
      (∃ f request, x = .error f ∧ rate.request? = some request ∧ s.Wrote s' [request] 1 0 ∧
        s'.settings = s.settings) := by
  rw [setRate, if_pos (isOpen_of_ready h)] at hs
  rcases hrequest : s.requestRate rate with ⟨f | _, s₁⟩
  all_goals
    obtain ⟨hw, hsettings, hnone⟩ := requestRate_spec h hrequest
    rw [hrequest] at hs
    cases hs
  · right
    cases hq : rate.request? with
    | none => cases hnone hq -- without a request nothing can fail
    | some request =>
      rw [hq] at hw
      exact ⟨f, request, rfl, rfl, hw, hsettings⟩
  · left
    exact ⟨rfl, hw.believe _, by rw [hsettings]; rfl⟩

/-- Setting the gains: they are believed if the request was acknowledged, and only then. -/
theorem setGain_cases (h : s.Ready) {gainIn gainOut : Int} {x : Except Fault Unit}
    (hs : s.setGain gainIn gainOut = (x, s')) :
    s.Wrote s' [gainRequest gainIn gainOut] 0 1 ∧
      ((x = .ok () ∧ s'.settings = { s.settings with gainIn := gainIn, gainOut := gainOut }) ∨
        (∃ f, x = .error f) ∧ s'.settings = s.settings) := by
  rw [setGain, if_pos (isOpen_of_ready h)] at hs
  rcases hrequest : s.requestGain { s.settings with gainIn := gainIn, gainOut := gainOut } with
    ⟨f | _, s₁⟩
  all_goals
    obtain ⟨hw, hsettings⟩ := requestGain_spec h hrequest
    rw [hrequest] at hs
    cases hs
  · exact ⟨hw, .inr ⟨⟨f, rfl⟩, hsettings⟩⟩
  · exact ⟨hw.believe _, .inl ⟨rfl, by rw [hsettings]; rfl⟩⟩

omit [Port L] [Recording L] in
/-- Settings are believed after the request for them, or given up: that only under `onSuccess`, and only
if the request failed. -/
theorem settle_cases {what : String} {t : Settings} {x y : Except Fault Unit}
    (hs : settle what t (x, s) = (y, s')) :
    (y = .ok () ∧ s' = s.believe t) ∨
      (s.config.cachePolicy = .onSuccess ∧ (∃ f, x = .error f) ∧
        y = .error (.reconfigurationFailed what) ∧ s' = s) := by
  cases x with
  | ok _ =>
    cases hs
    exact .inl ⟨rfl, rfl⟩
  | error f =>
    rw [settle] at hs
    cases hp : s.config.cachePolicy with
    | always =>
      rw [hp] at hs
      cases hs
      exact .inl ⟨rfl, rfl⟩
    | onSuccess =>
      rw [hp] at hs
      cases hs
      exact .inr ⟨rfl, ⟨f, rfl⟩, rfl, rfl⟩

/-- Adopting a rate: its request is written if it is another one, and it is believed, or given up. -/
theorem adoptRate_cases (h : s.Ready) {rate : Rate} {x : Except Fault Unit}
    (hs : s.adoptRate rate = (x, s')) :
    s.Wrote s' (s.settings.rateStep rate) (s.settings.rateStep rate).length 0 ∧
      ((x = .ok () ∧ s'.settings = s.settings.withRate rate) ∨
        (s.config.cachePolicy = .onSuccess ∧ rate ≠ s.settings.rate ∧ rate.request? ≠ none ∧
          x = .error (.reconfigurationFailed "rate") ∧ s'.settings = s.settings)) := by
  rw [adoptRate] at hs
  rw [Settings.rateStep]
  by_cases hsame : rate = s.settings.rate
  · rw [if_pos hsame] at hs ⊢
    cases hs
    exact ⟨.nil h, .inl ⟨rfl, (Settings.withRate_self hsame).symm⟩⟩
  · rw [if_neg hsame] at hs ⊢
    rcases hrequest : s.requestRate rate with ⟨y, s₁⟩
    obtain ⟨hw, hsettings, hnone⟩ := requestRate_spec h hrequest
    rw [hrequest] at hs
    rcases settle_cases hs with ⟨rfl, rfl⟩ | ⟨hp, ⟨f, rfl⟩, rfl, rfl⟩
    · exact ⟨hw.believe _, .inl ⟨rfl, rfl⟩⟩
    · refine ⟨hw, .inr ⟨by rw [← hw.config]; exact hp, hsame, ?_, rfl, hsettings⟩⟩
      -- what is given up was asked for
      intro hq
      cases hnone hq

theorem adoptGain_cases (h : s.Ready) {d : Direction} {gain : Int} {x : Except Fault Unit}
    (hs : s.adoptGain d gain = (x, s')) :
    s.Wrote s' (s.settings.gainStep d gain) 0 (s.settings.gainStep d gain).length ∧
      ((x = .ok () ∧ s'.settings = s.settings.withGain d gain) ∨
        (s.config.cachePolicy = .onSuccess ∧ gain ≠ s.settings.gain d ∧
          x = .error (.reconfigurationFailed "gain") ∧ s'.settings = s.settings)) := by
  rw [adoptGain] at hs
  rw [Settings.gainStep]
  by_cases hsame : gain = s.settings.gain d
  · rw [if_pos hsame] at hs ⊢
    cases hs
    exact ⟨.nil h, .inl ⟨rfl, (Settings.withGain_self hsame).symm⟩⟩
  · rw [if_neg hsame] at hs ⊢
    rcases hrequest : s.requestGain (s.settings.withGain d gain) with ⟨y, s₁⟩
    obtain ⟨hw, hsettings⟩ := requestGain_spec h hrequest
    rw [hrequest] at hs
    rcases settle_cases hs with ⟨rfl, rfl⟩ | ⟨hp, ⟨f, rfl⟩, rfl, rfl⟩
    · exact ⟨hw.believe _, .inl ⟨rfl, rfl⟩⟩
    · exact ⟨hw, .inr ⟨by rw [← hw.config]; exact hp, hsame, rfl, hsettings⟩⟩

/-- The exchange of a frame writes its packet, and counts nothing as a request. -/
theorem fetch_spec (h : s.Ready) {request : List UInt8} {expected : Response} {n : Nat}
    {x : Except Fault (List UInt8)} (hs : s.fetch request expected n = (x, s')) :
    s.Wrote s' [request] 0 0 ∧ s'.settings = s.settings ∧
      ∀ f, x = .error f → ¬ f.IsReconfiguration := by
  rw [fetch] at hs
  rcases hexchange : s.exchange request expected with ⟨_ | _, s₁⟩
  all_goals
    obtain ⟨hw, hsettings, -, hfault⟩ := exchange_spec h hexchange
    rw [hexchange] at hs
    cases hs
    refine ⟨hw, hsettings, ?_⟩
    intro f hf
  · cases hf
    exact hfault _ rfl
  · rw [frameData] at hf
    split at hf
    · cases hf
      exact id
    · cases hf

/-- Waiting for the name writes nothing. Induction on the packets still to be inspected. -/
theorem awaitName_spec : ∀ (n : Nat) {r r' : Reader} {l l' : L} {x}, Accepts l →
    awaitName r n l = (x, r', l') → Recording.taken l' = Recording.taken l ∧ Accepts l' := by
  intro n
  induction n with
  | zero =>
    intro r r' l l' x haccepts hs
    cases hs
    exact ⟨rfl, haccepts⟩
  | succ n ih =>
    intro r r' l l' x haccepts hs
    rw [awaitName] at hs
    rcases hreceive : Port.receive r l with ⟨_ | got, r₁, l₁⟩
    all_goals
      obtain ⟨htaken₁, haccepts₁, -⟩ := receive_spec haccepts hreceive
      rw [hreceive] at hs
    · cases hs
      exact ⟨htaken₁, haccepts₁⟩
    · cases got with
      | productId =>
        cases hs
        exact ⟨htaken₁, haccepts₁⟩
      | audio | voice | rate | gain | unknown =>
        obtain ⟨htaken, haccepts'⟩ := ih haccepts₁ hs
        exact ⟨htaken.trans htaken₁, haccepts'⟩

/-- A successful attach writes the query for the identification, and the session starts anew. -/
theorem attach_spec {l : L} {released : List L} (haccepts : Accepts l)
    (hs : s.attach l = (.ok (), s', released)) :
    s'.Ready ∧ s'.config = s.config ∧ s'.taken = Recording.taken l ++ [productQuery] ∧
      s'.settings = {} ∧ s'.stats = {} := by
  rw [attach] at hs
  dsimp only [close] at hs
  rcases hidentify : identify ({ s with line := none } : Session L).reader
    s.config.identifyAttempts l with ⟨_ | name, r, l'⟩
  all_goals
    rw [hidentify] at hs
    cases hs
  rw [identify] at hidentify
  rcases hsend : Port.send l productQuery with ⟨_ | _, l₁⟩
  all_goals
    obtain ⟨htaken₁, haccepts₁, -⟩ := send_spec haccepts hsend
    rw [hsend] at hidentify
  · cases hidentify
  · obtain ⟨htaken, haccepts'⟩ := awaitName_spec _ haccepts₁ hidentify
    exact ⟨⟨l', rfl, haccepts'⟩, rfl, htaken.trans htaken₁, rfl, rfl⟩

end Session

/-! ## The courses of a frame -/

namespace FrameCall

variable {L : Type} [Port L] [Recording L]

/-- What a frame call can come to on a session that is ready. -/
inductive Course (f : FrameCall) (s : Session L) : Outcome → Session L → Prop where
  /-- The caller brought too few voice bytes: nothing happens. -/
  | tooSmall {o : Outcome} (hfits : ¬ f.Fits)
    (ho : o = f.failed (.bufferTooSmall f.rate.voiceBytes f.available)) : Course f s o s
  /-- The rate was asked for and given up. -/
  | rateGivenUp {s' : Session L} {o : Outcome} {request : List UInt8} (hpolicy : s.config.cachePolicy = .onSuccess)
    (hother : f.rate ≠ s.settings.rate) (hrequest : f.rate.request? = some request)
    (hwrote : s.Wrote s' [request] 1 0) (hsettings : s'.settings = s.settings)
    (ho : o = f.failed (.reconfigurationFailed "rate")) : Course f s o s'
  /-- The rate was adopted; the gain was asked for and given up. -/
  | gainGivenUp {s' : Session L} {o : Outcome} (hpolicy : s.config.cachePolicy = .onSuccess)
    (hother : f.gain ≠ s.settings.gain f.direction)
    (hwrote : s.Wrote s'
      (s.settings.rateStep f.rate ++ s.settings.gainStep f.direction f.gain)
      (s.settings.rateStep f.rate).length (s.settings.gainStep f.direction f.gain).length)
    (hsettings : s'.settings = s.settings.withRate f.rate)
    (ho : o = f.failed (.reconfigurationFailed "gain")) : Course f s o s'
  /-- Rate and gain were adopted, and the frame was sent. -/
  | sent {s' : Session L} {o : Outcome} (hfits : f.Fits)
    (hwrote : s.Wrote s'
      (s.settings.rateStep f.rate ++ s.settings.gainStep f.direction f.gain ++ [f.packet])
      (s.settings.rateStep f.rate).length (s.settings.gainStep f.direction f.gain).length)
    (hsettings : s'.settings = (s.settings.withRate f.rate).withGain f.direction f.gain)
    (hfault : ∀ e, o.fault? = some e → ¬ e.IsReconfiguration) :
    Course f s o s'

theorem fault_failed (f : FrameCall) (e : Fault) : (f.failed e).fault? = some e := by
  cases f <;> rfl

theorem fault_delivered (f : FrameCall) (data : List UInt8) : (f.delivered data).fault? = none := by
  cases f <;> rfl

theorem wrote_countFrame {s s' : Session L} {p : List (List UInt8)} {i j : Nat}
    (h : s.Wrote s' p i j) (d : Direction) (x : Except Fault (List UInt8)) :
    s.Wrote (s'.countFrame d x) p i j ∧ (s'.countFrame d x).settings = s'.settings := by
  cases x with
  | error f => exact ⟨{ h with }, rfl⟩
  | ok data =>
    cases d with
    | input => exact ⟨{ h with }, rfl⟩
    | output => exact ⟨{ h with }, rfl⟩

/-- Rate and gain being adopted, the frame is sent, whatever its exchange comes to. -/
theorem Course.of_fetch {f : FrameCall} {s s₂ s₃ : Session L} {x : Except Fault (List UInt8)} {o : Outcome}
    (hfits : f.Fits)
    (hw₂ : s.Wrote s₂ (s.settings.rateStep f.rate ++ s.settings.gainStep f.direction f.gain)
      (s.settings.rateStep f.rate).length (s.settings.gainStep f.direction f.gain).length)
    (ht₂ : s₂.settings = (s.settings.withRate f.rate).withGain f.direction f.gain)
    (hfetch : s₂.fetch f.packet f.response f.width = (x, s₃))
    (ho : (∃ e, x = .error e ∧ o = f.failed e) ∨ ∃ data, x = .ok data ∧ o = f.delivered data) :
    f.Course s o (s₃.countFrame f.direction x) := by
  obtain ⟨hw₃, ht₃, hfault⟩ := Session.fetch_spec hw₂.ready hfetch
  obtain ⟨hcount, hsame⟩ := wrote_countFrame (hw₂.trans hw₃) f.direction x
  refine .sent hfits hcount (hsame.trans (ht₃.trans ht₂)) ?_
  intro e' he
  rcases ho with ⟨e, hx, rfl⟩ | ⟨data, -, rfl⟩
  · rw [fault_failed] at he
    cases he
    exact hfault _ hx
  · rw [fault_delivered] at he
    cases he

/-- **A frame runs one of its courses.** -/
theorem course (f : FrameCall) {s : Session L} (h : s.Ready) : f.Course s (f.run s).1 (f.run s).2 := by
  rw [run_eq, Session.prepareFrame, if_pos (Session.isOpen_of_ready h)]
  by_cases hsmall : f.available < f.rate.voiceBytes
  · rw [if_pos hsmall]
    exact .tooSmall (Nat.not_le.mpr hsmall) rfl
  · rw [if_neg hsmall]
    rcases hrate : s.adoptRate f.rate with ⟨x, s₁⟩
    obtain ⟨hw₁, ⟨rfl, ht₁⟩ | ⟨hpolicy, hother, hrequest, rfl, ht₁⟩⟩ := Session.adoptRate_cases h hrate
    · -- the rate is adopted
      dsimp only
      rcases hgain : s₁.adoptGain f.direction f.gain with ⟨x, s₂⟩
      obtain ⟨hw₂, hcases⟩ := Session.adoptGain_cases hw₁.ready hgain
      rw [ht₁, Settings.gainStep_withRate] at hw₂
      have hw := hw₁.trans hw₂
      rw [Nat.zero_add, Nat.add_zero] at hw
      rcases hcases with ⟨rfl, ht₂⟩ | ⟨hpolicy, hother, rfl, ht₂⟩
      · -- the gain is adopted, too
        have hfits : f.Fits := Nat.le_of_not_lt hsmall
        rw [ht₁] at ht₂
        dsimp only
        rcases hfetch : s₂.fetch f.packet f.response f.width with ⟨e | data, s₃⟩
        · exact .of_fetch hfits hw ht₂ hfetch (.inl ⟨e, rfl, rfl⟩)
        · exact .of_fetch hfits hw ht₂ hfetch (.inr ⟨data, rfl, rfl⟩)
      · -- the gain is given up, and what was believed of it before the rate was adopted stays
        refine .gainGivenUp (by rw [← hw₁.config]; exact hpolicy) ?_ hw (ht₂.trans ht₁) rfl
        rw [ht₁] at hother
        cases hd : f.direction <;> rw [hd] at hother <;> exact hother
    · -- the rate is given up
      obtain ⟨request, hsome⟩ := Option.ne_none_iff_exists'.mp hrequest
      rw [Settings.rateStep, if_neg hother, hsome] at hw₁
      exact .rateGivenUp hpolicy hother hsome hw₁ ht₁ rfl

end FrameCall

end Vocoder
