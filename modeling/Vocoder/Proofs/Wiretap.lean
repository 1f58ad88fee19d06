import Vocoder.Proofs.Erasure

/-!
# Wiretaps

A wiretap sits between a session and its line and logs what passes: every request, and what was received
after it. It changes nothing, so the log of a tapped session is the history of the session.

* `Exchange` — one request and what was heard until the next one.
* `Wiretap.erases`, `Happening.erase_run` — a session over a tapped line does what it does over the line
  itself.
* `Session.exchange_logged`, `Session.requestRate_logged`, `Session.requestGain_logged` — what each
  operation of a session adds to the log.
-/

namespace Vocoder

open Workbench (Outcome)

/-- One request, and what was received until the next one. -/
structure Exchange where
  request : List UInt8
  /-- Whether the line took the whole request. -/
  sent : Except Fault Unit
  /-- What each receive came to, with what the reader held then, in order. -/
  heard : List (Except Fault Response × List UInt8) := []

namespace Exchange

/-- What the request was answered by: the packet received first, if the request went out. -/
def answer? (e : Exchange) : Option Response :=
  match e.sent, e.heard with
  | .ok (), (.ok got, _) :: _ => some got
  | _, _ => none

def hear (e : Exchange) (x : Except Fault Response × List UInt8) : Exchange :=
  { e with heard := e.heard ++ [x] }

end Exchange

/-- A line with a log of the exchanges over it. -/
structure Wiretap (L : Type) where
  line : L
  /-- Every exchange so far, the latest one first. -/
  log : List Exchange := []

namespace Wiretap

variable {L M : Type} [Line L]

/-- Send, and enter the request. -/
def send (t : Wiretap L) (bytes : List UInt8) : Except Fault Unit × Wiretap L :=
  match Line.send t.line bytes with
  | (x, l) => (x, { line := l, log := { request := bytes, sent := x } :: t.log })

/-- Receive, and enter what was heard under the latest request. -/
def receive (r : Reader) (t : Wiretap L) : Except Fault Response × Reader × Wiretap L :=
  match r.receive t.line with
  | (x, r', l) => (x, r', { line := l, log := t.log.modifyHead (·.hear (x, r'.held)) })

/-- Close the line; what was logged stays. -/
def close (t : Wiretap L) : Wiretap L :=
  { t with line := Line.close t.line }

instance : Port (Wiretap L) := ⟨send, receive, close⟩

theorem send_eq {t : Wiretap L} {bytes : List UInt8} {x : Except Fault Unit} {l : L}
    (h : Line.send t.line bytes = (x, l)) :
    Port.send t bytes = (x, ⟨l, { request := bytes, sent := x } :: t.log⟩) := by
  show send t bytes = _
  rw [send, h]

theorem receive_eq {t : Wiretap L} {r r' : Reader} {x : Except Fault Response} {l : L}
    (h : r.receive t.line = (x, r', l)) :
    Port.receive r t = (x, r', ⟨l, t.log.modifyHead (·.hear (x, r'.held))⟩) := by
  show receive r t = _
  rw [receive, h]

/-- The log can be left out. -/
theorem erases : Port.Erases (Wiretap.line : Wiretap L → L) where
  send {t t' bytes x} hs := by
    rcases hline : Line.send t.line bytes with ⟨y, l⟩
    rw [send_eq hline] at hs
    cases hs
    exact hline
  receive {c t t' r r' x} hr hs := by
    rcases hline : r.receive t.line with ⟨y, r'', l⟩
    rw [receive_eq hline] at hs
    cases hs
    exact ⟨hline, Reader.fits_receive hr hline⟩
  close _ := rfl

end Wiretap

/-- The same on a tapped line. A change of the line passes the wiretap by. -/
def Happening.tapped {L : Type} : Happening L → Happening (Wiretap L)
  | call c => call c
  | change f => change fun t => { t with line := f t.line }

/-- **A tapped run is the run.** -/
theorem Happening.erase_run {L : Type} [Line L] (s : Session (Wiretap L)) (hs : List (Happening L)) :
    run (s.mapLine Wiretap.line) hs = (run s (hs.map tapped)).mapLine Wiretap.line :=
  Wiretap.erases.run (fun _ => rfl) (fun f => ⟨fun t => { t with line := f t.line }, rfl, fun _ => rfl⟩) s hs

/-! ## What the operations of a session log -/

namespace Session

variable {L : Type} [Line L]

/-- The exchanges over the line held, the latest one first. -/
def log (s : Session (Wiretap L)) : List Exchange :=
  (s.line.map Wiretap.log).getD []

/-- A session is still open and has logged something more. -/
structure Logged (s s' : Session (Wiretap L)) (new : List Exchange) : Prop where
  isOpen : s'.isOpen = true
  config : s'.config = s.config
  log : s'.log = new ++ s.log

variable {s s' s'' : Session (Wiretap L)}

omit [Line L] in
theorem Logged.refl (h : s.isOpen = true) : s.Logged s [] :=
  ⟨h, rfl, rfl⟩

omit [Line L] in
theorem Logged.trans {new later : List Exchange} (h : s.Logged s' new) (h' : s'.Logged s'' later) :
    s.Logged s'' (later ++ new) where
  isOpen := h'.isOpen
  config := h'.config.trans h.config
  log := by rw [h'.log, h.log, List.append_assoc]

/-- **An exchange logs itself**, and it succeeds exactly if its request was answered as expected. -/
theorem exchange_logged (h : s.isOpen = true) {request : List UInt8} {expected : Response}
    {x : Except Fault Unit} (hs : s.exchange request expected = (x, s')) :
    ∃ e : Exchange, e.request = request ∧ s.Logged s' [e] ∧ s'.settings = s.settings ∧
      (x = .ok () ↔ e.answer? = some expected) := by
  obtain ⟨t, ht⟩ := Option.isSome_iff_exists.mp h
  rw [exchange, ht] at hs
  dsimp only at hs
  rcases hsend : Line.send t.line request with ⟨y, l₁⟩
  rw [Wiretap.send_eq hsend] at hs
  cases y with
  | error f =>
    -- the line refused the request: nothing is heard
    cases hs
    exact ⟨⟨request, .error f, []⟩, rfl, ⟨rfl, rfl, by simp [log, ht]⟩, rfl, by simp [Exchange.answer?]⟩
  | ok _ =>
    dsimp only at hs
    rcases hreceive : s.reader.receive l₁ with ⟨z, r, l₂⟩
    rw [Wiretap.receive_eq (t := ⟨l₁, _⟩) hreceive] at hs
    refine ⟨⟨request, .ok (), [(z, r.held)]⟩, rfl, ?_⟩
    cases z with
    | error f =>
      cases hs
      exact ⟨⟨rfl, rfl, by simp [log, withLine, ht, Exchange.hear]⟩, rfl, by simp [Exchange.answer?]⟩
    | ok got =>
      cases hs
      refine ⟨⟨rfl, rfl, by simp [log, withLine, ht, Exchange.hear]⟩, rfl, ?_⟩
      by_cases hgot : got = expected
      · simp [require, hgot, Exchange.answer?]
      · have hne : require expected got ≠ .ok () := by
          rw [require, if_neg hgot]
          split <;> simp
        simp [hne, hgot, Exchange.answer?]

theorem requestRate_logged (h : s.isOpen = true) {rate : Rate} {x : Except Fault Unit}
    (hs : s.requestRate rate = (x, s')) :
    (rate.request? = none ∧ x = .ok () ∧ s' = s) ∨
      ∃ e : Exchange, rate.request? = some e.request ∧ s.Logged s' [e] ∧ s'.settings = s.settings ∧
        (x = .ok () ↔ e.answer? = some .rate) := by
  rw [requestRate] at hs
  cases hrequest : rate.request? with
  | none =>
    rw [hrequest] at hs
    cases hs
    exact .inl ⟨rfl, rfl, rfl⟩
  | some request =>
    rw [hrequest] at hs
    obtain ⟨e, he, hlogged, hsettings, hx⟩ := exchange_logged (by exact h) hs
    exact .inr ⟨e, by rw [he], ⟨hlogged.isOpen, hlogged.config, hlogged.log⟩, hsettings, hx⟩

theorem requestGain_logged (h : s.isOpen = true) {t : Settings} {x : Except Fault Unit}
    (hs : s.requestGain t = (x, s')) :
    ∃ e : Exchange, e.request = gainRequest t.gainIn t.gainOut ∧ s.Logged s' [e] ∧
      s'.settings = s.settings ∧ (x = .ok () ↔ e.answer? = some .gain) := by
  obtain ⟨e, he, hlogged, hsettings, hx⟩ := exchange_logged (by exact h) hs
  exact ⟨e, he, ⟨hlogged.isOpen, hlogged.config, hlogged.log⟩, hsettings, hx⟩

end Session

end Vocoder
