import Mathlib
import Vocoder.Proofs.Custody

/-!
# The life of a session

A session and the lines about it, over anything that can be done with them: lines are brought, attached,
attached again while they are held, opened or not to be opened, and calls are made on lines that do what
they like.

* `Custody.step_failed` — what an attach or an opening leaves that fails.
* `Custody.Final` — of lines that stay closed once they are closed, the one held was never closed.
* `Custody.flagged_step` — a flag beside the line is up just while a line is held.
* `Custody.run_orderly` — what holds at any time.
-/

namespace Vocoder

open Workbench (Outcome)

namespace Custody

variable {L : Type} [Port L]

/-! ## What a failed opening leaves -/

theorem hand_failed {y : Custody L} {m : Lent L} {f : Fault} (hclosed : y.session.line = none)
    (h : (y.hand m).1 = .error f) :
    ∃ held, (y.hand m).2.session = { y.session with line := none, held := held } := by
  obtain ⟨x, r, m', -, -, -, -, hhand⟩ := y.hand_cases m hclosed
  rw [hhand] at h ⊢
  cases x with
  | ok name => cases h
  | error f' => exact ⟨r.held, rfl⟩

/-- A failed opening closes the session and touches nothing else of it but the packet held. -/
theorem step_failed {y : Custody L} {d : Deed L} {f : Fault} (hopens : d.Opens)
    (h : (y.step d).1 = .finished (.error f)) :
    ∃ held, (y.step d).2.session = { y.session with line := none, held := held } := by
  cases d with
  | bring | change | close | call => exact hopens.elim
  | attach number =>
    have hresult : (y.attach number).1 = .error f := Outcome.finished.inj h
    show ∃ held, (y.attach number).2.session = _
    unfold attach at hresult ⊢
    rcases htake : y.release.takeDown number with _ | ⟨m, y'⟩
    · exact ⟨y.session.held, rfl⟩
    · obtain ⟨-, -, hy'⟩ := takeDown_eq htake
      rw [htake] at hresult
      have hsession : y'.session = { y.session with line := none } := by rw [hy']; rfl
      have hfailed := hand_failed (by rw [hsession]) hresult
      rwa [hsession] at hfailed
  | openLine opened =>
    have hresult : (y.openLine opened).1 = .error f := Outcome.finished.inj h
    show ∃ held, (y.openLine opened).2.session = _
    cases opened with
    | error f' => exact ⟨y.session.held, rfl⟩
    | ok l =>
      rw [openLine_ok] at hresult ⊢
      exact hand_failed rfl hresult

end Custody

/-! ## Lines that stay closed -/

/-- Closing makes a line dead, and on a dead line no chip can be asked for its name. -/
structure Port.ClosesForGood {L : Type} [Port L] (Dead : L → Prop) : Prop where
  close : ∀ l, Dead (Port.close l)
  send : ∀ {l l₁}, Dead l → Port.send l productQuery ≠ (.ok (), l₁)

/-- Nothing that is done to a line from outside brings it back to life. -/
def Deed.Spares {L : Type} (Dead : L → Prop) : Deed L → Prop
  | .change _ f => ∀ l, Dead l → Dead (f l)
  | .bring _ | .attach _ | .openLine _ | .close | .call _ => True

theorem Link.send_of_closed {l : Link} (h : l.isClosed = true) (bytes : List UInt8) :
    Line.send l bytes = (.error .closed, l) := by
  have hwrite : Line.write l bytes = (.error .closed, l) := by
    cases l with
    | bench l =>
      have hclosed : l.isClosed = true := h
      show put bench (l.write bytes) = _
      rw [BenchLine.write, if_pos hclosed]
      rfl
    | datagram l =>
      have hclosed : l.isOpen = false := by simpa [isClosed] using h
      show put datagram (l.write bytes) = _
      rw [DatagramLine.write, if_neg (by simp [hclosed])]
      rfl
    | datagramDevice d =>
      have hclosed : d.line.isOpen = false := by simpa [isClosed] using h
      show put datagramDevice (d.write bytes) = _
      rw [DatagramDevice.write, DatagramLine.write, if_neg (by simp [hclosed])]
      rfl
    | serialDevice d =>
      have hclosed : d.line.isOpen = false := by simpa [isClosed] using h
      show put serialDevice (d.write bytes) = _
      rw [SerialDevice.write, SerialLine.write, if_pos (by simp [hclosed])]
      rfl
  rw [Line.send, hwrite]

/-- None of the links can be used again once it is closed. -/
theorem Link.closesForGood : Port.ClosesForGood (Link.isClosed · = true) where
  close l := by
    cases l with
    | bench | datagram | datagramDevice | serialDevice => rfl
  send {l l₁} hclosed hsend := by
    have hsend' : Line.send l productQuery = (.ok (), l₁) := hsend
    rw [Link.send_of_closed hclosed] at hsend'
    cases hsend'

namespace Custody

variable {L : Type} [Port L] {Dead : L → Prop} {y : Custody L}

/-- The line held was never closed, and a line that was is dead. -/
structure Final (Dead : L → Prop) (y : Custody L) : Prop where
  held : ∀ m, y.session.line = some m → m.closings = 0
  shelved : ∀ m ∈ y.shelf, m.closings ≠ 0 → Dead m.line

namespace Final

omit [Port L] in
theorem start (c : SessionConfig) : Final Dead (start c : Custody L) where
  held := nofun
  shelved := nofun

theorem release (D : Port.ClosesForGood Dead) (h : Final Dead y) : Final Dead y.release where
  held := nofun
  shelved := by
    intro m hm hclosings
    rcases List.mem_append.mp hm with hm | hm
    · exact h.shelved m hm hclosings
    · obtain ⟨m₀, -, rfl⟩ := Option.map_eq_some_iff.mp (Option.mem_toList.mp hm)
      exact D.close m₀.line

theorem hand (D : Port.ClosesForGood Dead) (h : Final Dead y) {m : Lent L} {shelf : List (Lent L)}
    (hclosed : y.session.line = none) (hperm : y.shelf.Perm (m :: shelf)) :
    Final Dead (({ y with shelf := shelf } : Custody L).hand m).2 := by
  have hm := h.shelved m (hperm.mem_iff.mpr List.mem_cons_self)
  have hshelved : ∀ m' ∈ shelf, m'.closings ≠ 0 → Dead m'.line := fun m' hm' =>
    h.shelved m' (hperm.mem_iff.mpr (List.mem_cons_of_mem m hm'))
  obtain ⟨x, r, m', hidentify, -, -, hclosings, hhand⟩ :=
    ({ y with shelf := shelf } : Custody L).hand_cases m hclosed
  rw [hhand]
  cases x with
  | ok name =>
    refine ⟨?_, hshelved⟩
    rintro _ ⟨⟩
    rw [hclosings]
    -- a line on which the chip can be asked is not dead
    refine Decidable.of_not_not fun hne => ?_
    obtain ⟨m₁, hsend⟩ := Session.send_of_identify hidentify
    have hasked : (Port.send m.line productQuery).1 = .ok () := congrArg Prod.fst hsend
    exact D.send (hm hne) (Prod.ext hasked rfl)
  | error f =>
    refine ⟨nofun, ?_⟩
    intro m₁ hm₁ hne
    rcases List.mem_append.mp hm₁ with hm₁ | hm₁
    · exact hshelved m₁ hm₁ hne
    · rw [List.mem_singleton.mp hm₁]
      exact D.close m'.line

omit [Port L] in
theorem change (h : Final Dead y) (number : Nat) {f : L → L} (hf : ∀ l, Dead l → Dead (f l)) :
    Final Dead (y.change number f) := by
  have hsame := Lent.same_update number f
  refine ⟨?_, ?_⟩
  · intro m' hm'
    obtain ⟨m, hm, rfl⟩ := Option.map_eq_some_iff.mp hm'
    obtain ⟨-, -, hclosings⟩ := hsame m
    exact hclosings.trans (h.held m hm)
  · intro m' hm' hclosings'
    obtain ⟨m, hm, rfl⟩ := List.mem_map.mp hm'
    obtain ⟨-, -, hclosings⟩ := hsame m
    have hdead := h.shelved m hm (hclosings ▸ hclosings')
    unfold Lent.update
    split
    · exact hf m.line hdead
    · exact hdead

theorem call (h : Final Dead y) (c : Call) : Final Dead (y.step (.call c)).2 := by
  refine ⟨?_, h.shelved⟩
  intro m' hm'
  rcases call_same y.session c with ⟨-, hl'⟩ | ⟨m, m₁, hl, hl', -, -, hclosings⟩
  all_goals
    rw [show (y.step (.call c)).2.session = (c.run y.session).2 from rfl, hl'] at hm'
    cases hm'
  exact hclosings.trans (h.held m hl)

theorem invariant (D : Port.ClosesForGood Dead) : Invariant (Deed.Spares Dead) (Final Dead) where
  allowed_bring _ := trivial
  bring {y l} _ h := by
    refine ⟨h.held, ?_⟩
    intro m hm hclosings
    rcases List.mem_append.mp hm with hm | hm
    · exact h.shelved m hm hclosings
    · rw [List.mem_singleton.mp hm] at hclosings
      exact (hclosings rfl).elim
  change hf h := h.change _ hf
  release h := h.release D
  hand hclosed hperm h := h.hand D hclosed hperm
  call c h := h.call c

end Final

/-! ## A flag beside the line -/

/-- A custody in which the session has a flag beside its line, which is up while it is open. -/
structure Flagged (L : Type) where
  custody : Custody L
  flag : Bool

namespace Flagged

/-- A line that is let go of takes the flag down, and an attach that succeeds puts it up. Before a call the
session looks at both, the flag and the line. -/
def step (z : Flagged L) (d : Deed L) : Outcome × Flagged L :=
  match z.custody.step d with
  | (outcome, y) =>
    match d with
    | .bring _ | .change .. => (outcome, { z with custody := y })
    | .close => (outcome, { custody := y, flag := false })
    | .attach _ | .openLine _ =>
      match outcome with
      | .finished (.ok ()) => (outcome, { custody := y, flag := true })
      | _ => (outcome, { custody := y, flag := false })
    | .call c =>
      if z.flag && z.custody.session.line.isSome then (outcome, { z with custody := y })
      else (c.refused .notOpen, z)

def run (z : Flagged L) (deeds : List (Deed L)) : Flagged L :=
  deeds.foldl (fun z d => (z.step d).2) z

end Flagged

/-- The custody with a flag that tells whether the session is open. -/
def flagged (y : Custody L) : Flagged L where
  custody := y
  flag := y.session.isOpen

/-- **The flag is up just while a line is held.** So it makes no difference to look at the line alone. -/
theorem flagged_step (y : Custody L) (d : Deed L) :
    y.flagged.step d = ((y.step d).1, (y.step d).2.flagged) := by
  have hopen : ∀ z : Custody L, z.session.isOpen = z.held?.isSome := by
    intro z
    rw [Session.isOpen, held?, Option.isSome_map]
  have hnext : (y.step d).2.session.isOpen = (y.heldAfter d (y.step d).1).isSome := by
    rw [hopen, held?_step]
  unfold Flagged.step flagged
  rw [hnext]
  cases d with
  | bring l => exact congrArg (fun flag => (_, Flagged.mk _ flag)) (hopen y)
  | change number f => exact congrArg (fun flag => (_, Flagged.mk _ flag)) (hopen y)
  | close => rfl
  | attach number =>
    rcases hattach : y.attach number with ⟨_ | _, y'⟩
    all_goals simp [step, hattach, heldAfter]
  | openLine opened =>
    rcases hopened : y.openLine opened with ⟨_ | _, y'⟩
    all_goals simp [step, hopened, heldAfter]
  | call c =>
    cases hflag : y.session.isOpen with
    | true =>
      have hheld : y.held?.isSome = true := by rw [← hopen, hflag]
      have hline : y.session.line.isSome = true := hflag
      simp [step, heldAfter, hheld, hline]
    | false =>
      have hheld : y.held?.isSome = false := by rw [← hopen, hflag]
      simp [step, heldAfter, hheld, c.run_of_closed hflag]

theorem flagged_run (y : Custody L) (deeds : List (Deed L)) :
    y.flagged.run deeds = (y.run deeds).flagged := by
  induction deeds generalizing y with
  | nil => rfl
  | cons d later ih =>
    show (y.flagged.step d).2.run later = _
    rw [flagged_step]
    exact ih (y.step d).2

/-! ## The life of a session -/

/-- What holds of a session and its lines at any time. -/
structure Orderly (y : Custody L) : Prop extends Straight y where
  /-- The session is open just if it holds a line, the one it was handed and has not closed since. -/
  isOpen_iff : y.session.isOpen = true ↔ ∃ m ∈ y.lines, m.closings < m.handings
  /-- Only handing over a line opens the session, only that and closing it close it. -/
  next : ∀ d, (y.step d).2.held? = y.heldAfter d (y.step d).1
  refused : y.session.isOpen = false → ∀ c, y.step (.call c) = (c.refused .notOpen, y)
  failed : ∀ d f, d.Opens → (y.step d).1 = .finished (.error f) →
    ∃ held, (y.step d).2.session = { y.session with line := none, held := held }
  dropped : (y.step .close).2.session.line = none ∧
    ∀ m ∈ (y.step .close).2.lines, m.handings = m.closings

theorem Straight.orderly (h : Straight y) : Orderly y where
  toStraight := h
  isOpen_iff := by
    constructor
    · intro hopen
      obtain ⟨m, hm⟩ := Option.isSome_iff_exists.mp hopen
      have := h.held m hm
      refine ⟨m, ?_, by omega⟩
      simp [lines, hm]
    · rintro ⟨m, hm, hlt⟩
      rcases List.mem_append.mp hm with hm | hm
      · rw [Session.isOpen, Option.mem_toList.mp hm]
        rfl
      · have := h.shelved m hm
        omega
  next := y.held?_step
  refused hclosed c := by rw [Custody.step, c.run_of_closed hclosed]
  failed _ _ := step_failed
  dropped := ⟨rfl, h.release.shelved⟩

/-- **The life of a session and its lines.** Whatever is done with them, the session is open just while it
holds a line, and every line that was handed over is closed again, but for that one. A line that stays
closed once it is closed is held for the first time. A flag beside the line is up just then, and a session
that looks at both does the same. -/
theorem run_orderly (c : SessionConfig) (deeds : List (Deed L)) :
    let y := (start c : Custody L).run deeds
    let z := ({ custody := start c, flag := false } : Flagged L).run deeds
    Orderly y ∧
      (∀ Dead, Port.ClosesForGood Dead → (∀ d ∈ deeds, d.Spares Dead) → Final Dead y) ∧
      z = y.flagged ∧ ∀ d, z.step d = ((y.step d).1, (y.step d).2.flagged) := by
  intro y z
  have hflagged : z = y.flagged := flagged_run (start c) deeds
  refine ⟨((Straight.start c).run deeds).orderly, ?_, hflagged, fun d => ?_⟩
  · intro Dead D hdeeds
    exact (Final.invariant D).run (Final.start c) hdeeds
  · rw [hflagged, flagged_step]

/-- The first line is handed over twice, the second time while it is held; then a second one is opened, and
a third is not handed over at all. -/
def twoRounds : List (Deed Link) :=
  [ .bring (.bench { replies := [[0x61, 0x00, 0x02, 0x00, 0x30, 0x41]] }),
    .attach 0,
    .call (.setRate .r2450),
    .change 0 fun
      | .bench l => .bench (l.reply [0x61, 0x00, 0x02, 0x00, 0x30, 0x42])
      | l => l,
    .attach 0,
    .call (.setGain 0 0),
    .openLine (.ok (.bench { replies := [[0x61, 0x00, 0x02, 0x00, 0x30, 0x43]] })),
    .bring (.bench {}) ]

theorem run_orderly_twoRounds :
    (∀ d ∈ twoRounds, d.Spares (Link.isClosed · = true)) ∧
      Orderly ((start {}).run twoRounds) ∧
      Final (Link.isClosed · = true) ((start {}).run twoRounds) ∧
      ((start {}).run twoRounds).lines.map (fun m => (m.number, m.handings, m.closings)) =
        [(1, 1, 0), (0, 2, 2), (2, 0, 0)] ∧
      (({ custody := start {}, flag := false } : Flagged Link).run twoRounds).flag = true := by
  have hspares : ∀ d ∈ twoRounds, d.Spares (Link.isClosed · = true) := by
    simp only [twoRounds, List.forall_mem_cons, Deed.Spares, true_and, List.not_mem_nil]
    refine ⟨fun l hl => ?_, nofun⟩
    cases l with
    | bench | datagram | datagramDevice | serialDevice => exact hl
  obtain ⟨horderly, hfinal, hflagged, -⟩ := run_orderly {} twoRounds
  refine ⟨hspares, horderly, hfinal _ Link.closesForGood hspares, ?_, ?_⟩
  · cbv
  · rw [hflagged]
    show ((start {}).run twoRounds).session.isOpen = true
    cbv

end Custody

end Vocoder
