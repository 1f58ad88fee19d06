import Mathlib
import Vocoder.Proofs.Buffered
import Vocoder.Proofs.Custody

/-!
# A reopened session is a new one

Whatever a session has done, attaching another line makes it a new one. What two runs share from then on
is the session over the bare line, and the bare line once it is let go of; nothing that can be seen of
either run depends on more.

* `Session.attach_forgets` — if an attach succeeds, it comes to the same for every session of the same
  configuration.
* `Custody.Focused`, `Custody.bare` — a custody in which the session holds one line or none, and what is
  left of it without the other lines, the buffers and the records.
* `Custody.step_bare` — what can be seen of a step on that line depends on nothing else.
* `Custody.attach_as_new` — so two runs cannot be told apart.
-/

namespace Vocoder

open Workbench (Outcome)

/-! ## An attach that succeeds forgets -/

namespace Session

variable {L : Type} [Line L]

theorem receive_forgets (r : Reader) (held : List UInt8) (l : L) :
    Port.receive { r with held := held } l = Port.receive r l := rfl

/-- To identify itself the chip must have sent a packet, so what the reader held before is gone. -/
theorem identify_forgets {r r' : Reader} {n : Nat} {l l' : L} {name : String} (held : List UInt8)
    (h : identify r n l = (.ok name, r', l')) :
    identify { r with held := held } n l = (.ok name, r', l') := by
  rw [identify] at h ⊢
  rcases hsend : Port.send l productQuery with ⟨f | _, l₁⟩
  all_goals rw [hsend] at h
  · cases h
  · cases n with
    | zero => cases h
    | succ n =>
      dsimp only at h ⊢
      rw [awaitName] at h ⊢
      rw [receive_forgets]
      exact h

/-- **An attach that succeeds forgets everything but the configuration.** -/
theorem attach_forgets {s t : Session L} {l : L} (hconfig : t.config = s.config)
    (h : (s.attach l).1 = .ok ()) :
    (t.attach l).1 = .ok () ∧ (t.attach l).2.1 = (s.attach l).2.1 := by
  have hreader : t.reader = { s.reader with held := t.held } := by
    rw [reader, reader, hconfig]
  rcases s.attach_cases l with ⟨name, r, l', hidentify, hattach⟩ | ⟨f, r, l', -, hattach⟩
  · have hidentify' := identify_forgets t.held hidentify
    rw [← hreader, ← hconfig] at hidentify'
    rcases t.attach_cases l with ⟨name₁, r₁, l₁, hidentify₁, hattach₁⟩ | ⟨f, r₁, l₁, hidentify₁, -⟩
    all_goals
      rw [hidentify'] at hidentify₁
      cases hidentify₁
    rw [hattach, hattach₁, hconfig]
    exact ⟨rfl, rfl⟩
  · rw [hattach] at h
    cases h

end Session

/-! ## One line of a custody -/

/-- A line on loan is the line without its number and its record. -/
theorem Lent.erases {M L : Type} [Port M] [Port L] {f : M → L} (E : Port.Erases f) :
    Port.Erases fun m : Lent M => f m.line where
  send {m m' bytes x} hs := by
    obtain ⟨hx, hm⟩ := Prod.mk.inj hs
    subst hm
    exact E.send (Prod.ext hx rfl)
  receive {c m m' r r' x} hr hs := by
    obtain ⟨hx, hrest⟩ := Prod.mk.inj hs
    obtain ⟨hr', hm⟩ := Prod.mk.inj hrest
    subst hm
    exact E.receive hr (Prod.ext hx (Prod.ext hr' rfl))
  close m := E.close m.line

namespace Custody

variable {L : Type}

/-- The session holds no line but the one of this number, and then there is no other of this number. -/
structure Focused (number : Nat) (y : Custody (Buffered L)) : Prop where
  held : ∀ m, y.session.line = some m → m.number = number
  shelved : ∀ m, y.session.line = some m → ∀ m' ∈ y.shelf, m'.number ≠ number

def aside (number : Nat) (y : Custody (Buffered L)) : Option L :=
  (y.shelf.find? (·.number = number)).map (·.line.line)

/-- The session over the bare line, and the bare line on the shelf. -/
def bare (number : Nat) (y : Custody (Buffered L)) : Session L × Option L :=
  (y.session.mapLine (·.line.line), y.aside number)

/-- What can be seen of a session and one line. -/
def sight (number : Nat) (y : Custody (Buffered L)) : Session Unit × Option L :=
  (y.session.mapLine fun _ => (), (y.line? number).map Buffered.line)

theorem sight_eq {number : Nat} {y : Custody (Buffered L)} (h : y.Focused number) :
    y.sight number =
      ((y.bare number).1.mapLine fun _ => (), (y.bare number).1.line.or (y.bare number).2) := by
  unfold sight bare aside line? lines Session.mapLine
  cases hl : y.session.line with
  | none => simp [Function.comp_def]
  | some m => simp [h.held m hl]

/-- What can be done with a session and one line after the session was opened. -/
inductive Later (L : Type) where
  | call (c : Call)
  | close
  /-- Something happens to the line, held or not. -/
  | change (f : L → L)

namespace Later

def deed (number : Nat) : Later L → Deed (Buffered L)
  | .call c => .call c
  | .close => .close
  | .change f => .change number fun b => { b with line := f b.line }

/-- The same with the bare session and line. -/
def step [Line L] (b : Session L × Option L) : Later L → Outcome × Session L × Option L
  | .call c => ((c.run b.1).1, (c.run b.1).2, b.2)
  | .close => (.done, b.1.close.1, b.1.close.2.or b.2)
  | .change f => (.done, b.1.mapLine f, b.2.map f)

end Later

variable {number : Nat} {y : Custody (Buffered L)}

theorem aside_of_held (h : y.Focused number) {m : Lent (Buffered L)} (hm : y.session.line = some m) :
    y.aside number = none := by
  unfold aside
  rw [Option.map_eq_none_iff, List.find?_eq_none]
  intro m' hm'
  simpa using h.shelved m hm m' hm'

theorem Focused.change (h : y.Focused number) (f : Buffered L → Buffered L) :
    (y.change number f).Focused number where
  held := by
    intro m' hm'
    obtain ⟨m, hm, rfl⟩ := Option.map_eq_some_iff.mp hm'
    exact (m.same_update number f).1.trans (h.held m hm)
  shelved := by
    intro m' hm' k' hk'
    obtain ⟨m, hm, rfl⟩ := Option.map_eq_some_iff.mp hm'
    obtain ⟨k, hk, rfl⟩ := List.mem_map.mp hk'
    rw [(k.same_update number f).1]
    exact h.shelved m hm k hk

variable [Line L]

theorem Focused.call (h : y.Focused number) (c : Call) : (y.step (.call c)).2.Focused number := by
  show Focused number { y with session := (c.run y.session).2 }
  rcases call_same y.session c with ⟨hl, hl'⟩ | ⟨m, m', hl, hl', hnumber, -, -⟩
  · refine ⟨?_, ?_⟩
    all_goals
      intro m hm
      rw [hl'] at hm
      cases hm
  · refine ⟨?_, ?_⟩
    all_goals
      intro m₁ hm₁
      rw [hl'] at hm₁
      cases hm₁
    · exact hnumber.trans (h.held m hl)
    · exact h.shelved m hl

/-- **What can be seen of a step depends on the bare session and line alone.** -/
theorem step_bare (h : y.Focused number) (x : Later L) :
    (y.step (x.deed number)).1 = (x.step (y.bare number)).1 ∧
      (y.step (x.deed number)).2.bare number = (x.step (y.bare number)).2 ∧
      (y.step (x.deed number)).2.Focused number := by
  cases x with
  | call c =>
    have hcall := (Lent.erases Buffered.erases).call y.session c
    refine ⟨?_, ?_, h.call c⟩
    · exact (congrArg Prod.fst hcall).symm
    · exact Prod.ext (congrArg Prod.snd hcall).symm rfl
  | close =>
    refine ⟨rfl, ?_, nofun, nofun⟩
    refine Prod.ext rfl ?_
    show y.release.aside number = (y.bare number).1.close.2.or (y.aside number)
    rw [release_eq]
    cases hl : y.session.line with
    | none => simp [aside, bare, Session.mapLine, Session.close, hl]
    | some m =>
      -- the line let go of is the only one of its number on the shelf
      have hnone := Option.map_eq_none_iff.mp (aside_of_held h hl)
      have hnumber : (Port.close m).number = number := h.held m hl
      simp only [aside, bare, Session.mapLine, Session.close, hl, List.find?_append, hnone]
      simp [hnumber]
      rfl
  | change f =>
    refine ⟨rfl, ?_, h.change _⟩
    refine Prod.ext ?_ ?_
    · show (y.session.mapLine _).mapLine _ = (y.session.mapLine _).mapLine f
      unfold Session.mapLine
      cases hl : y.session.line with
      | none => rfl
      | some m => simp [Lent.update, h.held m hl]
    · show Option.map _ (List.find? _ (y.shelf.map _)) = (y.aside number).map f
      -- the change leaves the numbers as they are, so the same line is found
      have hnumbers : ∀ g : Buffered L → Buffered L,
          (fun m : Lent (Buffered L) => decide (m.number = number)) ∘ Lent.update number g =
            fun m => decide (m.number = number) :=
        fun g => funext fun m => by simp [(m.same_update number g).1]
      rw [List.find?_map, hnumbers]
      unfold aside
      cases hfind : y.shelf.find? (fun m => decide (m.number = number)) with
      | none => rfl
      | some m =>
        have hnumber : m.number = number := by simpa using List.find?_some hfind
        simp [Lent.update, hnumber]

/-! ## Attaching a line that is not held -/

omit [Line L] in
/-- Numbers are given once, so the line held is the only one of its number. -/
theorem Straight.focused (h : y.Straight) (hheld : y.held? = some number) : y.Focused number where
  held := by
    intro m hm
    unfold held? at hheld
    rw [hm] at hheld
    exact Option.some.inj hheld
  shelved := by
    intro m hm m' hm' hnumber'
    unfold held? at hheld
    rw [hm] at hheld
    have hnumber : m.number = number := Option.some.inj hheld
    have hdistinct := h.numbers.nodup_iff.mpr List.nodup_range
    unfold lines at hdistinct
    rw [hm, Option.toList_some, List.singleton_append, List.map_cons, List.nodup_cons] at hdistinct
    exact hdistinct.1 (hnumber ▸ hnumber' ▸ List.mem_map_of_mem hm')

/-- A line that is not held is taken off the shelf and handed over. -/
theorem attach_of_shelved (hheld : y.held? ≠ some number) {b : Buffered L}
    (hline : y.line? number = some b) :
    ∃ (m : Lent (Buffered L)) (y' : Custody (Buffered L)), m.number = number ∧ m.line = b ∧ y'.session = y.session.close.1 ∧
        y.attach number = y'.hand m := by
  have hfind : ∃ m, y.shelf.find? (·.number = number) = some m ∧ m.line = b := by
    obtain ⟨m, hm, hb⟩ := Option.map_eq_some_iff.mp hline
    refine ⟨m, ?_, hb⟩
    unfold lines at hm
    unfold held? at hheld
    cases hl : y.session.line with
    | none => simpa [hl] using hm
    | some m₀ =>
      have hother : m₀.number ≠ number := by simpa [hl] using hheld
      simpa [hl, hother] using hm
  obtain ⟨m, hfind, hb⟩ := hfind
  have hfind' : y.release.shelf.find? (·.number = number) = some m := by
    rw [release_eq, List.find?_append, hfind]
    rfl
  refine ⟨m, { y.release with shelf := y.release.shelf.eraseP (·.number = number) },
    by simpa using List.find?_some hfind, hb, rfl, ?_⟩
  rw [attach, takeDown, hfind']
  rfl

/-- **What an attach comes to that succeeds.** It succeeds for every session of the configuration, and the
session starts from the bare line alone. -/
theorem attach_bare (h : y.Straight) (hheld : y.held? ≠ some number) {b : Buffered L}
    (hline : y.line? number = some b) :
    ((y.attach number).1 = .ok () ↔
        (({ config := y.session.config } : Session L).attach b.line).1 = .ok ()) ∧
      ((y.attach number).1 = .ok () →
        (y.attach number).2.Focused number ∧
          (y.attach number).2.bare number =
            ((({ config := y.session.config } : Session L).attach b.line).2.1, none)) := by
  have hstraight : (y.attach number).2.Straight := h.step (.attach number)
  obtain ⟨m, y', hnumber, rfl, hsession, hattach⟩ := attach_of_shelved hheld hline
  have hheld' := y'.held?_hand m (by rw [hsession]; rfl)
  -- handing the line over is attaching the bare line to the bare session
  let given : Lent (Buffered L) := { m with handings := m.handings + 1 }
  let old : Session L := y'.session.mapLine fun m => m.line.line
  let new : Session L := { config := y.session.config }
  have hconfig : new.config = old.config := by
    show y.session.config = y'.session.config
    rw [hsession]
    rfl
  have herase := (Lent.erases Buffered.erases).attach y'.session given
  have hresult : (old.attach m.line.line).1 = (y'.hand m).1 := congrArg (·.1) herase
  have hafter : (old.attach m.line.line).2.1 = (y'.hand m).2.session.mapLine fun m => m.line.line :=
    congrArg (·.2.1) herase
  rw [hattach] at hstraight ⊢
  rw [← hresult] at hheld' ⊢
  have hforgets : (old.attach m.line.line).1 = .ok () →
      (new.attach m.line.line).1 = .ok () ∧
        (new.attach m.line.line).2.1 = (old.attach m.line.line).2.1 := Session.attach_forgets hconfig
  refine ⟨⟨fun hok => (hforgets hok).1, fun hok => ?_⟩, fun hok => ?_⟩
  · exact (Session.attach_forgets (s := new) (t := old) hconfig.symm hok).1
  · rw [hok] at hheld'
    have hfocused := hstraight.focused (hheld'.trans (congrArg some hnumber))
    obtain ⟨m', hm', -⟩ := Option.map_eq_some_iff.mp hheld'
    refine ⟨hfocused, Prod.ext ?_ (aside_of_held hfocused hm')⟩
    exact hafter.symm.trans (hforgets hok).2.symm

/-! ## Two runs -/

/-- What is seen of some deeds, one after the other: the outcome of each, and the session and one line
after it. -/
def watch (number : Nat) (y : Custody (Buffered L)) :
    List (Deed (Buffered L)) → List (Outcome × Session Unit × Option L)
  | [] => []
  | d :: later => ((y.step d).1, (y.step d).2.sight number) :: watch number (y.step d).2 later

theorem watch_eq_of_bare {number' : Nat} {z : Custody (Buffered L)} (hy : y.Focused number)
    (hz : z.Focused number') (h : y.bare number = z.bare number') (later : List (Later L)) :
    y.watch number (later.map (Later.deed number)) = z.watch number' (later.map (Later.deed number')) := by
  induction later generalizing y z with
  | nil => rfl
  | cons x later ih =>
    obtain ⟨houtcome, hbare, hy'⟩ := step_bare hy x
    obtain ⟨houtcome', hbare', hz'⟩ := step_bare hz x
    have hnext : (y.step (x.deed number)).2.bare number = (z.step (x.deed number')).2.bare number' := by
      rw [hbare, hbare', h]
    simp only [List.map_cons, watch]
    rw [ih hy' hz' hnext, sight_eq hy', sight_eq hz', hnext, houtcome, houtcome', h]

/-- **A reopened session is a new one.** After any history, let a line be attached that the session does
not hold, and let that succeed. Then a new session of the same configuration attaches the line in the same
state, too; and whatever is called from then on, and whatever happens to the line, both give the same
results and buffers, and both sessions and both lines are in the same states after each step. This is so
whatever the receive buffer is full of, where the new one has an empty buffer. -/
theorem attach_as_new {c : SessionConfig} {deeds : List (Deed (Buffered L))} {number : Nat}
    {b : Buffered L} (hheld : ((start c).run deeds).held? ≠ some number)
    (hline : ((start c).run deeds).line? number = some b)
    (hattach : (((start c).run deeds).attach number).1 = .ok ()) :
    let y := (start c).run deeds
    let new : Custody (Buffered L) := ((start y.session.config).step (.bring { line := b.line })).2
    (new.attach 0).1 = .ok () ∧
      ∀ later : List (Later L),
        y.watch number (.attach number :: later.map (Later.deed number)) =
          new.watch 0 (.attach 0 :: later.map (Later.deed 0)) := by
  intro y new
  obtain ⟨hiff, hbare⟩ := attach_bare ((Straight.start c).run deeds) hheld hline
  have hheld' : new.held? ≠ some 0 := nofun
  have hline' : new.line? 0 = some { line := b.line } := rfl
  obtain ⟨hiff', hbare'⟩ := attach_bare ((Straight.start y.session.config).step _) hheld' hline'
  have hattach' : (new.attach 0).1 = .ok () := hiff'.mpr (hiff.mp hattach)
  obtain ⟨hfocused, hbare⟩ := hbare hattach
  obtain ⟨hfocused', hbare'⟩ := hbare' hattach'
  have hsame : (y.attach number).2.bare number = (new.attach 0).2.bare 0 := hbare.trans hbare'.symm
  refine ⟨hattach', fun later => ?_⟩
  have hlater := watch_eq_of_bare hfocused hfocused' hsame later
  have hsight : (y.attach number).2.sight number = (new.attach 0).2.sight 0 := by
    rw [sight_eq hfocused, sight_eq hfocused', hsame]
  show (.finished (y.attach number).1, (y.attach number).2.sight number) ::
      (y.attach number).2.watch number (later.map (Later.deed number)) =
    (.finished (new.attach 0).1, (new.attach 0).2.sight 0) ::
      (new.attach 0).2.watch 0 (later.map (Later.deed 0))
  have hattach : (y.attach number).1 = .ok () := hattach
  rw [hattach, hattach', hsight, hlater]

/-- A line that gives a name and then half of an answer. -/
def halfAnswering : Buffered BenchLine where
  line := { replies := [[0x61, 0x00, 0x03, 0x00, 0x30, 0x41, 0x42], [0x61, 0x00]] }

/-- A line that gives a name, to be read into a buffer that is full of start markers. -/
def naming : Buffered BenchLine where
  line := { replies := [[0x61, 0x00, 0x02, 0x00, 0x30, 0x43]] }
  buffer := Vector.replicate maxPacketLength startMarker

def usedUp : List (Deed (Buffered BenchLine)) :=
  [.bring halfAnswering, .attach 0, .call (.setRate .r2450), .bring naming]

set_option maxRecDepth 20000 in
theorem attach_as_new_usedUp :
    ((start {}).run usedUp).session.held = [0x61, 0x00] ∧
      ((start {}).run usedUp).session.productName = some "AB" ∧
      (((start {}).run usedUp).attach 1).1 = .ok () ∧
      ∀ later : List (Later BenchLine),
        ((start {}).run usedUp).watch 1 (.attach 1 :: later.map (Later.deed 1)) =
          ((start {}).step (.bring { line := naming.line })).2.watch 0
            (.attach 0 :: later.map (Later.deed 0)) := by
  have hheld : ((start {}).run usedUp).held? = some 0 := by cbv
  have hline : ((start {}).run usedUp).line? 1 = some naming := by cbv
  have hattach : (((start {}).run usedUp).attach 1).1 = .ok () := by cbv
  have hconfig : ((start {}).run usedUp).session.config = {} := by cbv
  have hother : ((start {}).run usedUp).held? ≠ some 1 := by rw [hheld]; decide
  obtain ⟨-, hwatch⟩ := attach_as_new hother hline hattach
  rw [hconfig] at hwatch
  refine ⟨?_, ?_, hattach, hwatch⟩
  · cbv
  · cbv

end Custody

end Vocoder
