import Vocoder.Proofs.Erasure

/-!
# Custody of lines

A session and all the lines it is ever handed. A line is held by the session or lies on a shelf, and it
carries a record of its own: how often it was handed to the session, and how often the session closed it.
Anything may happen to a line at any time, and any line may be handed over again, also the one held.

* `Port.Kept` — what requests and receives keep of a port, the identification and every call keep.
* `Custody.Invariant` — what it takes for a property to be kept by all deeds. Attaching and opening a line
  come down to letting go of one and handing over another.
* `Custody.Straight` — no line is lost, and each handing was followed by just one closing, but for the line
  held.
* `Custody.held?_step` — which line is held after a deed.
* `Custody.invariant_lines` — what every deed keeps of every line.
* `Custody.map_run` — deeds over lines that carry more are the deeds over the others.
-/

namespace Vocoder

open Workbench (Outcome)

/-! ## What requests and receives keep -/

/-- A property of ports that sending a request keeps, and receiving. -/
structure Port.Kept {L : Type} [Port L] (P : L → Prop) : Prop where
  send : ∀ {l bytes}, IsRequest bytes → P l → P (Port.send l bytes).2
  receive : ∀ {l} (r : Reader), P l → P (Port.receive r l).2.2

namespace Port.Kept

variable {L : Type} [Port L] {P : L → Prop} {l : L}

theorem awaitName (K : Port.Kept P) (r : Reader) (n : Nat) (h : P l) :
    P (Session.awaitName r n l).2.2 := by
  induction n generalizing r l with
  | zero => exact h
  | succ n ih =>
    have h₁ := K.receive r h
    rw [Session.awaitName]
    rcases hreceive : Port.receive r l with ⟨_ | got, r₁, l₁⟩
    all_goals rw [hreceive] at h₁
    · exact h₁
    · cases got with
      | productId => exact h₁
      | audio | voice | rate | gain | unknown => exact ih r₁ h₁

theorem identify (K : Port.Kept P) (r : Reader) (n : Nat) (h : P l) :
    P (Session.identify r n l).2.2 := by
  have h₁ := K.send .identify h
  rw [Session.identify]
  rcases hsend : Port.send l productQuery with ⟨_ | _, l₁⟩
  all_goals rw [hsend] at h₁
  · exact h₁
  · exact K.awaitName r n h₁

theorem session (K : Port.Kept P) :
    Session.Kept fun s : Session L => ∀ l, s.line = some l → P l where
  exchange {s request} expected hrequest h := by
    rw [Session.exchange]
    cases hl : s.line with
    | none =>
      intro l hl'
      rw [hl] at hl'
      cases hl'
    | some l =>
      have h₁ := K.send hrequest (h l hl)
      dsimp only
      rcases hsend : Port.send l request with ⟨_ | _, l₁⟩
      all_goals rw [hsend] at h₁
      · rintro _ ⟨⟩
        exact h₁
      · have h₂ := K.receive s.reader h₁
        dsimp only
        rcases hreceive : Port.receive s.reader l₁ with ⟨_ | _, r, l₂⟩
        all_goals
          rw [hreceive] at h₂
          rintro _ ⟨⟩
          exact h₂
  count _ h := h
  believe _ h := h

end Port.Kept

/-! ## Lines on loan -/

/-- A line with a number of its own, and a record of the session's dealings with it. -/
structure Lent (L : Type) where
  number : Nat
  line : L
  /-- How often the line was handed to the session. -/
  handings : Nat := 0
  /-- How often the session closed it. -/
  closings : Nat := 0

namespace Lent

variable {L : Type} [Port L]

instance : Port (Lent L) where
  send m bytes := ((Port.send m.line bytes).1, { m with line := (Port.send m.line bytes).2 })
  receive r m :=
    ((Port.receive r m.line).1, (Port.receive r m.line).2.1,
      { m with line := (Port.receive r m.line).2.2 })
  close m := { m with line := Port.close m.line, closings := m.closings + 1 }

/-- The same line, and no more dealings with it. -/
def Same (m m' : Lent L) : Prop :=
  m'.number = m.number ∧ m'.handings = m.handings ∧ m'.closings = m.closings

def update (number : Nat) (f : L → L) (m : Lent L) : Lent L :=
  if m.number = number then { m with line := f m.line } else m

theorem kept_same (m : Lent L) : Port.Kept (Same m) where
  send _ h := h
  receive _ h := h

omit [Port L] in
theorem same_update (number : Nat) (f : L → L) (m : Lent L) : m.Same (m.update number f) := by
  unfold update
  split
  · exact ⟨rfl, rfl, rfl⟩
  · exact ⟨rfl, rfl, rfl⟩

def map {M L : Type} (f : M → L) (m : Lent M) : Lent L where
  number := m.number
  line := f m.line
  handings := m.handings
  closings := m.closings

theorem erases_map {M L : Type} [Port M] [Port L] {f : M → L} (E : Port.Erases f) :
    Port.Erases (map f) where
  send {m m' bytes x} hs := by
    obtain ⟨hx, hm⟩ := Prod.mk.inj hs
    have hline := E.send (m := m.line) (Prod.ext hx rfl)
    subst hm
    exact congrArg (fun p => (p.1, { map f m with line := p.2 })) hline
  receive {c m m' r r' x} hr hs := by
    obtain ⟨hx, hrest⟩ := Prod.mk.inj hs
    obtain ⟨hr', hm⟩ := Prod.mk.inj hrest
    obtain ⟨hline, hfits⟩ := E.receive (m := m.line) hr (Prod.ext hx (Prod.ext hr' rfl))
    subst hm
    refine ⟨?_, hfits⟩
    exact congrArg (fun p => (p.1, p.2.1, { map f m with line := p.2.2 })) hline
  close m := congrArg (fun l => { map f m with line := l, closings := m.closings + 1 }) (E.close m.line)

end Lent

theorem Port.Kept.lent {L : Type} [Port L] {P : L → Prop} (K : Port.Kept P) :
    Port.Kept fun m : Lent L => P m.line :=
  ⟨K.send, K.receive⟩

/-- One session, and the lines that are not in it. -/
structure Custody (L : Type) where
  session : Session (Lent L)
  shelf : List (Lent L) := []
  /-- The number of the next line. -/
  fresh : Nat := 0

/-- What can be done with a session and the lines about it. -/
inductive Deed (L : Type) where
  | bring (l : L)
  /-- Something happens to a line, wherever it is. -/
  | change (number : Nat) (f : L → L)
  /-- Hand a line to the session, from the shelf or the one held. -/
  | attach (number : Nat)
  | openLine (opened : Except Fault L)
  /-- Close the session, which is also what becomes of a session that is dropped. -/
  | close
  | call (c : Call)

/-- The deeds that can open the session. -/
def Deed.Opens {L : Type} : Deed L → Prop
  | .attach _ | .openLine _ => True
  | .bring _ | .change .. | .close | .call _ => False

/-- What is brought has a property of lines, and what is done to a line from outside does not break it. -/
def Deed.Keeps {L : Type} (P : L → Prop) : Deed L → Prop
  | .bring l | .openLine (.ok l) => P l
  | .change _ f => ∀ l, P l → P (f l)
  | .openLine (.error _) | .attach _ | .close | .call _ => True

/-- The deed over the one line is the other deed over the line that carries more. -/
inductive Deed.Over {M L : Type} (f : M → L) : Deed M → Deed L → Prop where
  | bring (m : M) : Over f (.bring m) (.bring (f m))
  | change (number : Nat) {g : M → M} {h : L → L} (hgh : ∀ m, f (g m) = h (f m)) :
    Over f (.change number g) (.change number h)
  | attach (number : Nat) : Over f (.attach number) (.attach number)
  | openLine (opened : Except Fault M) : Over f (.openLine opened) (.openLine (opened.map f))
  | close : Over f .close .close
  | call (c : Call) : Over f (.call c) (.call c)

/-- The deed with lines that carry more from the start, and what happens to a line as it happens to one that
carries more. -/
def Deed.lift {M L : Type} (carry : L → M) (within : (L → L) → M → M) : Deed L → Deed M
  | .bring l => .bring (carry l)
  | .change number f => .change number (within f)
  | .attach number => .attach number
  | .openLine opened => .openLine (opened.map carry)
  | .close => .close
  | .call c => .call c

theorem Deed.over_lift {M L : Type} {f : M → L} {carry : L → M} {within : (L → L) → M → M}
    (hcarry : ∀ l, f (carry l) = l) (hwithin : ∀ g m, f (within g m) = g (f m)) (d : Deed L) :
    Deed.Over f (d.lift carry within) d := by
  cases d with
  | bring l =>
    have hover := Over.bring (f := f) (carry l)
    rwa [hcarry] at hover
  | change number g => exact .change number (hwithin g)
  | attach number => exact .attach number
  | openLine opened =>
    have hover := Over.openLine (f := f) (opened.map carry)
    have hopened : (opened.map carry).map f = opened := by
      cases opened with
      | error e => rfl
      | ok l => exact congrArg Except.ok (hcarry l)
    rwa [hopened] at hover
  | close => exact .close
  | call c => exact .call c

namespace Custody

variable {L : Type}

def start (c : SessionConfig) : Custody L where
  session := { config := c }

def lines (y : Custody L) : List (Lent L) :=
  y.session.line.toList ++ y.shelf

def line? (y : Custody L) (number : Nat) : Option L :=
  (y.lines.find? (·.number = number)).map Lent.line

def held? (y : Custody L) : Option Nat :=
  y.session.line.map Lent.number

def change (y : Custody L) (number : Nat) (f : L → L) : Custody L :=
  { y with
    session := y.session.mapLine (Lent.update number f)
    shelf := y.shelf.map (Lent.update number f) }

def takeDown (y : Custody L) (number : Nat) : Option (Lent L × Custody L) :=
  (y.shelf.find? (·.number = number)).map fun m =>
    (m, { y with shelf := y.shelf.eraseP (·.number = number) })

variable [Port L]

def release (y : Custody L) : Custody L :=
  match y.session.close with
  | (s, released) => { y with session := s, shelf := y.shelf ++ released.toList }

def hand (y : Custody L) (m : Lent L) : Except Fault Unit × Custody L :=
  match y.session.attach { m with handings := m.handings + 1 } with
  | (result, s, released) => (result, { y with session := s, shelf := y.shelf ++ released })

/-- Attach a line. The session lets go of its line first, which may be the one to attach. -/
def attach (y : Custody L) (number : Nat) : Except Fault Unit × Custody L :=
  match y.release.takeDown number with
  | none => (.error .closed, y.release)
  | some (m, y') => y'.hand m

def openLine (y : Custody L) (opened : Except Fault L) : Except Fault Unit × Custody L :=
  match y.session.openLine (opened.map fun l => { number := y.fresh, line := l, handings := 1 }) with
  | (result, s, released) =>
    (result,
      { session := s
        shelf := y.shelf ++ released
        fresh :=
          match opened with
          | .ok _ => y.fresh + 1
          | .error _ => y.fresh })

def step (y : Custody L) : Deed L → Outcome × Custody L
  | .bring l =>
    (.done, { y with shelf := y.shelf ++ [{ number := y.fresh, line := l }], fresh := y.fresh + 1 })
  | .change number f => (.done, y.change number f)
  | .attach number =>
    match y.attach number with
    | (result, y) => (.finished result, y)
  | .openLine opened =>
    match y.openLine opened with
    | (result, y) => (.finished result, y)
  | .close => (.done, y.release)
  | .call c =>
    match c.run y.session with
    | (outcome, s) => (outcome, { y with session := s })

def run (y : Custody L) (deeds : List (Deed L)) : Custody L :=
  deeds.foldl (fun y d => (y.step d).2) y

/-! ## Handing over and letting go -/

theorem release_eq (y : Custody L) :
    y.release =
      { y with
        session := { y.session with line := none }
        shelf := y.shelf ++ (y.session.line.map Port.close).toList } := rfl

omit [Port L] in
theorem takeDown_eq {y y' : Custody L} {number : Nat} {m : Lent L}
    (h : y.takeDown number = some (m, y')) :
    m.number = number ∧ y.shelf.Perm (m :: y'.shelf) ∧ y' = { y with shelf := y'.shelf } := by
  unfold takeDown at h
  obtain ⟨m', hfind, heq⟩ := Option.map_eq_some_iff.mp h
  cases heq
  have hnumber : m.number = number := by simpa using List.find?_some hfind
  obtain ⟨before, after, hsplit, hbefore⟩ := List.find?_eq_some_iff_append.mp hfind |>.2
  refine ⟨hnumber, ?_, rfl⟩
  -- the line found is the one that is erased
  have herase : y.shelf.eraseP (fun l => decide (l.number = number)) = before ++ after := by
    rw [hsplit, List.eraseP_append_right]
    · simp [hnumber]
    · intro l hl
      simpa using hbefore l hl
  show y.shelf.Perm (m :: y.shelf.eraseP _)
  rw [herase, hsplit]
  exact List.perm_middle

omit [Port L] in
theorem lines_change (y : Custody L) (number : Nat) (f : L → L) :
    (y.change number f).lines = y.lines.map (Lent.update number f) := by
  unfold lines change Session.mapLine
  cases y.session.line with
  | none => simp
  | some m => simp

/-- **What handing a line to a closed session comes to.** The session asks the chip for its name; then it
holds the line, or has closed it. -/
theorem hand_cases (y : Custody L) (m : Lent L) (hclosed : y.session.line = none) :
    ∃ x r m', Session.identify y.session.reader y.session.config.identifyAttempts
        { m with handings := m.handings + 1 } = (x, r, m') ∧
      m'.number = m.number ∧ m'.handings = m.handings + 1 ∧ m'.closings = m.closings ∧
      y.hand m =
        match x with
        | .ok name =>
          (.ok (),
            { y with
              session :=
                { y.session with
                  line := some m'
                  held := r.held
                  settings := {}
                  productName := some name
                  stats := {} } })
        | .error f =>
          (.error f,
            { y with
              session := { y.session with line := none, held := r.held }
              shelf := y.shelf ++ [Port.close m'] }) := by
  let given : Lent L := { m with handings := m.handings + 1 }
  have hold : y.session.close.2 = none := by simp [Session.close, hclosed]
  -- whatever was received, it is the line that was given
  have hsame := given.kept_same.identify y.session.reader y.session.config.identifyAttempts
    (show given.Same given from ⟨rfl, rfl, rfl⟩)
  unfold hand
  rcases y.session.attach_cases given with ⟨name, r, m', hidentify, hattach⟩ | ⟨f, r, m', hidentify, hattach⟩
  all_goals
    rw [hidentify] at hsame
    obtain ⟨hnumber, hhandings, hclosings⟩ := hsame
  · refine ⟨.ok name, r, m', hidentify, hnumber, hhandings, hclosings, ?_⟩
    rw [hattach, hold]
    simp
  · refine ⟨.error f, r, m', hidentify, hnumber, hhandings, hclosings, ?_⟩
    rw [hattach, hold]
    rfl

theorem openLine_ok (y : Custody L) (l : L) :
    y.openLine (.ok l) =
      ({ y.release with fresh := y.fresh + 1 } : Custody L).hand { number := y.fresh, line := l } := by
  simp only [openLine, hand, release, Session.openLine, Except.map, List.append_assoc]

theorem call_same (s : Session (Lent L)) (c : Call) :
    (s.line = none ∧ (c.run s).2.line = none) ∨
      ∃ m m', s.line = some m ∧ (c.run s).2.line = some m' ∧ m.Same m' := by
  have hopen := c.isOpen_run s
  unfold Session.isOpen at hopen
  cases hl : s.line with
  | none =>
    rw [hl] at hopen
    exact .inl ⟨rfl, Option.isSome_eq_false_iff.mp hopen |> Option.isNone_iff_eq_none.mp⟩
  | some m =>
    rw [hl] at hopen
    obtain ⟨m', hm'⟩ := Option.isSome_iff_exists.mp hopen
    refine .inr ⟨m, m', rfl, hm', m.kept_same.session.call c ?_ m' hm'⟩
    intro m₁ hm₁
    rw [hl] at hm₁
    cases hm₁
    exact ⟨rfl, rfl, rfl⟩

/-! ## What every deed keeps -/

/-- What it takes for a property of custodies to be kept by all the deeds that are allowed. Attaching and
opening a line come down to letting go of the old one and handing over one from the shelf. -/
structure Invariant (Allowed : Deed L → Prop) (Q : Custody L → Prop) : Prop where
  allowed_bring : ∀ {l}, Allowed (.openLine (.ok l)) → Allowed (.bring l)
  bring : ∀ {y l}, Allowed (.bring l) → Q y → Q (y.step (.bring l)).2
  change : ∀ {y number f}, Allowed (.change number f) → Q y → Q (y.change number f)
  release : ∀ {y}, Q y → Q y.release
  hand : ∀ {y m shelf}, y.session.line = none → y.shelf.Perm (m :: shelf) → Q y →
    Q (({ y with shelf := shelf } : Custody L).hand m).2
  call : ∀ {y} (c : Call), Q y → Q (y.step (.call c)).2

namespace Invariant

variable {Allowed : Deed L → Prop} {Q : Custody L → Prop} {y : Custody L}

theorem step (I : Invariant Allowed Q) (h : Q y) {d : Deed L} (hd : Allowed d) : Q (y.step d).2 := by
  have hr := I.release h
  cases d with
  | bring l => exact I.bring hd h
  | change number f => exact I.change hd h
  | close => exact hr
  | call c => exact I.call c h
  | attach number =>
    show Q (y.attach number).2
    unfold Custody.attach
    rcases htake : y.release.takeDown number with _ | ⟨m, y'⟩
    · exact hr
    · obtain ⟨-, hperm, hy'⟩ := takeDown_eq htake
      dsimp only
      rw [hy']
      exact I.hand rfl hperm hr
  | openLine opened =>
    show Q (y.openLine opened).2
    cases opened with
    | error f => exact hr
    | ok l =>
      -- as if the line had been on the shelf
      rw [openLine_ok]
      exact I.hand rfl (List.perm_append_singleton ..) (I.bring (I.allowed_bring hd) hr)

theorem run (I : Invariant Allowed Q) (h : Q y) {deeds : List (Deed L)} (hdeeds : ∀ d ∈ deeds, Allowed d) :
    Q (y.run deeds) := by
  induction deeds generalizing y with
  | nil => exact h
  | cons d later ih =>
    obtain ⟨hd, hlater⟩ := List.forall_mem_cons.mp hdeeds
    exact ih (I.step h hd) hlater

end Invariant

/-! ## The record is straight -/

/-- No line is lost, and the record of each is straight: a handing was followed by just one closing, but
for the line held. -/
structure Straight (y : Custody L) : Prop where
  numbers : (y.lines.map Lent.number).Perm (List.range y.fresh)
  held : ∀ m, y.session.line = some m → m.handings = m.closings + 1
  shelved : ∀ m ∈ y.shelf, m.handings = m.closings
  named : y.session.isOpen = true → ∃ name, y.session.productName = some name

namespace Straight

variable {y : Custody L}

omit [Port L] in
theorem start (c : SessionConfig) : Straight (start c : Custody L) where
  numbers := .nil
  held := nofun
  shelved := nofun
  named := nofun

omit [Port L] in
theorem change (h : Straight y) (number : Nat) (f : L → L) : Straight (y.change number f) := by
  -- what happens to a line does not go into its record
  have hsame := Lent.same_update number f
  refine ⟨?_, ?_, ?_, ?_⟩
  · have hnumbers : (y.lines.map (Lent.update number f)).map Lent.number =
        y.lines.map Lent.number := by
      rw [List.map_map]
      exact List.map_congr_left fun m _ => (hsame m).1
    rw [lines_change, hnumbers]
    exact h.numbers
  · intro m' hm'
    obtain ⟨m, hm, rfl⟩ := Option.map_eq_some_iff.mp hm'
    have := h.held m hm
    obtain ⟨-, hhandings, hclosings⟩ := hsame m
    omega
  · intro m' hm'
    obtain ⟨m, hm, rfl⟩ := List.mem_map.mp hm'
    have := h.shelved m hm
    obtain ⟨-, hhandings, hclosings⟩ := hsame m
    omega
  · intro hopen
    refine h.named ?_
    simpa [Session.isOpen, Custody.change, Session.mapLine] using hopen

theorem release (h : Straight y) : Straight y.release where
  numbers := by
    have hclosed : ((y.session.line.map Port.close).toList.map Lent.number) =
        y.session.line.toList.map Lent.number := by
      cases y.session.line <;> rfl
    have hnumbers := h.numbers
    rw [lines, List.map_append] at hnumbers
    rw [release_eq, lines]
    show ((y.shelf ++ (y.session.line.map Port.close).toList).map Lent.number).Perm _
    rw [List.map_append, hclosed]
    exact List.perm_append_comm.trans hnumbers
  held := nofun
  shelved := by
    intro m hm
    rcases List.mem_append.mp hm with hm | hm
    · exact h.shelved m hm
    · -- the line let go of is closed once
      obtain ⟨m₀, hm₀, rfl⟩ := Option.map_eq_some_iff.mp (Option.mem_toList.mp hm)
      exact h.held m₀ hm₀
  named := nofun

omit [Port L] in
theorem bring (h : Straight y) (l : L) :
    Straight { y with shelf := y.shelf ++ [{ number := y.fresh, line := l }], fresh := y.fresh + 1 } := by
  refine ⟨?_, h.held, ?_, h.named⟩
  · show ((y.session.line.toList ++ (y.shelf ++ [_])).map Lent.number).Perm (List.range (y.fresh + 1))
    rw [← List.append_assoc, List.map_append, List.range_succ]
    exact h.numbers.append_right [y.fresh]
  · intro m hm
    rcases List.mem_append.mp hm with hm | hm
    · exact h.shelved m hm
    · rw [List.mem_singleton.mp hm]

/-- A line that is taken off the shelf and handed over ends up held, or closed on the shelf. -/
theorem hand (h : Straight y) {m : Lent L} {shelf : List (Lent L)} (hclosed : y.session.line = none)
    (hperm : y.shelf.Perm (m :: shelf)) : Straight (({ y with shelf := shelf } : Custody L).hand m).2 := by
  have hm := h.shelved m (hperm.mem_iff.mpr List.mem_cons_self)
  have hshelved : ∀ m' ∈ shelf, m'.handings = m'.closings := fun m' hm' =>
    h.shelved m' (hperm.mem_iff.mpr (List.mem_cons_of_mem m hm'))
  have hnumbers : ((m :: shelf).map Lent.number).Perm (List.range y.fresh) := by
    refine (hperm.map Lent.number).symm.trans ?_
    have hlines := h.numbers
    rwa [lines, hclosed] at hlines
  obtain ⟨x, r, m', -, hnumber, hhandings, hclosings, hhand⟩ :=
    ({ y with shelf := shelf } : Custody L).hand_cases m hclosed
  rw [hhand]
  cases x with
  | ok name =>
    refine ⟨?_, ?_, hshelved, fun _ => ⟨name, rfl⟩⟩
    · show ((m' :: shelf).map Lent.number).Perm _
      rw [List.map_cons, hnumber]
      exact hnumbers
    · rintro _ ⟨⟩
      omega
  | error f =>
    refine ⟨?_, nofun, ?_, nofun⟩
    · show ((shelf ++ [Port.close m']).map Lent.number).Perm _
      rw [List.map_append]
      refine List.perm_append_comm.trans ?_
      show (m'.number :: shelf.map Lent.number).Perm _
      rw [hnumber]
      exact hnumbers
    · intro m₁ hm₁
      rcases List.mem_append.mp hm₁ with hm₁ | hm₁
      · exact hshelved m₁ hm₁
      · rw [List.mem_singleton.mp hm₁]
        show m'.handings = m'.closings + 1
        omega

theorem call (h : Straight y) (c : Call) : Straight (y.step (.call c)).2 := by
  have hname := (Session.Kept.of_productName y.session.productName).call c rfl
  have hopen := c.isOpen_run y.session
  have hnumbers := h.numbers
  unfold lines at hnumbers
  show Straight { y with session := (c.run y.session).2 }
  refine ⟨?_, ?_, h.shelved, fun hopen' => ?_⟩
  · unfold lines
    rcases call_same y.session c with ⟨hl, hl'⟩ | ⟨m, m', hl, hl', hnumber, -, -⟩
    · rw [hl] at hnumbers
      rw [hl']
      exact hnumbers
    · rw [hl] at hnumbers
      rw [hl']
      simpa [hnumber] using hnumbers
  · intro m₁ hm₁
    rcases call_same y.session c with ⟨-, hl'⟩ | ⟨m, m', hl, hl', -, hhandings, hclosings⟩
    all_goals
      rw [hl'] at hm₁
      cases hm₁
    have := h.held m hl
    omega
  · -- the name is the one the session was opened with
    rw [hopen] at hopen'
    obtain ⟨name, hold⟩ := h.named hopen'
    exact ⟨name, hname.trans hold⟩

/-- **Every deed keeps the record straight.** -/
theorem invariant : Invariant (fun _ : Deed L => True) Straight where
  allowed_bring _ := trivial
  bring _ h := h.bring _
  change _ h := h.change _ _
  release h := h.release
  hand hclosed hperm h := h.hand hclosed hperm
  call c h := h.call c

theorem step (h : Straight y) (d : Deed L) : Straight (y.step d).2 :=
  invariant.step h trivial

theorem run (h : Straight y) (deeds : List (Deed L)) : Straight (y.run deeds) :=
  invariant.run h fun _ _ => trivial

end Straight

/-! ## Which line is held -/

/-- The number of the line held after a deed that came to some outcome. -/
def heldAfter (y : Custody L) : Deed L → Outcome → Option Nat
  | .attach number, .finished (.ok ()) => some number
  | .openLine _, .finished (.ok ()) => some y.fresh
  | .attach _, _ | .openLine _, _ | .close, _ => none
  | .bring _, _ | .change _ _, _ | .call _, _ => y.held?

theorem held?_hand (y : Custody L) (m : Lent L) (hclosed : y.session.line = none) :
    (y.hand m).2.held? =
      match (y.hand m).1 with
      | .ok () => some m.number
      | .error _ => none := by
  obtain ⟨x, r, m', -, hnumber, -, -, hhand⟩ := y.hand_cases m hclosed
  rw [hhand]
  cases x with
  | ok name => exact congrArg some hnumber
  | error f => rfl

theorem held?_step (y : Custody L) (d : Deed L) :
    (y.step d).2.held? = y.heldAfter d (y.step d).1 := by
  cases d with
  | bring l => rfl
  | change number f =>
    show ((y.session.line.map _).map Lent.number) = y.session.line.map Lent.number
    cases y.session.line with
    | none => rfl
    | some m => exact congrArg some (m.same_update number f).1
  | close => rfl
  | attach number =>
    simp only [step, Custody.attach]
    rcases htake : y.release.takeDown number with _ | ⟨m, y'⟩
    · rfl
    · obtain ⟨hnumber, -, hy'⟩ := takeDown_eq htake
      have hheld := y'.held?_hand m (by rw [hy']; rfl)
      dsimp only
      rcases hhand : y'.hand m with ⟨_ | _, y''⟩
      all_goals
        rw [hhand] at hheld
        rw [← hnumber]
        exact hheld
  | openLine opened =>
    cases opened with
    | error f => rfl
    | ok l =>
      simp only [step, openLine_ok]
      have hheld := ({ y.release with fresh := y.fresh + 1 } : Custody L).held?_hand
        { number := y.fresh, line := l } rfl
      rcases hhand : ({ y.release with fresh := y.fresh + 1 } : Custody L).hand
        { number := y.fresh, line := l } with ⟨_ | _, y''⟩
      all_goals
        rw [hhand] at hheld
        exact hheld
  | call c =>
    show (c.run y.session).2.line.map Lent.number = y.session.line.map Lent.number
    rcases call_same y.session c with ⟨hl, hl'⟩ | ⟨m, m', hl, hl', hnumber, -, -⟩
    · rw [hl, hl']
    · rw [hl, hl']
      exact congrArg some hnumber

/-! ## What every line keeps -/

/-- **What requests, receives and closing keep of a line, every deed keeps of every line.** -/
theorem invariant_lines {P : L → Prop} (K : Port.Kept P) (hclose : ∀ l, P l → P (Port.close l)) :
    Invariant (Deed.Keeps P) fun y : Custody L => ∀ m ∈ y.lines, P m.line where
  allowed_bring h := h
  bring {y l} hl h := by
    intro m hm
    have hm : m ∈ y.session.line.toList ++ (y.shelf ++ [{ number := y.fresh, line := l }]) := hm
    rw [← List.append_assoc] at hm
    rcases List.mem_append.mp hm with hm | hm
    · exact h m hm
    · rw [List.mem_singleton.mp hm]
      exact hl
  change {y number f} hf h := by
    intro m' hm'
    rw [lines_change] at hm'
    obtain ⟨m, hm, rfl⟩ := List.mem_map.mp hm'
    unfold Lent.update
    split
    · exact hf m.line (h m hm)
    · exact h m hm
  release {y} h := by
    intro m' hm'
    rcases List.mem_append.mp hm' with hm' | hm'
    · cases hm'
    · rcases List.mem_append.mp hm' with hm' | hm'
      · exact h m' (List.mem_append_right _ hm')
      · obtain ⟨m, hm, rfl⟩ := Option.map_eq_some_iff.mp (Option.mem_toList.mp hm')
        exact hclose m.line (h m (List.mem_append_left _ (Option.mem_toList.mpr hm)))
  hand {y m shelf} hclosed hperm h := by
    have hon : ∀ {m'}, m' ∈ m :: shelf → P m'.line := fun hm' =>
      h _ (List.mem_append_right _ (hperm.mem_iff.mpr hm'))
    obtain ⟨x, r, m', hidentify, -, -, -, hhand⟩ :=
      ({ y with shelf := shelf } : Custody L).hand_cases m hclosed
    have hm' := K.lent.identify y.session.reader y.session.config.identifyAttempts
      (show P { m with handings := m.handings + 1 }.line from hon List.mem_cons_self)
    rw [show Session.identify y.session.reader y.session.config.identifyAttempts
      { m with handings := m.handings + 1 } = (x, r, m') from hidentify] at hm'
    rw [hhand]
    intro m₁ hm₁
    cases x with
    | ok name =>
      rcases List.mem_cons.mp hm₁ with rfl | hm₁
      · exact hm'
      · exact hon (List.mem_cons_of_mem m hm₁)
    | error f =>
      rcases List.mem_append.mp hm₁ with hm₁ | hm₁
      · cases hm₁
      · rcases List.mem_append.mp hm₁ with hm₁ | hm₁
        · exact hon (List.mem_cons_of_mem m hm₁)
        · rw [List.mem_singleton.mp hm₁]
          exact hclose m'.line hm'
  call {y} c h := by
    intro m hm
    rcases List.mem_append.mp hm with hm | hm
    · refine K.lent.session.call c ?_ m (Option.mem_toList.mp hm)
      exact fun m₀ hm₀ => h m₀ (List.mem_append_left _ (Option.mem_toList.mpr hm₀))
    · exact h m (List.mem_append_right _ hm)

/-! ## Lines that carry more -/

def map {M L : Type} (f : M → L) (y : Custody M) : Custody L where
  session := y.session.mapLine (Lent.map f)
  shelf := y.shelf.map (Lent.map f)
  fresh := y.fresh

section Map

variable {M L : Type} {f : M → L}

theorem map_change {g : M → M} {h : L → L} (hgh : ∀ m, f (g m) = h (f m)) (y : Custody M)
    (number : Nat) : (y.map f).change number h = (y.change number g).map f := by
  have hupdate : Lent.update number h ∘ Lent.map f = Lent.map f ∘ Lent.update number g := by
    funext m
    show (if m.number = number then _ else _) = Lent.map f (if m.number = number then _ else _)
    split
    · exact congrArg (fun l => { Lent.map f m with line := l }) (hgh m.line).symm
    · rfl
  simp only [change, map, Session.mapLine, Option.map_map, List.map_map, hupdate]

theorem map_takeDown (y : Custody M) (number : Nat) :
    (y.map f).takeDown number = (y.takeDown number).map fun (m, y') => (m.map f, y'.map f) := by
  have hfind : (y.shelf.map (Lent.map f)).find? (·.number = number) =
      (y.shelf.find? (·.number = number)).map (Lent.map f) := List.find?_map ..
  have herase : (y.shelf.map (Lent.map f)).eraseP (·.number = number) =
      (y.shelf.eraseP (·.number = number)).map (Lent.map f) := List.eraseP_map ..
  simp only [takeDown, map, hfind, herase, Option.map_map]
  rfl

variable [Port M] [Port L]

theorem map_release (E : Port.Erases f) (y : Custody M) : (y.map f).release = y.release.map f := by
  have hclose : Port.close ∘ Lent.map f = Lent.map f ∘ Port.close := funext (Lent.erases_map E).close
  simp only [release_eq, map, Session.mapLine, Option.map_map, hclose, List.map_append, Option.map_none]
  cases y.session.line <;> rfl

theorem map_hand (E : Port.Erases f) (y : Custody M) (m : Lent M) :
    (y.map f).hand (m.map f) = ((y.hand m).1, (y.hand m).2.map f) := by
  have hattach := (Lent.erases_map E).attach y.session { m with handings := m.handings + 1 }
  have hattach : (y.map f).session.attach { m.map f with handings := m.handings + 1 } = _ := hattach
  simp only [hand]
  rw [show (m.map f).handings = m.handings from rfl, hattach]
  simp [map]

theorem map_attach (E : Port.Erases f) (y : Custody M) (number : Nat) :
    (y.map f).attach number = ((y.attach number).1, (y.attach number).2.map f) := by
  simp only [attach, map_release E, map_takeDown]
  cases y.release.takeDown number with
  | none => rfl
  | some p => exact map_hand E p.2 p.1

theorem map_openLine (E : Port.Erases f) (y : Custody M) (opened : Except Fault M) :
    (y.map f).openLine (opened.map f) = ((y.openLine opened).1, (y.openLine opened).2.map f) := by
  cases opened with
  | error e =>
    have hrelease := map_release E y
    exact congrArg (Prod.mk (Except.error e)) hrelease
  | ok m =>
    show (y.map f).openLine (.ok (f m)) = _
    rw [openLine_ok, openLine_ok, map_release E]
    exact map_hand E { y.release with fresh := y.fresh + 1 } { number := y.fresh, line := m }

theorem map_step (E : Port.Erases f) {d : Deed M} {d' : Deed L} (hd : Deed.Over f d d') (y : Custody M) :
    (y.map f).step d' = ((y.step d).1, (y.step d).2.map f) := by
  cases hd with
  | bring m => simp [step, map, Lent.map]
  | change number hgh => exact congrArg (Prod.mk Outcome.done) (map_change hgh y number)
  | attach number =>
    simp only [step, map_attach E]
  | openLine opened =>
    simp only [step, map_openLine E]
  | close => exact congrArg (Prod.mk Outcome.done) (map_release E y)
  | call c =>
    have hcall := (Lent.erases_map E).call y.session c
    have hcall : c.run (y.map f).session = _ := hcall
    simp only [step, hcall]
    rfl

/-- **Deeds over lines that carry more are the deeds over the others.** -/
theorem map_run (E : Port.Erases f) {lift : Deed L → Deed M} (hlift : ∀ d, Deed.Over f (lift d) d)
    (y : Custody M) (deeds : List (Deed L)) :
    (y.map f).run deeds = (y.run (deeds.map lift)).map f := by
  induction deeds generalizing y with
  | nil => rfl
  | cons d later ih =>
    show ((y.map f).step d).2.run later = _
    rw [map_step E (hlift d) y]
    exact ih (y.step (lift d)).2

end Map

end Custody

end Vocoder
