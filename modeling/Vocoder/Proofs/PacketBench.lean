import Vocoder.Proofs.Call
import Vocoder.Proofs.PacketLine

/-!
# Sessions over packets

One session and one line of packets. The bench is run by the same calls as a workbench with one bench
line, and it is prepared by the same replies, but it holds packets where the workbench holds bytes.

* `PacketBench.Mirrored` — the workbench and the packet bench are in the same state, up to bytes. One
  lemma a step: `onLine`, `release`, `attach`, `call`, and `step` for all of them.
* `Workbench.run_sight_eq` — so whole runs cannot be told apart.
-/

namespace Vocoder

open Workbench (Outcome)

/-- A session and one packet line. -/
structure PacketBench (field : LengthField) where
  session : Session (PacketLine field)
  /-- The line, while the session does not hold it. -/
  aside : Option (PacketLine field)

/-- One step on a session and its line, whose replies are rows of packets and noise. -/
inductive PacketStep (field : LengthField) where
  | reply (pieces : List (Piece field))
  /-- Make packets and noise readable at once. -/
  | inject (pieces : List (Piece field))
  /-- Limit what one read delivers; zero for no limit. -/
  | readChunk (n : Nat)
  | failPrepare (on : Bool)
  | clearSent
  | attach
  | close
  | call (c : Call)

namespace PacketStep

/-- The step at a workbench, where replies are bytes. -/
def onBytes {field : LengthField} : PacketStep field → Workbench.Step
  | reply pieces => .onLine (.reply (Piece.stream pieces))
  | inject pieces => .onLine (.inject (Piece.stream pieces))
  | readChunk n => .onLine (.readChunk n)
  | failPrepare on => .onLine (.failPrepare on)
  | clearSent => .onLine .clearSent
  | attach => .attach
  | close => .close
  | call c => c.step

end PacketStep

/-- What can be seen after a step: what the step came to, the session but for its line, and what was
written to the line. -/
structure Sight where
  outcome : Outcome
  session : Session Unit
  sent : List (List UInt8)

/-- The session with nothing known of its line but that there is one. -/
def Session.withoutLine {L : Type} (s : Session L) : Session Unit where
  config := s.config
  line := s.line.map fun _ => ()
  held := s.held
  settings := s.settings
  productName := s.productName
  stats := s.stats

def Workbench.sight : Outcome × Workbench → Sight
  | (outcome, w) => ⟨outcome, w.session.withoutLine, w.currentLine.sent⟩

namespace PacketBench

variable {field : LengthField}

def start (c : SessionConfig) : PacketBench c.lengthField :=
  { session := { config := c }, aside := some {} }

/-- The line, wherever it is. -/
def line (p : PacketBench field) : PacketLine field :=
  (p.session.line.or p.aside).getD {}

def sight : Outcome × PacketBench field → Sight
  | (outcome, p) => ⟨outcome, p.session.withoutLine, p.line.sent⟩

def updateLine (p : PacketBench field) (f : PacketLine field → PacketLine field) :
    PacketBench field :=
  { session := { p.session with line := p.session.line.map f }, aside := p.aside.map f }

theorem updateLine_id (p : PacketBench field) : p.updateLine id = p := by
  rw [updateLine, Option.map_id]
  rfl

/-- Close the session and put its line aside. -/
def release (p : PacketBench field) : PacketBench field :=
  match p.session.close with
  | (s, released) => { session := s, aside := released.or p.aside }

/-- Attach the line, which the session lets go of first. -/
def attach (p : PacketBench field) : Except Fault Unit × PacketBench field :=
  match p.release with
  | { session := s, aside := none } => (.error .closed, { session := s, aside := none })
  | { session := s, aside := some m } =>
    match s.attach m with
    | (result, s, released) => (result, { session := s, aside := released.head? })

/-- Carry out a step. Noise and the size of reads do not exist. -/
def step (p : PacketBench field) : PacketStep field → Outcome × PacketBench field
  | .reply pieces =>
    (.onLine .done, p.updateLine fun m => { m with replies := m.replies ++ [Piece.packets pieces] })
  | .inject pieces =>
    (.onLine .done, p.updateLine fun m => { m with queue := m.queue ++ Piece.packets pieces })
  | .readChunk _ => (.onLine .done, p)
  | .failPrepare on => (.onLine .done, p.updateLine fun m => { m with failPrepare := on })
  | .clearSent => (.onLine .done, p.updateLine fun m => { m with sent := [] })
  | .attach =>
    match p.attach with
    | (result, p) => (.finished result, p)
  | .close => (.done, p.release)
  | .call c =>
    match c.run p.session with
    | (outcome, s) => (outcome, { p with session := s })

def run (p : PacketBench field) : List (PacketStep field) → List (Outcome × PacketBench field)
  | [] => []
  | s :: later =>
    let next := p.step s
    next :: next.2.run later

/-! ## The same state, in bytes and in packets -/

variable {c : SessionConfig} {ht : 0 < c.responseTimeoutMs}

/-- The first bench line of a workbench and the line of a packet bench are in the same place, and the
workbench has no other line. -/
inductive Placed (w : Workbench) (p : PacketBench field) (l : BenchLine) (m : PacketLine field) :
    Prop where
  | held (hw : w.session.line = some ⟨0, .bench l⟩) (hshelf : w.shelf = [])
    (hp : p.session.line = some m) (haside : p.aside = none)
  | aside (hw : w.session.line = none) (hshelf : w.shelf = [⟨0, .bench l⟩])
    (hp : p.session.line = none) (haside : p.aside = some m)

/-- The two benches are in the same place with lines that carry the same packets, and the sessions do
not differ otherwise. -/
structure Mirrored (ht : 0 < c.responseTimeoutMs) (w : Workbench) (p : PacketBench c.lengthField) :
    Prop where
  current : w.current = 0
  similar : (PacketLine.simulation ht).Similar w.session p.session
  placed : ∃ l m, PacketLine.Frames l m ∧ Placed w p l m

variable {w w' : Workbench} {p p' : PacketBench c.lengthField}

namespace Placed

variable {p : PacketBench field} {l : BenchLine} {m : PacketLine field}

theorem currentLine_eq (h : Placed w p l m) (hw : w.current = 0) : w.currentLine = l := by
  cases h with
  | held hl hshelf hp haside =>
    simp [Workbench.currentLine, Workbench.line?, Workbench.lines, hl, hshelf, hw]
  | aside hl hshelf hp haside =>
    simp [Workbench.currentLine, Workbench.line?, Workbench.lines, hl, hshelf, hw]

theorem line_eq (h : Placed w p l m) : p.line = m := by
  cases h with
  | held hl hshelf hp haside =>
    rw [line, hp]
    rfl
  | aside hl hshelf hp haside =>
    rw [line, hp, haside]
    rfl

theorem update (h : Placed w p l m) (hw : w.current = 0) (l' : BenchLine)
    (f : PacketLine field → PacketLine field) :
    Placed (w.updateCurrent fun _ => .bench l') (p.updateLine f) l' (f m) := by
  cases h with
  | held hl hshelf hp haside =>
    refine .held ?_ ?_ ?_ ?_
    · simp [Workbench.updateCurrent, hl, hw]
    · simp [Workbench.updateCurrent, hshelf]
    · simp [updateLine, hp]
    · simp [updateLine, haside]
  | aside hl hshelf hp haside =>
    refine .aside ?_ ?_ ?_ ?_
    · simp [Workbench.updateCurrent, hl]
    · simp [Workbench.updateCurrent, hshelf, hw]
    · simp [updateLine, hp]
    · simp [updateLine, haside]

/-- The lines held by the sessions carry the same packets. -/
theorem rel_line (h : Placed w p l m) (hF : PacketLine.Frames l m) :
    Option.Rel PacketLine.Mirrors w.session.line p.session.line := by
  cases h with
  | held hl hshelf hp haside =>
    rw [hl, hp]
    exact .some ⟨l, rfl, hF⟩
  | aside hl hshelf hp haside =>
    rw [hl, hp]
    exact .none

theorem exists_held (hline : Option.Rel PacketLine.Mirrors w.session.line p.session.line)
    (hopen : w.session.isOpen = true) (hshelf : w.shelf = []) (haside : p.aside = none) :
    ∃ l m, PacketLine.Frames l m ∧ Placed w p l m := by
  rw [Session.isOpen] at hopen
  rcases hw : w.session.line with _ | n
  · rw [hw] at hopen
    cases hopen
  · rcases hp : p.session.line with _ | m
    all_goals
      rw [hw, hp] at hline
      cases hline
    rename_i hR
    obtain ⟨l, rfl, hF⟩ := hR
    exact ⟨l, m, hF, .held hw hshelf hp haside⟩

theorem exists_aside (hline : Option.Rel PacketLine.Mirrors w.session.line p.session.line)
    (hF : PacketLine.Frames l m) (hclosed : w.session.isOpen = false)
    (hshelf : w.shelf = [⟨0, .bench l⟩]) (haside : p.aside = some m) :
    ∃ l m, PacketLine.Frames l m ∧ Placed w p l m := by
  rw [Session.isOpen] at hclosed
  rcases hw : w.session.line with _ | n
  · rcases hp : p.session.line with _ | m
    all_goals
      rw [hw, hp] at hline
      cases hline
    exact ⟨l, _, hF, .aside hw hshelf hp haside⟩
  · rw [hw] at hclosed
    cases hclosed

end Placed

namespace Mirrored

theorem start : Mirrored ht (.start c) (.start c) where
  current := rfl
  similar :=
    { config_left := rfl, config_right := rfl, line := .none, held := rfl, settings := rfl,
      productName := rfl, stats := rfl }
  placed := ⟨{}, {},
    { incoming := .nil, replies := ⟨[], rfl, rfl⟩, sent := rfl, failPrepare := rfl, isClosed := rfl,
      failReads := rfl, failWrites := rfl, acceptLimit := rfl }, .aside rfl rfl rfl rfl⟩

theorem sight_eq (h : Mirrored ht w p) (outcome : Outcome) :
    Workbench.sight (outcome, w) = sight (outcome, p) := by
  obtain ⟨l, m, hF, hplaced⟩ := h.placed
  have hline : (w.session.line.map fun _ => ()) = p.session.line.map fun _ => () := by
    cases hplaced with
    | held hl hshelf hp haside => rw [hl, hp]; rfl
    | aside hl hshelf hp haside => rw [hl, hp]; rfl
  simp only [Workbench.sight, sight, Session.withoutLine, h.similar.config_left,
    h.similar.config_right, h.similar.held, h.similar.settings, h.similar.productName,
    h.similar.stats, hline, hplaced.currentLine_eq h.current, hplaced.line_eq, hF.sent]

/-- A step on the line that keeps it carrying the packets keeps the benches mirrored. -/
theorem onLine (h : Mirrored ht w p) {s : BenchStep} {g : BenchLine → BenchLine}
    {f : PacketLine c.lengthField → PacketLine c.lengthField} (hs : ∀ l, s.run l = (.done, g l))
    (hgf : ∀ {l m}, PacketLine.Frames l m → PacketLine.Frames (g l) (f m)) :
    (w.step (.onLine s)).1 = .onLine .done ∧
      Mirrored ht (w.step (.onLine s)).2 (p.updateLine f) := by
  obtain ⟨l, m, hF, hplaced⟩ := h.placed
  have hstep : w.step (.onLine s) = (.onLine .done, w.updateCurrent fun _ => .bench (g l)) := by
    rw [Workbench.step, hplaced.currentLine_eq h.current, hs]
  have hplaced' := hplaced.update h.current (g l) f
  rw [hstep]
  refine ⟨rfl, h.current, ?_, g l, f m, hgf hF, hplaced'⟩
  exact { h.similar with line := hplaced'.rel_line (hgf hF) }

/-- Closing the sessions puts both lines aside. -/
theorem release (h : Mirrored ht w p) :
    Mirrored ht w.release p.release ∧ w.release.session.line = none := by
  obtain ⟨l, m, hF, hplaced⟩ := h.placed
  refine ⟨⟨h.current, h.similar.close.1, ?_⟩, rfl⟩
  cases hplaced with
  | held hl hshelf hp haside =>
    refine ⟨l.close, m.close, PacketLine.close_frames hF, .aside rfl ?_ rfl ?_⟩
    · simp [Workbench.release, Session.close, Workbench.putBack, hl, hshelf]
      rfl
    · simp [PacketBench.release, Session.close, hp]
      rfl
  | aside hl hshelf hp haside =>
    refine ⟨l, m, hF, .aside rfl ?_ rfl ?_⟩
    · simp [Workbench.release, Session.close, Workbench.putBack, hl, hshelf]
    · simp [PacketBench.release, Session.close, hp, haside]

/-- Attaching: both sessions let go of their line and take it again. -/
theorem attach (h : Mirrored ht w p) :
    w.attach.1 = p.attach.1 ∧ Mirrored ht w.attach.2 p.attach.2 := by
  obtain ⟨h₁, hnone⟩ := h.release
  rw [Workbench.attach, PacketBench.attach]
  generalize w.release = w₁ at h₁ hnone ⊢
  generalize p.release = p₁ at h₁ ⊢
  obtain ⟨l, m, hF, hplaced⟩ := h₁.placed
  cases hplaced with
  | held hl hshelf hp haside =>
    -- both benches have just put their lines aside
    rw [hl] at hnone
    cases hnone
  | aside hl hshelf hp haside =>
    obtain ⟨s, aside⟩ := p₁
    cases haside
    have htake : w₁.takeDown w₁.current = some (⟨0, .bench l⟩, { w₁ with shelf := [] }) := by
      simp [Workbench.takeDown, hshelf, h₁.current]
    rcases hattach : w₁.session.attach ⟨0, .bench l⟩ with ⟨x, s', released⟩
    obtain ⟨t', released', hattach', hsimilar, hlines⟩ :=
      h₁.similar.attach hl (⟨l, rfl, hF⟩ : PacketLine.Mirrors ⟨0, .bench l⟩ m) hattach
    simp only [htake, hattach, hattach']
    refine ⟨(mapError_id x).symm, h₁.current, hsimilar, ?_⟩
    -- the sessions hold the lines now, or both hand back closed ones
    rcases hlines with ⟨rfl, rfl, hopen⟩ | ⟨hclosed, _, m', rfl, rfl, l', rfl, hF'⟩
    · exact Placed.exists_held hsimilar.line hopen rfl rfl
    · refine Placed.exists_aside hsimilar.line hF' ?_ rfl rfl
      show s'.line.isSome = false
      rw [hclosed]
      rfl

theorem call (h : Mirrored ht w p) (call : Call) :
    (w.step call.step).1 = (p.step (.call call)).1 ∧
      Mirrored ht (w.step call.step).2 (p.step (.call call)).2 := by
  obtain ⟨l, m, hF, hplaced⟩ := h.placed
  obtain ⟨t, ht, h'⟩ := h.similar.call call
  have hopen := call.isOpen_run w.session
  rw [Workbench.step_call, PacketBench.step, ht]
  refine ⟨(Workbench.Outcome.mapFault_id _).symm, h.current, h', ?_⟩
  cases hplaced with
  | held hl hshelf hp haside =>
    refine Placed.exists_held h'.line ?_ hshelf haside
    rw [hopen, Session.isOpen, hl]
    rfl
  | aside hl hshelf hp haside =>
    refine Placed.exists_aside h'.line hF ?_ hshelf haside
    rw [hopen, Session.isOpen, hl]
    rfl

theorem step (h : Mirrored ht w p) (s : PacketStep c.lengthField) :
    (w.step s.onBytes).1 = (p.step s).1 ∧ Mirrored ht (w.step s.onBytes).2 (p.step s).2 := by
  cases s with
  | reply pieces =>
    refine h.onLine (fun _ => rfl) fun {l m} hF => { hF with replies := ?_ }
    obtain ⟨rows, hl, hm⟩ := hF.replies
    refine ⟨rows ++ [pieces], ?_, ?_⟩
    · rw [BenchLine.reply, hl, List.map_append]
      rfl
    · rw [hm, List.map_append]
      rfl
  | inject pieces =>
    exact h.onLine (fun _ => rfl) fun hF =>
      { hF with incoming := hF.incoming.append ⟨pieces, rfl, rfl⟩ }
  | readChunk n =>
    obtain ⟨houtcome, h'⟩ := h.onLine (s := .readChunk n) (g := fun l => { l with readChunk := n })
      (f := id) (fun _ => rfl) fun hF => { hF with }
    rw [updateLine_id] at h'
    exact ⟨houtcome, h'⟩
  | failPrepare on =>
    exact h.onLine (fun _ => rfl) fun hF => { hF with failPrepare := rfl }
  | clearSent =>
    exact h.onLine (fun _ => rfl) fun hF => { hF with sent := rfl }
  | attach => exact ⟨congrArg Outcome.finished h.attach.1, h.attach.2⟩
  | close => exact ⟨rfl, h.release.1⟩
  | call call => exact h.call call

/-- Whole runs come to the same, by induction on the steps. -/
theorem run (h : Mirrored ht w p) (steps : List (PacketStep c.lengthField)) :
    (w.run (steps.map PacketStep.onBytes)).map Workbench.sight = (p.run steps).map sight := by
  induction steps generalizing w p with
  | nil => rfl
  | cons s later ih =>
    obtain ⟨houtcome, h'⟩ := h.step s
    have hsight : Workbench.sight (w.step s.onBytes) = sight (p.step s) := by
      rcases hw : w.step s.onBytes with ⟨outcome, w'⟩
      rcases hp : p.step s with ⟨outcome', p'⟩
      rw [hw, hp] at houtcome h'
      rw [← show outcome = outcome' from houtcome]
      exact h'.sight_eq outcome
    show Workbench.sight (w.step s.onBytes) ::
        ((w.step s.onBytes).2.run (later.map PacketStep.onBytes)).map Workbench.sight =
      sight (p.step s) :: ((p.step s).2.run later).map sight
    rw [hsight, ih h']

end Mirrored

end PacketBench

/-- **Sessions over bytes are sessions over packets.** For every configuration that leaves some time, every
run of a session on a bench line whose replies are packets and noise, read in pieces of any size, looks
like the run over the queue of packets alone: the outcome of every step, everything about the session, and
what was written. -/
theorem Workbench.run_sight_eq (c : SessionConfig) (ht : 0 < c.responseTimeoutMs)
    (steps : List (PacketStep c.lengthField)) :
    ((Workbench.start c).run (steps.map PacketStep.onBytes)).map Workbench.sight =
      ((PacketBench.start c).run steps).map PacketBench.sight :=
  have hstart : PacketBench.Mirrored ht (.start c) (.start c) := .start
  hstart.run steps

/-- A session with a chip that masks lengths: two packets and noise answer the identification, a rate is
acknowledged behind a marker-free byte, and the voice frame is full of marker bytes. -/
def PacketBench.noisySteps : List (PacketStep .masked) :=
  [ .readChunk 1,
    .reply
      [ .noise 0x00 (by decide),
        .packet ⟨[0x61, 0xf0, 0x02, 0x00, 0x0a, 0x00], by decide, by decide, by decide⟩,
        .packet ⟨[0x61, 0xf0, 0x02, 0x00, 0x30, 0x61], by decide, by decide, by decide⟩ ],
    .attach,
    .reply
      [ .noise 0xff (by decide),
        .packet ⟨[0x61, 0x00, 0x02, 0x00, 0x0a, 0x00], by decide, by decide, by decide⟩ ],
    .reply
      [ .packet
          ⟨[0x61, 0x00, 0x09, 0x01, 0x01, 0x31, 0x61, 0x61, 0x61, 0x61, 0x61, 0x61, 0x61],
            by decide, by decide, by decide⟩,
        .noise 0x62 (by decide) ],
    .call (.frame (.encode (AudioBlock.fill 0) (List.replicate 7 0) .r2450 0)),
    .close ]

theorem Workbench.run_sight_eq_noisySteps :
    0 < ({ lengthField := .masked } : SessionConfig).responseTimeoutMs ∧
      ((Workbench.start { lengthField := .masked }).run
        (PacketBench.noisySteps.map PacketStep.onBytes)).map Workbench.sight =
        ((PacketBench.start { lengthField := .masked }).run PacketBench.noisySteps).map
          PacketBench.sight ∧
      ((PacketBench.start { lengthField := .masked }).run PacketBench.noisySteps).map
        (·.2.session.stats.framesEncoded) = [0, 0, 0, 0, 0, 1, 1] :=
  ⟨by decide, Workbench.run_sight_eq { lengthField := .masked } (by decide) PacketBench.noisySteps,
    by decide⟩

end Vocoder
