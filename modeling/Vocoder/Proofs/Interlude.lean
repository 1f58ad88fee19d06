import Vocoder.Proofs.Recording

/-!
# What happens between calls

Between two calls of a session its port is not at rest: replies arrive, reads begin to fail, the pieces
get smaller. An interlude is any such change, as long as it takes no request and stops none from being
taken.

* `Interlude.ofBench` — steps on a bench line are interludes, but for those that write, close the line,
  forget what was written, or make writes fail.
* `Session.wrote_interrupt` — a session that is interrupted has written nothing.
-/

namespace Vocoder

/-- A change of a port that takes no request and stops none from being taken. -/
structure Interlude (L : Type) [Port L] [Recording L] where
  act : L → L
  taken_act : ∀ l, Recording.taken (act l) = Recording.taken l
  accepts_act : ∀ {l}, Recording.Accepts l → Recording.Accepts (act l)

/-! ## Steps on a bench line -/

/-- The step neither writes to the line nor touches what was written or whether writes are accepted. -/
def BenchStep.isInterlude : BenchStep → Bool
  | reply _ | inject _ | readChunk _ | failReads _ | failPrepare _ | acceptLimit _ | prepare | read _ =>
    true
  | failWrites _ | clearSent | write _ | close => false

/-- Preparing a bench line changes neither what it took nor whether it accepts. -/
theorem BenchLine.prepare_keeps (l : BenchLine) :
    l.prepare.2.sent = l.sent ∧ l.prepare.2.isClosed = l.isClosed ∧
      l.prepare.2.failWrites = l.failWrites := by
  rw [prepare]
  split
  · exact ⟨rfl, rfl, rfl⟩
  · exact ⟨rfl, rfl, rfl⟩

theorem BenchLine.read_keeps (l : BenchLine) (n : Nat) :
    (l.read n).2.sent = l.sent ∧ (l.read n).2.isClosed = l.isClosed ∧
      (l.read n).2.failWrites = l.failWrites := by
  rw [read]
  split
  · exact ⟨rfl, rfl, rfl⟩
  · split
    · exact ⟨rfl, rfl, rfl⟩
    · exact ⟨rfl, rfl, rfl⟩

theorem BenchStep.run_keeps {s : BenchStep} (h : s.isInterlude = true) (l : BenchLine) :
    (s.run l).2.sent = l.sent ∧ (s.run l).2.isClosed = l.isClosed ∧
      (s.run l).2.failWrites = l.failWrites := by
  cases s with
  | reply bytes => exact ⟨rfl, rfl, rfl⟩
  | inject bytes => exact ⟨rfl, rfl, rfl⟩
  | readChunk n => exact ⟨rfl, rfl, rfl⟩
  | failReads on => exact ⟨rfl, rfl, rfl⟩
  | failPrepare on => exact ⟨rfl, rfl, rfl⟩
  | acceptLimit n => exact ⟨rfl, rfl, rfl⟩
  | prepare =>
    have := l.prepare_keeps
    rw [run]
    rcases hprepare : l.prepare with ⟨_ | _, l'⟩
    all_goals
      rw [hprepare] at this
      exact this
  | read n =>
    have := l.read_keeps n
    rw [run]
    rcases hread : l.read n with ⟨_ | _, l'⟩
    all_goals
      rw [hread] at this
      exact this
  | failWrites on => cases h
  | clearSent => cases h
  | write bytes => cases h
  | close => cases h

def BenchStep.runAll (steps : List BenchStep) (l : BenchLine) : BenchLine :=
  steps.foldl (fun l s => (s.run l).2) l

theorem BenchStep.runAll_keeps {steps : List BenchStep} (h : ∀ s ∈ steps, s.isInterlude = true)
    (l : BenchLine) :
    (runAll steps l).sent = l.sent ∧ (runAll steps l).isClosed = l.isClosed ∧
      (runAll steps l).failWrites = l.failWrites := by
  induction steps generalizing l with
  | nil => exact ⟨rfl, rfl, rfl⟩
  | cons s later ih =>
    obtain ⟨hsent, hclosed, hwrites⟩ := run_keeps (h s List.mem_cons_self) l
    obtain ⟨hsent', hclosed', hwrites'⟩ := ih (fun t ht => h t (List.mem_cons_of_mem s ht)) (s.run l).2
    exact ⟨hsent'.trans hsent, hclosed'.trans hclosed, hwrites'.trans hwrites⟩

/-- Steps on a bench line between calls. -/
def Interlude.ofBench (steps : List BenchStep) (h : ∀ s ∈ steps, s.isInterlude = true) :
    Interlude BenchLine where
  act := BenchStep.runAll steps
  taken_act l := (BenchStep.runAll_keeps h l).1
  accepts_act {l} hl := by
    obtain ⟨-, hclosed, hwrites⟩ := BenchStep.runAll_keeps h l
    exact ⟨hclosed.trans hl.1, hwrites.trans hl.2⟩

/-! ## Interrupted sessions -/

variable {L : Type} [Port L] [Recording L]

def Session.interrupt (s : Session L) (i : Interlude L) : Session L :=
  { s with line := s.line.map i.act }

theorem Session.wrote_interrupt {s : Session L} (h : s.Ready) (i : Interlude L) :
    s.Wrote (s.interrupt i) [] 0 0 := by
  obtain ⟨l, hl, haccepts⟩ := h
  refine ⟨⟨i.act l, ?_, i.accepts_act haccepts⟩, rfl, ?_, rfl, rfl⟩
  · rw [interrupt, hl]
    rfl
  · simp only [taken, interrupt, hl, Option.map_some, Option.getD_some, i.taken_act,
      List.append_nil]

end Vocoder
