import Vocoder.LoopTest.Files

/-!
# The output

Audio that has been decoded goes to a sink. A sink may hold bytes back until so many have come that it
is worth passing them on; if passing them on fails, they stay. A write that fails takes nothing of its
block.

`Sink.accepted` is everything a sink has taken, passed on or held back: a write that succeeds adds its
block to it, and neither a failed write nor a flush changes it.
-/

namespace Vocoder.LoopTest

/-- How much an output file holds back at most. -/
def bufferSize : Nat := 8192

/-- An output that is being written. -/
structure Sink where
  /-- Bytes held back at most. -/
  capacity : Nat := bufferSize
  /-- Whether there is room for what is passed on. -/
  hasRoom : Bool := true
  /-- What has been passed on. -/
  passed : List UInt8 := []
  /-- What is held back. -/
  held : List UInt8 := []
  deriving DecidableEq, Repr

namespace Sink

/-- Everything the sink has taken. -/
def accepted (s : Sink) : List UInt8 :=
  s.passed ++ s.held

/-- Pass on what is held back, if there is any. -/
def flush (s : Sink) : Except FileProblem Unit × Sink :=
  if s.held.isEmpty then (.ok (), s)
  else if s.hasRoom then (.ok (), { s with passed := s.passed ++ s.held, held := [] })
  else (.error .noRoom, s)

/-- Take a block behind what is held back. A block as large as the whole buffer is passed on. -/
def take (s : Sink) (block : List UInt8) : Except FileProblem Unit × Sink :=
  if block.length < s.capacity then (.ok (), { s with held := s.held ++ block })
  else if s.hasRoom then (.ok (), { s with passed := s.passed ++ block })
  else (.error .noRoom, s)

/-- Write a block. If it does not fit behind what is held back, that is passed on first. -/
def write (s : Sink) (block : List UInt8) : Except FileProblem Unit × Sink :=
  if s.held.length + block.length ≤ s.capacity then s.take block
  else
    match s.flush with
    | (.error problem, s₁) => (.error problem, s₁)
    | (.ok (), s₁) => s₁.take block

theorem accepted_flush (s : Sink) : s.flush.2.accepted = s.accepted := by
  unfold flush
  split
  · rfl
  · split <;> simp [accepted]

/-- A flush that succeeds leaves nothing behind. -/
theorem held_flush {s s' : Sink} (h : s.flush = (.ok (), s')) : s'.held = [] := by
  unfold flush at h
  split at h
  · cases h; simp_all
  · split at h
    · cases h; rfl
    · cases h

theorem accepted_take {s s' : Sink} {block : List UInt8}
    (hfit : s.held.length + block.length ≤ s.capacity ∨ s.held = [])
    (h : s.take block = (.ok (), s')) : s'.accepted = s.accepted ++ block := by
  unfold take at h
  split at h
  · cases h; simp [accepted]
  · split at h
    · rename_i hlen _
      have hheld : s.held = [] := by
        rcases hfit with hfit | hheld
        · exact List.length_eq_zero_iff.mp (by omega)
        · exact hheld
      cases h; simp [accepted, hheld]
    · cases h

/-- A write that succeeds adds its block. -/
theorem accepted_write {s s' : Sink} {block : List UInt8} (h : s.write block = (.ok (), s')) :
    s'.accepted = s.accepted ++ block := by
  unfold write at h
  split at h
  · rename_i hfit
    exact accepted_take (.inl hfit) h
  · split at h
    · cases h
    · rename_i s₁ hflush
      rw [accepted_take (.inr (held_flush hflush)) h, ← accepted_flush s, hflush]

end Sink

end Vocoder.LoopTest
