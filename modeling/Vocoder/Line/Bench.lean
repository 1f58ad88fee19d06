import Vocoder.Line

/-!
# The bench line

A line without hardware, for trying the driver on the bench. Replies are queued beforehand and every
accepted write releases one of them into the stream that is read; bytes may also be put there
directly. Reads can be cut into small pieces, every operation can be made to fail, and the line may
report fewer bytes accepted than it was given.

What is readable is a queue of bytes: `read_ok` says that a read takes from its front, and no more than
it was asked for.
-/

namespace Vocoder

/-- The state of a bench line. -/
structure BenchLine where
  /-- Replies not yet released, the next one first. -/
  replies : List (List UInt8) := []
  /-- Bytes that can be read now. -/
  incoming : List UInt8 := []
  /-- Every accepted write, oldest first. -/
  sent : List (List UInt8) := []
  /-- The most bytes one read delivers; zero for no limit. -/
  readChunk : Nat := 0
  failReads : Bool := false
  failWrites : Bool := false
  failPrepare : Bool := false
  /-- The largest count a write reports, if there is such a limit. -/
  acceptLimit : Option Nat := none
  /-- How often the line was prepared. -/
  prepareCalls : Nat := 0
  isClosed : Bool := false
  deriving DecidableEq, Repr

namespace BenchLine

/-! ### Setting up -/

/-- Queue a reply for the next write that finds it at the head of the queue. -/
def reply (l : BenchLine) (bytes : List UInt8) : BenchLine :=
  { l with replies := l.replies ++ [bytes] }

/-- Make bytes readable at once. -/
def inject (l : BenchLine) (bytes : List UInt8) : BenchLine :=
  { l with incoming := l.incoming ++ bytes }

/-- Forget what was written. -/
def clearSent (l : BenchLine) : BenchLine :=
  { l with sent := [] }

/-! ### Operating -/

/-- Count the call, and fail if told to. -/
def prepare (l : BenchLine) : Except Fault Unit × BenchLine :=
  let l' := { l with prepareCalls := l.prepareCalls + 1 }
  if l.failPrepare then (.error .noMessage, l') else (.ok (), l')

/-- How many bytes a read of at most `n` delivers. -/
def readCount (l : BenchLine) (n : Nat) : Nat :=
  let available := min n l.incoming.length
  if l.readChunk = 0 then available else min available l.readChunk

/-- Deliver bytes from the front of what is there. -/
def read (l : BenchLine) (n : Nat) : Except Fault (List UInt8) × BenchLine :=
  if l.isClosed then (.error .closed, l)
  else if l.failReads then (.error (.read "mock read failure"), l)
  else
    (.ok (l.incoming.take (l.readCount n)),
      { l with incoming := l.incoming.drop (l.readCount n) })

/-- Log the bytes and release the reply at the head of the queue. The reported count is limited by
`acceptLimit`, the effect is not. -/
def write (l : BenchLine) (bytes : List UInt8) : Except Fault Nat × BenchLine :=
  if l.isClosed then (.error .closed, l)
  else if l.failWrites then (.error (.write "mock write failure"), l)
  else
    (.ok (l.acceptLimit.elim bytes.length (min bytes.length)),
      { l with
        sent := l.sent ++ [bytes]
        incoming := l.incoming ++ l.replies.head?.getD []
        replies := l.replies.tail })

/-- Close the line; what could be read is gone. -/
def close (l : BenchLine) : BenchLine :=
  { l with isClosed := true, incoming := [] }

theorem readCount_le (l : BenchLine) (n : Nat) : l.readCount n ≤ min n l.incoming.length := by
  simp only [readCount]
  split <;> omega

theorem read_ok {l : BenchLine} {n : Nat} {bytes : List UInt8} {l' : BenchLine}
    (h : l.read n = (.ok bytes, l')) :
    l.incoming = bytes ++ l'.incoming ∧ bytes.length ≤ n := by
  simp only [read] at h
  split at h
  · simp at h
  · split at h
    · simp at h
    · obtain ⟨hb, hl⟩ := Prod.mk.inj h
      have hb := Except.ok.inj hb
      subst hb hl
      have := l.readCount_le n
      simp
      omega

instance : Line BenchLine where
  prepare := prepare
  read := read
  write := write
  close := close
  readable := incoming
  read_ok := read_ok

end BenchLine

end Vocoder
