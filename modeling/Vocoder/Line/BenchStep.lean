import Vocoder.Line.Bench

/-!
# Steps on a bench line

What can be done to a bench line from outside: set it up, or operate it directly. A test of the driver
is a list of such steps among its own operations.
-/

namespace Vocoder

/-- One step on a bench line. -/
inductive BenchStep where
  /-- Queue a reply. -/
  | reply (bytes : List UInt8)
  /-- Make bytes readable at once. -/
  | inject (bytes : List UInt8)
  /-- Limit what one read delivers; zero for no limit. -/
  | readChunk (n : Nat)
  | failReads (on : Bool)
  | failWrites (on : Bool)
  | failPrepare (on : Bool)
  /-- Limit the count that a write reports. -/
  | acceptLimit (n : Option Nat)
  | clearSent
  | prepare
  | read (n : Nat)
  | write (bytes : List UInt8)
  | close
  deriving DecidableEq, Repr

/-- What a step comes to. -/
inductive BenchOutcome where
  /-- The step has nothing to tell. -/
  | done
  /-- The line is prepared. -/
  | prepared
  /-- These bytes were read. -/
  | got (bytes : List UInt8)
  /-- So many bytes were accepted. -/
  | accepted (n : Nat)
  | failed (f : Fault)
  deriving DecidableEq, Repr

/-- Carry out a step. -/
def BenchStep.run : BenchStep → BenchLine → BenchOutcome × BenchLine
  | reply bytes, l => (.done, l.reply bytes)
  | inject bytes, l => (.done, l.inject bytes)
  | readChunk n, l => (.done, { l with readChunk := n })
  | failReads on, l => (.done, { l with failReads := on })
  | failWrites on, l => (.done, { l with failWrites := on })
  | failPrepare on, l => (.done, { l with failPrepare := on })
  | acceptLimit n, l => (.done, { l with acceptLimit := n })
  | clearSent, l => (.done, l.clearSent)
  | prepare, l =>
    match l.prepare with
    | (.ok (), l') => (.prepared, l')
    | (.error f, l') => (.failed f, l')
  | read n, l =>
    match l.read n with
    | (.ok bytes, l') => (.got bytes, l')
    | (.error f, l') => (.failed f, l')
  | write bytes, l =>
    match l.write bytes with
    | (.ok n, l') => (.accepted n, l')
    | (.error f, l') => (.failed f, l')
  | close, l => (.done, l.close)

end Vocoder
