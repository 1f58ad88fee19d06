import Vocoder.Line.Datagram
import Vocoder.Line.Serial

/-!
# Steps on a wire

What can happen on a serial or a datagram line, seen from both of its ends: the far end sends or goes
away, and the host prepares, reads, writes and closes.
-/

namespace Vocoder

/-- One step on a line with a far end. -/
inductive WireStep where
  /-- The far end sends. -/
  | deliver (bytes : List UInt8)
  /-- The far end goes away. -/
  | hangUp
  | prepare
  | read (n : Nat)
  | write (bytes : List UInt8)
  | close
  deriving DecidableEq, Repr

/-- What a step comes to. -/
inductive WireOutcome where
  | done
  | prepared
  /-- These bytes were read. -/
  | got (bytes : List UInt8)
  /-- So many bytes were accepted, and these reached the far end. -/
  | accepted (n : Nat) (received : List UInt8)
  | failed (f : Fault)
  deriving DecidableEq, Repr

/-- Carry out a step on a serial line. -/
def SerialLine.step (l : SerialLine) : WireStep → WireOutcome × SerialLine
  | .deliver bytes => (.done, l.deliver bytes)
  | .hangUp => (.done, l.hangUp)
  | .prepare => (.prepared, l)
  | .read n =>
    match l.read n with
    | (.ok bytes, l') => (.got bytes, l')
    | (.error f, l') => (.failed f, l')
  | .write bytes =>
    match l.write bytes with
    | (.ok n, l') => (.accepted n (l'.outgoing.drop l.outgoing.length), l')
    | (.error f, l') => (.failed f, l')
  | .close => (.done, l.close)

/-- Carry out a step on a datagram line. The far end cannot send without a route, and has nothing to
hang up. -/
def DatagramLine.step? (l : DatagramLine) : WireStep → Option (WireOutcome × DatagramLine)
  | .deliver message => (l.deliver? message).map fun l' => (.done, l')
  | .hangUp => none
  | .prepare =>
    some (match l.prepare with
      | (.ok (), l') => (.prepared, l')
      | (.error f, l') => (.failed f, l'))
  | .read n =>
    some (match l.read n with
      | (.ok bytes, l') => (.got bytes, l')
      | (.error f, l') => (.failed f, l'))
  | .write message =>
    some (match l.write message with
      | (.ok n, l') => (.accepted n (l'.outbox.drop l.outbox.length).flatten, l')
      | (.error f, l') => (.failed f, l'))
  | .close => some (.done, l.close)

/-- Carry out steps on a serial line. -/
def SerialLine.run (l : SerialLine) : List WireStep → List WireOutcome
  | [] => []
  | s :: later =>
    match l.step s with
    | (outcome, l') => outcome :: l'.run later

/-- Carry out steps on a datagram line, if all of them can be. -/
def DatagramLine.run? (l : DatagramLine) : List WireStep → Option (List WireOutcome)
  | [] => some []
  | s :: later =>
    match l.step? s with
    | none => none
    | some (outcome, l') => (l'.run? later).map (outcome :: ·)

end Vocoder
