import Vocoder.Fault

/-!
# Lines

A line carries bytes to the chip and back. The reader polls it: before each packet it prepares the
line, which lets a message-oriented line take its next message, and then it reads in pieces of any
size until the packet is in. A read that finds nothing gives no bytes, and nothing else arrives while
the host waits, so an empty read means that the wait will end in a timeout.

`Line.readable` is what a line would deliver if it were read to its end now. The law `read_ok` says
that a successful read takes its bytes from the front of it; this is why looking for a start marker
comes to an end.
-/

namespace Vocoder

/-- A way to exchange bytes with the chip. Every operation gives its result and the line it leaves. -/
class Line (L : Type) where
  /-- Make the next message readable. Nothing to do on a byte stream. -/
  prepare : L → Except Fault Unit × L
  /-- Take at most so many of the bytes that are there; none if none are. -/
  read : L → Nat → Except Fault (List UInt8) × L
  /-- Send some bytes and tell how many were accepted. -/
  write : L → List UInt8 → Except Fault Nat × L
  /-- Release the line. -/
  close : L → L
  /-- The bytes a reader would get now, in order. -/
  readable : L → List UInt8
  /-- A successful read takes bytes from the front of what is readable, and no more than asked for. -/
  read_ok : ∀ {l : L} {n : Nat} {bytes : List UInt8} {l' : L},
    read l n = (.ok bytes, l') → readable l = bytes ++ readable l' ∧ bytes.length ≤ n

namespace Line

variable {L : Type} [Line L]

/-- Write all of `bytes` or fail. -/
def send (l : L) (bytes : List UInt8) : Except Fault Unit × L :=
  match write l bytes with
  | (.error f, l') => (.error f, l')
  | (.ok n, l') =>
    if n = bytes.length then (.ok (), l') else (.error (.shortWrite n bytes.length), l')

/-- A read that delivers something leaves less to read. -/
theorem readable_lt_of_read {l l' : L} {n : Nat} {b : UInt8} {bs : List UInt8}
    (h : read l n = (.ok (b :: bs), l')) : (readable l').length < (readable l).length := by
  rw [(read_ok h).1, List.length_append, List.length_cons]
  omega

end Line

end Vocoder
