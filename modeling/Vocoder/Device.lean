import Vocoder.Line.Datagram
import Vocoder.Line.Serial
import Vocoder.Packet

/-!
# Scripted devices

A far end that answers from a script: the reply to its k-th request is the k-th reply of the script,
and an empty reply, or none left, is silence. Behind a datagram line a request is a message; behind a
serial line requests are told apart by their length field. A device together with its line is itself a
line, on which a session can be tried without a chip.
-/

namespace Vocoder

/-- What a scripted far end has still to say, and what it has heard. -/
structure Script where
  /-- Replies to come, the next one first. -/
  replies : List (List UInt8) := []
  /-- Requests received, oldest first. -/
  requests : List (List UInt8) := []
  deriving DecidableEq, Repr

namespace Script

/-- How many bytes are still to come. -/
def size (s : Script) : Nat :=
  s.replies.flatten.length

/-- Take one request and give the reply to it. -/
def answer (s : Script) (request : List UInt8) : List UInt8 × Script :=
  (s.replies.head?.getD [],
    { replies := s.replies.tail, requests := s.requests ++ [request] })

/-- Take some requests and give the replies to them, one behind the other. -/
def answerAll (s : Script) : List (List UInt8) → List UInt8 × Script
  | [] => ([], s)
  | request :: later =>
    match s.answer request with
    | (reply, s₁) =>
      match s₁.answerAll later with
      | (replies, s₂) => (reply ++ replies, s₂)

end Script

/-- Cut a byte stream into packets by their length fields. What is no whole packet yet is left over. -/
def splitPackets (bytes : List UInt8) : List (List UInt8) × List UInt8 :=
  if bytes.length < headerLength then ([], bytes)
  else if bytes.length < LengthField.full.total bytes then ([], bytes)
  else
    match splitPackets (bytes.drop (LengthField.full.total bytes)) with
    | (packets, left) => (bytes.take (LengthField.full.total bytes) :: packets, left)
termination_by bytes.length
decreasing_by
  simp only [List.length_drop, LengthField.total, headerLength] at *
  omega

/-! ### Behind a datagram line -/

/-- A scripted vocoder server and the line to it. -/
structure DatagramDevice where
  line : DatagramLine := {}
  script : Script := {}
  deriving DecidableEq, Repr

namespace DatagramDevice

/-- Send a request. A reply that is not silence arrives as one message. -/
def write (d : DatagramDevice) (request : List UInt8) : Except Fault Nat × DatagramDevice :=
  match d.line.write request with
  | (.error f, l) => (.error f, { d with line := l })
  | (.ok n, l) =>
    match d.script.answer request with
    | ([], script) => (.ok n, ⟨l, script⟩)
    | (reply, script) => (.ok n, ⟨(l.deliver? reply).getD l, script⟩)

instance : Line DatagramDevice where
  prepare d := ((d.line.prepare).1, { d with line := (d.line.prepare).2 })
  read d n := ((d.line.read n).1, { d with line := (d.line.read n).2 })
  write := write
  close d := { d with line := d.line.close }
  readable d := d.line.rest
  read_ok h := by
    obtain ⟨hr, hl⟩ := Prod.mk.inj h
    subst hl
    exact DatagramLine.read_ok (Prod.ext hr rfl)

end DatagramDevice

/-! ### Behind a serial line -/

/-- A scripted vocoder dongle and the line to it. -/
structure SerialDevice where
  line : SerialLine := {}
  script : Script := {}
  /-- Bytes received that are no whole request yet. -/
  unfinished : List UInt8 := []
  deriving DecidableEq, Repr

namespace SerialDevice

/-- Send bytes. Every request they complete is answered. -/
def write (d : SerialDevice) (bytes : List UInt8) : Except Fault Nat × SerialDevice :=
  match d.line.write bytes with
  | (.error f, l) => (.error f, { d with line := l })
  | (.ok n, l) =>
    match splitPackets (d.unfinished ++ bytes) with
    | (requests, left) =>
      match d.script.answerAll requests with
      | (replies, script) => (.ok n, ⟨l.deliver replies, script, left⟩)

instance : Line SerialDevice where
  prepare d := (.ok (), d)
  read d n := ((d.line.read n).1, { d with line := (d.line.read n).2 })
  write := write
  close d := { d with line := d.line.close }
  readable d := d.line.incoming
  read_ok h := by
    obtain ⟨hr, hl⟩ := Prod.mk.inj h
    subst hl
    exact SerialLine.read_ok (Prod.ext hr rfl)

end SerialDevice

end Vocoder
