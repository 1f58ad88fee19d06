import Vocoder.Line

/-!
# The serial line

A byte stream both ways over a serial device at one of the speeds such a device can be set to. There
is nothing to prepare: a read takes what has arrived. When the far end hangs up, reads and writes fail.
-/

namespace Vocoder

/-- The speeds of a serial device. -/
inductive LineSpeed where
  | b1200
  | b2400
  | b4800
  | b9600
  | b19200
  | b38400
  | b76800
  | b115200
  | b230400
  | b460800
  deriving DecidableEq, Repr

namespace LineSpeed

/-- Every speed, slowest first. -/
def all : List LineSpeed :=
  [b1200, b2400, b4800, b9600, b19200, b38400, b76800, b115200, b230400, b460800]

/-- Bits per second. -/
def baud : LineSpeed → Nat
  | b1200 => 1200
  | b2400 => 2400
  | b4800 => 4800
  | b9600 => 9600
  | b19200 => 19200
  | b38400 => 38400
  | b76800 => 76800
  | b115200 => 115200
  | b230400 => 230400
  | b460800 => 460800

/-- The name of a speed. -/
def name (s : LineSpeed) : String :=
  "B" ++ toString s.baud

/-- The speed of a vocoder device: half of the full speed if asked for. -/
def ofHalfSpeed (halfSpeed : Bool) : LineSpeed :=
  if halfSpeed then b230400 else b460800

end LineSpeed

/-- The state of a serial line. -/
structure SerialLine where
  speed : LineSpeed := .b460800
  isOpen : Bool := true
  /-- The far end has gone away. -/
  hungUp : Bool := false
  /-- Bytes that have arrived. -/
  incoming : List UInt8 := []
  /-- Bytes that have reached the far end. -/
  outgoing : List UInt8 := []
  deriving DecidableEq, Repr

namespace SerialLine

/-- Let bytes arrive from the far end. -/
def deliver (l : SerialLine) (bytes : List UInt8) : SerialLine :=
  { l with incoming := l.incoming ++ bytes }

/-- Let the far end go away. -/
def hangUp (l : SerialLine) : SerialLine :=
  { l with hungUp := true }

/-- The operating system's text for a device whose far end has gone. -/
def gone : String := "Input/output error (os error 5)"

/-- Take what has arrived. -/
def read (l : SerialLine) (n : Nat) : Except Fault (List UInt8) × SerialLine :=
  if !l.isOpen then (.error .closed, l)
  else if l.hungUp then (.error (.read gone), l)
  else (.ok (l.incoming.take n), { l with incoming := l.incoming.drop n })

/-- Send some bytes. -/
def write (l : SerialLine) (bytes : List UInt8) : Except Fault Nat × SerialLine :=
  if !l.isOpen then (.error .closed, l)
  else if l.hungUp then (.error (.write gone), l)
  else (.ok bytes.length, { l with outgoing := l.outgoing ++ bytes })

/-- Close the device. -/
def close (l : SerialLine) : SerialLine :=
  { l with isOpen := false }

theorem read_ok {l : SerialLine} {n : Nat} {bytes : List UInt8} {l' : SerialLine}
    (h : l.read n = (.ok bytes, l')) : l.incoming = bytes ++ l'.incoming ∧ bytes.length ≤ n := by
  simp only [read] at h
  split at h
  · simp at h
  · split at h
    · simp at h
    · obtain ⟨hb, hl⟩ := Prod.mk.inj h
      have hb := Except.ok.inj hb
      subst hb hl
      exact ⟨(List.take_append_drop ..).symm, List.length_take_le ..⟩

instance : Line SerialLine where
  prepare l := (.ok (), l)
  read := read
  write := write
  close := close
  readable := incoming
  read_ok := read_ok

end SerialLine

end Vocoder
