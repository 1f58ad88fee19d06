import Vocoder.Address
import Vocoder.Device
import Vocoder.Line.Bench

/-!
# Links

One type for all the lines a session can be given, and how an address is opened. A datagram line needs
only a well-formed server address; whether the server can be reached shows later, when something is
sent. A serial path opens a device only if the host has one of that name.
-/

namespace Vocoder

/-- The lines a session can be tried on. -/
inductive Link where
  | bench (l : BenchLine)
  /-- A datagram line with nobody at its far end. -/
  | datagram (l : DatagramLine)
  | datagramDevice (d : DatagramDevice)
  | serialDevice (d : SerialDevice)
  deriving DecidableEq, Repr

namespace Link

/-- Put the line that an operation leaves back into its place. -/
def put {α : Type} {L : Type} (wrap : L → Link) : α × L → α × Link
  | (a, l) => (a, wrap l)

def prepare : Link → Except Fault Unit × Link
  | bench l => put bench (Line.prepare l)
  | datagram l => put datagram (Line.prepare l)
  | datagramDevice d => put datagramDevice (Line.prepare d)
  | serialDevice d => put serialDevice (Line.prepare d)

def read : Link → Nat → Except Fault (List UInt8) × Link
  | bench l, n => put bench (Line.read l n)
  | datagram l, n => put datagram (Line.read l n)
  | datagramDevice d, n => put datagramDevice (Line.read d n)
  | serialDevice d, n => put serialDevice (Line.read d n)

def write : Link → List UInt8 → Except Fault Nat × Link
  | bench l, bytes => put bench (Line.write l bytes)
  | datagram l, bytes => put datagram (Line.write l bytes)
  | datagramDevice d, bytes => put datagramDevice (Line.write d bytes)
  | serialDevice d, bytes => put serialDevice (Line.write d bytes)

def close : Link → Link
  | bench l => bench (Line.close l)
  | datagram l => datagram (Line.close l)
  | datagramDevice d => datagramDevice (Line.close d)
  | serialDevice d => serialDevice (Line.close d)

def readable : Link → List UInt8
  | bench l => Line.readable l
  | datagram l => Line.readable l
  | datagramDevice d => Line.readable d
  | serialDevice d => Line.readable d

/-- Whether the line has been closed. -/
def isClosed : Link → Bool
  | bench l => l.isClosed
  | datagram l => !l.isOpen
  | datagramDevice d => !d.line.isOpen
  | serialDevice d => !d.line.isOpen

/-- How many bytes can still come over a line, as long as nobody puts more there. -/
def supply : Link → Nat
  | bench l => l.incoming.length + l.replies.flatten.length
  | datagram l => l.supply
  | datagramDevice d => d.line.supply + d.script.size
  | serialDevice d => d.line.incoming.length + d.script.size

/-- The requests a scripted device has received. -/
def requests? : Link → Option (List (List UInt8))
  | bench _ | datagram _ => none
  | datagramDevice d => some d.script.requests
  | serialDevice d => some d.script.requests

theorem read_ok {l : Link} {n : Nat} {bytes : List UInt8} {l' : Link}
    (h : l.read n = (.ok bytes, l')) : l.readable = bytes ++ l'.readable ∧ bytes.length ≤ n := by
  cases l <;>
  · obtain ⟨hr, hl⟩ := Prod.mk.inj h
    subst hl
    exact Line.read_ok (Prod.ext hr rfl)

instance : Line Link where
  prepare := prepare
  read := read
  write := write
  close := close
  readable := readable
  read_ok := read_ok

end Link

/-- What of the world outside the driver can be reached by an address. -/
structure Host where
  /-- Whether there is a route to any server. -/
  route : Route := .up
  /-- The script of the server at an address, if one listens there. -/
  server? : ServerAddress → Option Script := fun _ => none
  /-- The serial device of a path, if there is one. -/
  serialDevice? : String → Option SerialDevice := fun _ => none

/-- How the operating system names a missing file. -/
def Host.noSuchFile : String := "No such file or directory"

/-- Open the line an address names. The speed matters only to a serial device. -/
def Link.ofAddress (host : Host) (address : String) (speed : LineSpeed) : Except Fault Link :=
  match AddressKind.of address with
  | .server =>
    (ServerAddress.parse address).map fun server =>
      match host.server? server with
      | none => .datagram { route := host.route }
      | some script => .datagramDevice { line := { route := host.route }, script := script }
  | .serial =>
    match host.serialDevice? address with
    | none => .error (.serialOpen address Host.noSuchFile)
    | some d => .ok (.serialDevice { d with line := { d.line with speed := speed } })

end Vocoder
