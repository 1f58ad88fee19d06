/-!
# Faults

Every way an operation of the driver can fail, as one cause with the facts that belong to it. The
wording of a fault is `Fault.message`; `Fault.kind` sorts faults into the five classes a caller may
want to tell apart. The text of the operating system's own error, where there is one, is carried in
the field `cause` and is shown only for failed reads and writes.
-/

namespace Vocoder

/-- The part of a packet the reader is waiting for. -/
inductive Stage where
  | startMarker
  | packetHeader
  | packetPayload
  deriving DecidableEq, Repr

/-- How a stage is called in a timeout. -/
def Stage.name : Stage → String
  | startMarker => "start marker"
  | packetHeader => "packet header"
  | packetPayload => "packet payload"

/-- The cause of a failed operation. -/
inductive Fault where
  /-- The serial device cannot be opened. -/
  | serialOpen (port cause : String)
  /-- The local UDP port cannot be bound. -/
  | udpBind (port : Nat) (cause : String)
  /-- The address is neither a device path nor a usable `ip:port`. -/
  | invalidAddress (address reason : String)
  /-- Reading from the line failed. -/
  | read (cause : String)
  /-- Writing to the line failed. -/
  | write (cause : String)
  /-- The line accepted fewer bytes than it was given. -/
  | shortWrite (written expected : Nat)
  /-- A message line had no message to deliver. -/
  | noMessage
  /-- The line was used after it had been closed. -/
  | closed
  /-- A response did not complete in time. -/
  | timeout (stage : String)
  /-- A response arrived that was not of the awaited kind. -/
  | unexpectedResponse (expected received : String)
  /-- A response could not be classified. -/
  | unrecognized
  /-- The declared length of a packet exceeds what the reader accepts. -/
  | oversized (length max : Nat)
  /-- A response is shorter than the frame it must carry. -/
  | truncated (expected actual : Nat)
  /-- The operation needs an open session. -/
  | notOpen
  /-- The chip never identified itself. -/
  | notIdentified
  /-- A rate or gain change that a frame depends on was not acknowledged. -/
  | reconfigurationFailed (what : String)
  /-- The caller's buffer cannot hold the frame. -/
  | bufferTooSmall (needed actual : Nat)
  /-- The configuration file cannot be read. -/
  | configRead (path cause : String)
  /-- A configuration value is not usable. -/
  | configValidation (field reason : String)
  /-- A file of the caller cannot be opened, read or written. -/
  | file (path cause : String)
  deriving DecidableEq, Repr

/-- The class of a fault. -/
inductive Fault.Kind where
  | transport
  | timeout
  | protocolMismatch
  | unrecognizedPacket
  | usage
  deriving DecidableEq, Repr

namespace Fault

/-- Which class a fault belongs to. -/
def kind : Fault → Kind
  | serialOpen .. | udpBind .. | invalidAddress .. | read _ | write _ | shortWrite .. | noMessage
  | closed | file .. => .transport
  | timeout _ | notIdentified => .timeout
  | unexpectedResponse .. | truncated .. | reconfigurationFailed _ => .protocolMismatch
  | unrecognized | oversized .. => .unrecognizedPacket
  | notOpen | bufferTooSmall .. | configRead .. | configValidation .. => .usage

/-- The text shown to the user. -/
def message : Fault → String
  | serialOpen port _ => s!"Cannot open serial device: {port}"
  | udpBind port _ => s!"Cannot bind UDP port {port}"
  | invalidAddress address reason => s!"Invalid device address '{address}': {reason}"
  | read cause => s!"Transport read failed: {cause}"
  | write cause => s!"Transport write failed: {cause}"
  | shortWrite written expected => s!"Short write: {written} of {expected} bytes"
  | noMessage => "No message available from transport"
  | closed => "Transport is closed"
  | timeout stage => s!"Timed out waiting for {stage}"
  | unexpectedResponse expected received => s!"Expected {expected} response, received {received}"
  | unrecognized => "Unrecognized packet"
  | oversized length max => s!"Packet length {length} exceeds maximum {max}"
  | truncated expected actual => s!"Truncated payload: {actual} of {expected} bytes"
  | notOpen => "Vocoder session is not open"
  | notIdentified => "Vocoder chip did not identify itself"
  | reconfigurationFailed what => s!"Vocoder {what} reconfiguration failed"
  | bufferTooSmall needed actual => s!"Buffer too small: need {needed} got {actual}"
  | configRead path _ => s!"Cannot read config: {path}"
  | configValidation field reason => s!"Invalid {field}: {reason}"
  | file path _ => s!"IO error: {path}"

/-- The error underneath, for the faults that wrap one. -/
def cause? : Fault → Option String
  | serialOpen _ cause | udpBind _ cause | read cause | write cause | configRead _ cause
  | file _ cause => some cause
  | _ => none

end Fault

end Vocoder
