/-!
# Packets

Everything that travels between host and chip is a packet: the start marker, the length of the
payload in two bytes (high byte first), a type byte, and the payload. A control payload starts with
a subtype; a voice or audio payload starts with a field identifier and a count, and its data follows.

`packet` builds one, `LengthField.decode` reads the length back and `Response.classify` says what a
received packet is.
-/

namespace Vocoder

/-- The byte every packet starts with; a reader resynchronises on it. -/
def startMarker : UInt8 := 0x61

/-- Marker, two length bytes and the type. -/
def headerLength : Nat := 4

/-- Field identifier and count, ahead of the data of a voice or audio payload. -/
def dataOffset : Nat := 2

/-- The largest packet a reader accepts, header included. -/
def maxPacketLength : Nat := 400

/-! ### Type, subtype and field bytes -/

def controlType : UInt8 := 0x00
def voiceType : UInt8 := 0x01
def audioType : UInt8 := 0x02

def rateSubtype : UInt8 := 0x0a
def gainSubtype : UInt8 := 0x4b
def productSubtype : UInt8 := 0x30

def channelField : UInt8 := 0x01
def speechField : UInt8 := 0x00

/-! ### The length field -/

/-- A number below `65536` as two bytes, high byte first. -/
def bigEndian16 (n : Nat) : List UInt8 :=
  [UInt8.ofNat (n / 256), UInt8.ofNat (n % 256)]

/-- The packet of type `kind` that carries `payload`. -/
def packet (kind : UInt8) (payload : List UInt8) : List UInt8 :=
  startMarker :: bigEndian16 payload.length ++ kind :: payload

/-- How the two length bytes are read. -/
inductive LengthField where
  /-- All sixteen bits count. -/
  | full
  /-- Only the low twelve bits count; the high four are noise on old firmware. -/
  | masked
  deriving DecidableEq, Repr, Inhabited

namespace LengthField

/-- The payload length that two length bytes declare. -/
def decode : LengthField → UInt8 → UInt8 → Nat
  | full, hi, lo => hi.toNat * 256 + lo.toNat
  | masked, hi, lo => hi.toNat % 16 * 256 + lo.toNat

/-- The length of the whole packet that starts with `bytes`, header included. -/
def total (field : LengthField) (bytes : List UInt8) : Nat :=
  headerLength + field.decode (bytes.getD 1 0) (bytes.getD 2 0)

/-- The name of a reading of the length field. -/
def name : LengthField → String
  | full => "full"
  | masked => "masked"

/-- The reading of a name. -/
def ofName? : String → Option LengthField
  | "full" => some full
  | "masked" => some masked
  | _ => none

end LengthField

theorem length_packet (kind : UInt8) (payload : List UInt8) :
    (packet kind payload).length = headerLength + payload.length := by
  simp [packet, bigEndian16, headerLength]
  omega

/-! ### Responses -/

/-- What a received packet is. -/
inductive Response where
  /-- A decoded audio block. -/
  | audio
  /-- An encoded voice frame. -/
  | voice
  /-- The product identification, a name behind the subtype. -/
  | productId
  /-- A rate change is acknowledged. -/
  | rate
  /-- A gain change is acknowledged. -/
  | gain
  /-- Anything else that is framed as a packet. -/
  | unknown
  deriving DecidableEq, Repr

namespace Response

/-- Every response. -/
def all : List Response := [audio, voice, productId, rate, gain, unknown]

/-- How a response is called in a message. -/
def name : Response → String
  | audio => "audio"
  | voice => "voice"
  | productId => "product id"
  | rate => "rate"
  | gain => "gain"
  | unknown => "unknown"

/-- The control response of a subtype, which is absent from an empty payload. -/
def ofSubtype (subtype : Option UInt8) : Response :=
  if subtype = some productSubtype then productId
  else if subtype = some rateSubtype then rate
  else if subtype = some gainSubtype then gain
  else unknown

/-- The response of a type byte and the payload behind it. -/
def ofParts (kind : UInt8) (payload : List UInt8) : Response :=
  if kind = audioType then audio
  else if kind = voiceType then voice
  else if kind = controlType then ofSubtype payload.head?
  else unknown

/-- What a whole packet is: its fourth byte is the type and the payload follows. -/
def classify (bytes : List UInt8) : Response :=
  ofParts (bytes.getD 3 0) (bytes.drop headerLength)

theorem classify_packet (kind : UInt8) (payload : List UInt8) :
    classify (packet kind payload) = ofParts kind payload := by
  simp [classify, packet, bigEndian16, headerLength]

end Response

end Vocoder
