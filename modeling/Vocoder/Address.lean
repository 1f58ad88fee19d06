import Vocoder.Fault
import Vocoder.Text.Decimal
import Vocoder.Text.Fields

/-!
# Device addresses

An address names a serial device by its path, or a vocoder server as `ip:port`; it is taken for a
server as soon as it holds a colon. `ServerAddress.parse` accepts exactly four decimal octets without
leading zeros, a colon, and a port of four or five digits from 1024 to 65535.
-/

namespace Vocoder

/-- The network address of a vocoder server. -/
structure ServerAddress where
  a : UInt8
  b : UInt8
  c : UInt8
  d : UInt8
  port : UInt16
  deriving DecidableEq, Repr

/-- The lowest port a server may have. -/
def minServerPort : Nat := 1024

namespace ServerAddress

/-! ### Writing -/

/-- The octets in dotted decimal notation. -/
def ipChars (s : ServerAddress) : List Char :=
  Decimal.digits s.a.toNat ++ '.' :: Decimal.digits s.b.toNat ++ '.' :: Decimal.digits s.c.toNat ++
    '.' :: Decimal.digits s.d.toNat

/-- The address as `ip:port`. -/
def chars (s : ServerAddress) : List Char :=
  s.ipChars ++ ':' :: Decimal.digits s.port.toNat

/-- The address as `ip:port`. -/
def text (s : ServerAddress) : String :=
  String.ofList s.chars

/-! ### Reading -/

/-- One octet: one to three digits, no leading zero, at most 255. -/
def octet? (cs : List Char) : Option UInt8 :=
  if cs.isEmpty || 3 < cs.length || !Decimal.isNumeral cs then none
  else if 1 < cs.length && cs.head? = some '0' then none
  else if 255 < Decimal.value cs then none
  else some (UInt8.ofNat (Decimal.value cs))

/-- The text before the last colon and the text behind it. -/
def splitAtLastColon? (cs : List Char) : Option (List Char × List Char) :=
  if ':' ∈ cs then
    let port := (cs.reverse.takeWhile (· ≠ ':')).reverse
    some (cs.take (cs.length - port.length - 1), port)
  else none

/-- Why a text is no server address. -/
inductive Problem where
  | noColon
  | noIp
  | portDigits
  | portRange
  | portTooLow
  deriving DecidableEq, Repr

/-- How a problem is explained. -/
def Problem.reason : Problem → String
  | noColon => "expected ip:port"
  | noIp => "not an IPv4 address"
  | portDigits => "port must have 4 or 5 digits"
  | portRange => "port out of range"
  | portTooLow => "port below 1024"

/-- The port of its digits. -/
def portOf (cs : List Char) : Except Problem UInt16 :=
  if cs.length < 4 || 5 < cs.length || !Decimal.isNumeral cs then .error .portDigits
  else if 65535 < Decimal.value cs then .error .portRange
  else if Decimal.value cs < minServerPort then .error .portTooLow
  else .ok (UInt16.ofNat (Decimal.value cs))

/-- Read a server address; of several problems the leftmost in the text is found, a missing colon
before all. -/
def ofChars (cs : List Char) : Except Problem ServerAddress :=
  match splitAtLastColon? cs with
  | none => .error .noColon
  | some (ip, portDigits) =>
    match (fields '.' ip).map octet? with
    | [some a, some b, some c, some d] => (portOf portDigits).map (⟨a, b, c, d, ·⟩)
    | _ => .error .noIp

/-- Read a server address. -/
def parse (address : String) : Except Fault ServerAddress :=
  (ofChars address.toList).mapError fun p => .invalidAddress address p.reason

end ServerAddress

/-! ### Kinds of address -/

/-- What an address names. -/
inductive AddressKind where
  | serial
  | server
  deriving DecidableEq, Repr

/-- An address with a colon anywhere names a server, any other one a serial device. -/
def AddressKind.of (address : String) : AddressKind :=
  if ':' ∈ address.toList then .server else .serial

end Vocoder
