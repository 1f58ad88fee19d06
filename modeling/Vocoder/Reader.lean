import Vocoder.Line
import Vocoder.Packet
import Vocoder.Text.Utf8

/-!
# The packet reader

The reader takes one packet off a line per call and says what it is. It drops bytes until it meets a
start marker, which resynchronises it after noise or a lost packet, completes the header, and then the
payload that the header declares. It keeps what it has of the packet, also when the call fails.

Time enters only through the wait after an empty read, which ends in a timeout because nothing arrives
meanwhile, and through a time budget of zero: then the first byte that is no start marker already ends
the search for one.
-/

namespace Vocoder

/-- A packet reader: how it reads lengths, how long it waits, and the packet it holds. -/
structure Reader where
  lengthField : LengthField := .full
  timeoutMs : Nat := 500
  /-- The bytes of the last packet, or of as much of it as came. -/
  held : List UInt8 := []
  deriving DecidableEq, Repr

namespace Reader

variable {L : Type} [Line L]

-- `h` is used by `decreasing_by` only, which the linter does not see.
set_option linter.unusedVariables false in
/-- Drop bytes up to and including the next start marker. -/
def seekMarker (timeoutMs : Nat) (l : L) : Except Fault Unit × L :=
  match h : Line.read l 1 with
  | (.error f, l') => (.error f, l')
  | (.ok [], l') => (.error (.timeout Stage.startMarker.name), l')
  | (.ok (b :: _), l') =>
    if b = startMarker then (.ok (), l')
    else if timeoutMs = 0 then (.error (.timeout Stage.startMarker.name), l')
    else seekMarker timeoutMs l'
termination_by (Line.readable l).length
decreasing_by exact Line.readable_lt_of_read h

section Seek

variable {timeoutMs : Nat} {l l' : L}

theorem seekMarker_of_error {f : Fault} (h : Line.read l 1 = (.error f, l')) :
    seekMarker timeoutMs l = (.error f, l') := by
  rw [seekMarker]
  split
  all_goals
    rename_i h'
    rw [h] at h'
    cases h'
  rfl

theorem seekMarker_of_nil (h : Line.read l 1 = (.ok [], l')) :
    seekMarker timeoutMs l = (.error (.timeout Stage.startMarker.name), l') := by
  rw [seekMarker]
  split
  all_goals
    rename_i h'
    rw [h] at h'
    cases h'
  rfl

theorem seekMarker_of_cons {b : UInt8} {bs : List UInt8} (h : Line.read l 1 = (.ok (b :: bs), l')) :
    seekMarker timeoutMs l =
      if b = startMarker then (.ok (), l')
      else if timeoutMs = 0 then (.error (.timeout Stage.startMarker.name), l')
      else seekMarker timeoutMs l' := by
  rw [seekMarker]
  split
  all_goals
    rename_i h'
    rw [h] at h'
    cases h'
  rfl

end Seek

/-- Read on until `target` bytes are held. -/
def gather (stage : Stage) (target : Nat) (held : List UInt8) (l : L) :
    Except Fault Unit × List UInt8 × L :=
  if held.length < target then
    match Line.read l (target - held.length) with
    | (.error f, l') => (.error f, held, l')
    | (.ok [], l') => (.error (.timeout stage.name), held, l')
    | (.ok (b :: bs), l') => gather stage target (held ++ b :: bs) l'
  else (.ok (), held, l)
termination_by target - held.length
decreasing_by
  simp
  omega

/-- Read the header behind a start marker, then the payload it declares. -/
def completePacket (lengthField : LengthField) (l : L) : Except Fault Response × List UInt8 × L :=
  match gather .packetHeader headerLength [startMarker] l with
  | (.error f, held, l₁) => (.error f, held, l₁)
  | (.ok (), held, l₁) =>
    if maxPacketLength < lengthField.total held then
      (.error (.oversized (lengthField.total held) maxPacketLength), held, l₁)
    else
      match gather .packetPayload (lengthField.total held) held l₁ with
      | (.error f, held', l₂) => (.error f, held', l₂)
      | (.ok (), held', l₂) => (.ok (Response.classify held'), held', l₂)

/-- Take one packet off the line. The packet held before is forgotten first. -/
def receive (r : Reader) (l : L) : Except Fault Response × Reader × L :=
  match Line.prepare l with
  | (.error f, l₁) => (.error f, { r with held := [] }, l₁)
  | (.ok (), l₁) =>
    match seekMarker r.timeoutMs l₁ with
    | (.error f, l₂) => (.error f, { r with held := [] }, l₂)
    | (.ok (), l₂) =>
      match completePacket r.lengthField l₂ with
      | (result, held, l₃) => (result, { r with held := held }, l₃)

/-- The payload of the packet held. -/
def payload (r : Reader) : List UInt8 :=
  r.held.drop headerLength

/-- The data of the voice or audio packet held, behind field identifier and count. -/
def data (r : Reader) : List UInt8 :=
  r.payload.drop dataOffset

/-- The name that a product identification of these bytes carries: it starts behind the subtype and
ends at the first NUL. There is none if nothing follows the subtype. -/
def nameIn? (held : List UInt8) : Option String :=
  match held.drop (headerLength + 1) with
  | [] => none
  | raw => some (String.ofList (Utf8.decodeLossy (raw.takeWhile (· ≠ 0))))

/-- The name carried by the packet held. -/
def productName? (r : Reader) : Option String :=
  nameIn? r.held

end Reader

end Vocoder
