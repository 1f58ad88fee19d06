/-!
# UTF-8

Text as bytes and bytes as text. `next` takes one character from the front of some bytes, or finds
that no character starts there and drops the longest run of bytes that could have begun one (at least
one byte). Strict decoding refuses text with such a run, lossy decoding puts one replacement
character in its place.
-/

namespace Vocoder.Utf8

/-- The bytes of a text. -/
def encode (s : List Char) : List UInt8 :=
  s.flatMap String.utf8EncodeChar

/-- Whether a byte may follow another inside a character. -/
def isContinuation (b : UInt8) : Bool :=
  b.toNat / 64 = 2

/-- How many bytes a character has that starts with `lead`: two, three or four; one for every other
byte, which either is a character of its own or starts none. -/
def width (lead : UInt8) : Nat :=
  if 0xc2 ≤ lead.toNat && lead.toNat < 0xe0 then 2
  else if 0xe0 ≤ lead.toNat && lead.toNat < 0xf0 then 3
  else if 0xf0 ≤ lead.toNat && lead.toNat < 0xf5 then 4
  else 1

/-- Whether `second` may follow `lead`. After four of the lead bytes only a part of the continuation
bytes may come: this excludes overlong forms, surrogates and numbers above the last code point. -/
def isSecond (lead second : UInt8) : Bool :=
  isContinuation second &&
    (if lead.toNat = 0xe0 then 0xa0 ≤ second.toNat
    else if lead.toNat = 0xed then second.toNat < 0xa0
    else if lead.toNat = 0xf0 then 0x90 ≤ second.toNat
    else if lead.toNat = 0xf4 then second.toNat < 0x90
    else true)

/-- The bits that a continuation byte adds to those before it. -/
def extend (n : Nat) (b : UInt8) : Nat :=
  n * 64 + b.toNat % 64

/-- The character at the front of `lead :: rest`, if there is one, and what follows. Without a
character, what follows starts behind the longest run of bytes that begins one. -/
def next (lead : UInt8) (rest : List UInt8) : Option Char × List UInt8 :=
  match width lead, rest with
  | 2, b :: r =>
    if isSecond lead b then (some (Char.ofNat (extend (lead.toNat % 32) b)), r) else (none, rest)
  | 3, b :: r =>
    if isSecond lead b then
      match r with
      | c :: r' =>
        if isContinuation c then
          (some (Char.ofNat (extend (extend (lead.toNat % 16) b) c)), r')
        else (none, r)
      | [] => (none, [])
    else (none, rest)
  | 4, b :: r =>
    if isSecond lead b then
      match r with
      | c :: r' =>
        if isContinuation c then
          match r' with
          | d :: r'' =>
            if isContinuation d then
              (some (Char.ofNat (extend (extend (extend (lead.toNat % 8) b) c) d)), r'')
            else (none, r')
          | [] => (none, [])
        else (none, r)
      | [] => (none, [])
    else (none, rest)
  | _, _ => (if lead.toNat < 0x80 then some (Char.ofNat lead.toNat) else none, rest)

theorem length_next_le (lead : UInt8) (rest : List UInt8) :
    (next lead rest).2.length ≤ rest.length := by
  unfold next
  repeat' split
  all_goals simp
  all_goals omega

/-- The characters of some bytes, with `none` for each run of bytes that is no character. -/
def pieces : List UInt8 → List (Option Char)
  | [] => []
  | b :: rest => (next b rest).1 :: pieces (next b rest).2
termination_by bytes => bytes.length
decreasing_by
  have := length_next_le b rest
  simp
  omega

/-- The text of some bytes, if they are nothing but characters. -/
def decode? (bytes : List UInt8) : Option (List Char) :=
  (pieces bytes).mapM id

/-- What stands for bytes that are no character. -/
def replacement : Char := '\uFFFD'

/-- The text of some bytes, with one replacement character for each run that is no character. -/
def decodeLossy (bytes : List UInt8) : List Char :=
  (pieces bytes).map (·.getD replacement)

theorem pieces_cons (b : UInt8) (rest : List UInt8) :
    pieces (b :: rest) = (next b rest).1 :: pieces (next b rest).2 := by
  rw [pieces]

end Vocoder.Utf8
