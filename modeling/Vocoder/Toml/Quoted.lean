import Vocoder.Toml.Blank

/-!
# Quoted strings

The four ways to write a string in TOML. A basic string stands between double quotes and has escapes, a
literal string stands between single quotes and has none; both also come in a form with three quotes
on each side, which may run over several lines, does not count a line end right behind the opening
quotes, and may hold up to two of its quotes in a row.

`read?` reads all four forms. `write` chooses the first of them that needs no escapes, in the order
basic, literal, basic over lines, literal over lines, and falls back to escapes.
-/

namespace Vocoder.Toml.Quoted

/-! ### Escapes -/

/-- The value of a hexadecimal digit. -/
def hexValue? (c : Char) : Option Nat :=
  if c.isDigit then some (c.toNat - 0x30)
  else if 'a' ≤ c ∧ c ≤ 'f' then some (c.toNat - 0x61 + 10)
  else if 'A' ≤ c ∧ c ≤ 'F' then some (c.toNat - 0x41 + 10)
  else none

/-- The number of exactly so many hexadecimal digits, added to the digits before, and what follows. -/
def hexNumber? : Nat → Nat → List Char → Option (Nat × List Char)
  | 0, n, rest => some (n, rest)
  | _ + 1, _, [] => none
  | k + 1, n, c :: rest =>
    match hexValue? c with
    | none => none
    | some d => hexNumber? k (16 * n + d) rest

/-- The character of a number of so many hexadecimal digits. -/
def codePoint? (digits : Nat) (cs : List Char) : Option (Char × List Char) :=
  match hexNumber? digits 0 cs with
  | none => none
  | some (n, rest) => if n.isValidChar then some (Char.ofNat n, rest) else none

/-- The character that an escape stands for, behind its backslash. -/
def escape? : List Char → Option (Char × List Char)
  | 'b' :: rest => some ('\x08', rest)
  | 't' :: rest => some ('\t', rest)
  | 'n' :: rest => some ('\n', rest)
  | 'f' :: rest => some ('\x0c', rest)
  | 'r' :: rest => some ('\r', rest)
  | '"' :: rest => some ('"', rest)
  | '\\' :: rest => some ('\\', rest)
  | 'u' :: rest => codePoint? 4 rest
  | 'U' :: rest => codePoint? 8 rest
  | _ => none

theorem length_hexNumber?_le {k n m : Nat} {cs rest : List Char}
    (h : hexNumber? k n cs = some (m, rest)) : rest.length ≤ cs.length := by
  fun_induction hexNumber? k n cs with
  | case1 => simp_all
  | case2 => simp at h
  | case3 => simp at h
  | case4 k n c cs d _ ih =>
    have := ih h
    simp
    omega

theorem length_codePoint?_le {k : Nat} {c : Char} {cs rest : List Char}
    (h : codePoint? k cs = some (c, rest)) : rest.length ≤ cs.length := by
  unfold codePoint? at h
  split at h
  · simp at h
  · next heq =>
    split at h
    · obtain ⟨_, rfl⟩ := Prod.mk.inj (Option.some.inj h)
      exact length_hexNumber?_le heq
    · simp at h

theorem length_escape?_le {c : Char} {cs rest : List Char} (h : escape? cs = some (c, rest)) :
    rest.length ≤ cs.length := by
  unfold escape? at h
  split at h
  case h_8 | h_9 =>
    have := length_codePoint?_le h
    simp
    omega
  case h_10 => simp at h
  all_goals
    obtain ⟨_, rfl⟩ := Prod.mk.inj (Option.some.inj h)
    simp

/-! ### Reading -/

/-- Put a character in front of what was read behind it. -/
def push (c : Char) : List Char × List Char → List Char × List Char
  | (s, rest) => (c :: s, rest)

-- `h` is used by `decreasing_by` only, which the linter does not see.
set_option linter.unusedVariables false in
/-- The rest of a basic string, up to its closing quote. -/
def basic? (cs : List Char) : Option (List Char × List Char) :=
  match cs with
  | [] => none
  | '"' :: rest => some ([], rest)
  | '\\' :: rest =>
    match h : escape? rest with
    | none => none
    | some (c, rest') => (basic? rest').map (push c)
  | c :: rest => if isPlain c then (basic? rest).map (push c) else none
termination_by cs.length
decreasing_by
  · have := length_escape?_le h
    simp
    omega
  · simp

/-- The rest of a literal string, up to its closing quote. -/
def literal? : List Char → Option (List Char × List Char)
  | [] => none
  | '\'' :: rest => some ([], rest)
  | c :: rest => if isPlain c then (literal? rest).map (push c) else none

/-- The text behind a backslash at the end of a line: the next character that is neither blank nor a
line end. -/
def continuation? (cs : List Char) : Option (List Char) :=
  (newline? (skipBlank cs)).map skipBlankLines

theorem length_continuation?_le {cs rest : List Char} (h : continuation? cs = some rest) :
    rest.length ≤ cs.length := by
  obtain ⟨r, hr, rfl⟩ := Option.map_eq_some_iff.1 h
  have := length_newline?_lt hr
  have := length_skipBlank_le cs
  have := length_skipBlankLines_le r
  omega

/-- How many times a quote is repeated at the front of a text. -/
def run (quote : Char) (cs : List Char) : Nat :=
  (cs.takeWhile (· = quote)).length

/-- The end of a string with three quotes on each side, at a run of at least three quotes: up to two of
them belong to the string. -/
def close (quote : Char) (cs : List Char) : List Char × List Char :=
  (List.replicate (min (run quote cs) 5 - 3) quote, cs.drop (min (run quote cs) 5))

-- `h` is used by `decreasing_by` only, which the linter does not see.
set_option linter.unusedVariables false in
/-- The rest of a basic string over lines, up to its closing quotes. -/
def basicLines? (cs : List Char) : Option (List Char × List Char) :=
  if 3 ≤ run '"' cs then some (close '"' cs)
  else
    match cs with
    | [] => none
    | '\n' :: rest => (basicLines? rest).map (push '\n')
    | '\r' :: '\n' :: rest => (basicLines? rest).map (push '\n')
    | '\\' :: rest =>
      match h : continuation? rest with
      | some rest' => basicLines? rest'
      | none =>
        match h : escape? rest with
        | none => none
        | some (c, rest') => (basicLines? rest').map (push c)
    | c :: rest => if isPlain c then (basicLines? rest).map (push c) else none
termination_by cs.length
decreasing_by
  · exact Nat.lt_succ_self _
  · exact Nat.lt_succ_of_lt (Nat.lt_succ_self _)
  · have := length_continuation?_le h
    simp
    omega
  · have := length_escape?_le h
    simp
    omega
  · simp

/-- The rest of a literal string over lines, up to its closing quotes. -/
def literalLines? (cs : List Char) : Option (List Char × List Char) :=
  if 3 ≤ run '\'' cs then some (close '\'' cs)
  else
    match cs with
    | [] => none
    | '\n' :: rest => (literalLines? rest).map (push '\n')
    | '\r' :: '\n' :: rest => (literalLines? rest).map (push '\n')
    | c :: rest => if isPlain c then (literalLines? rest).map (push c) else none

/-- A text without the line end it may start with. -/
def skipFirstNewline (cs : List Char) : List Char :=
  (newline? cs).getD cs

/-- Read a string in any of the four forms, and give what follows. -/
def read? : List Char → Option (List Char × List Char)
  | '"' :: '"' :: '"' :: rest => basicLines? (skipFirstNewline rest)
  | '"' :: rest => basic? rest
  | '\'' :: '\'' :: '\'' :: rest => literalLines? (skipFirstNewline rest)
  | '\'' :: rest => literal? rest
  | _ => none

/-! ### Writing -/

/-- The forms of a string. -/
inductive Form where
  | basic
  | literal
  | basicLines
  | literalLines
  deriving DecidableEq, Repr

/-- A control character that needs an escape in every form: not a tab, which basic strings escape and
literal ones hold, nor a line feed. -/
def isControl (c : Char) : Bool :=
  (c.toNat < 0x20 || c.toNat = 0x7f) && c ≠ '\t' && c ≠ '\n'

/-- The longest run of a quote in a text. -/
def longestRun (quote : Char) : List Char → Nat
  | [] => 0
  | c :: rest => max (run quote (c :: rest)) (longestRun quote rest)

/-- The form a string is written in. -/
def formOf (s : List Char) : Form :=
  if s.any isControl then if '\n' ∈ s then .basicLines else .basic
  else if '\n' ∉ s ∧ '\\' ∉ s ∧ '"' ∉ s then .basic
  else if '\n' ∉ s ∧ '\'' ∉ s then .literal
  else if '\\' ∉ s ∧ longestRun '"' s ≤ 2 then .basicLines
  else if longestRun '\'' s ≤ 2 then .literalLines
  else if '\n' ∈ s then .basicLines
  else .basic

/-- A digit of a hexadecimal number. -/
def hexDigit (n : Nat) : Char :=
  if n < 10 then Char.ofNat (0x30 + n) else Char.ofNat (0x41 + (n - 10))

/-- The escape of a control character or a backslash; every other character stands for itself. -/
def escapeChar (c : Char) : List Char :=
  if c = '\x08' then ['\\', 'b']
  else if c = '\t' then ['\\', 't']
  else if c = '\n' then ['\\', 'n']
  else if c = '\x0c' then ['\\', 'f']
  else if c = '\r' then ['\\', 'r']
  else if c = '\\' then ['\\', '\\']
  else if isControl c then ['\\', 'u', '0', '0', hexDigit (c.toNat / 16), hexDigit (c.toNat % 16)]
  else [c]

/-- The inside of a basic string. -/
def basicText (s : List Char) : List Char :=
  s.flatMap fun c => if c = '"' then ['\\', '"'] else escapeChar c

/-- The inside of a basic string over lines: line feeds stand for themselves, and so do quotes, but
every third of a run. `quotes` is how many stand for themselves right before. -/
def basicLinesText (quotes : Nat) : List Char → List Char
  | [] => []
  | c :: rest =>
    if c = '"' then
      if quotes = 2 then '\\' :: '"' :: basicLinesText 0 rest
      else '"' :: basicLinesText (quotes + 1) rest
    else if c = '\n' then '\n' :: basicLinesText 0 rest
    else escapeChar c ++ basicLinesText 0 rest

/-- The line end behind opening quotes, which a string that holds one gets. -/
def firstNewline (s : List Char) : List Char :=
  if '\n' ∈ s then ['\n'] else []

/-- Write a string in a form. -/
def Form.write (s : List Char) : Form → List Char
  | basic => '"' :: basicText s ++ ['"']
  | literal => '\'' :: s ++ ['\'']
  | basicLines =>
    ['"', '"', '"'] ++ firstNewline s ++ basicLinesText 0 s ++ ['"', '"', '"']
  | literalLines => ['\'', '\'', '\''] ++ firstNewline s ++ s ++ ['\'', '\'', '\'']

/-- Write a string in the form that suits it. -/
def write (s : List Char) : List Char :=
  (formOf s).write s

end Vocoder.Toml.Quoted
