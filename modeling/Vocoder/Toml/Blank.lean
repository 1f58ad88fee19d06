/-!
# Blanks, comments and line ends

What stands between the parts of a TOML document. A line ends with a line feed, alone or behind a
carriage return; a comment runs to the end of its line and holds no control characters but tabs.
-/

namespace Vocoder.Toml

/-- A character that separates parts of a line. -/
def isBlank (c : Char) : Bool :=
  c = ' ' || c = '\t'

/-- A character that may stand in a comment or between quotes, the quote itself apart. -/
def isPlain (c : Char) : Bool :=
  c = '\t' || (0x20 ≤ c.toNat && c.toNat ≠ 0x7f)

/-- The text behind its leading blanks. -/
def skipBlank (cs : List Char) : List Char :=
  cs.dropWhile isBlank

/-- The text behind a line end. -/
def newline? : List Char → Option (List Char)
  | '\n' :: rest => some rest
  | '\r' :: '\n' :: rest => some rest
  | _ => none

/-- The text behind a comment, if it starts with one. -/
def skipComment : List Char → List Char
  | '#' :: rest => rest.dropWhile isPlain
  | cs => cs

/-- The next line, if nothing but blanks and a comment is left of this one. -/
def lineEnd? (cs : List Char) : Option (List Char) :=
  match skipComment (skipBlank cs) with
  | [] => some []
  | c :: rest => newline? (c :: rest)

/-- The text behind blanks, comments and line ends. -/
def skipLines (cs : List Char) : List Char :=
  match newline? (skipComment (skipBlank cs)) with
  | none => skipComment (skipBlank cs)
  | some rest => if rest.length < cs.length then skipLines rest else rest
termination_by cs.length

/-- The text behind blanks and line ends. -/
def skipBlankLines (cs : List Char) : List Char :=
  match newline? (skipBlank cs) with
  | none => skipBlank cs
  | some rest => if rest.length < cs.length then skipBlankLines rest else rest
termination_by cs.length

theorem length_skipBlank_le (cs : List Char) : (skipBlank cs).length ≤ cs.length :=
  (List.dropWhile_sublist isBlank).length_le

theorem length_newline?_lt {cs rest : List Char} (h : newline? cs = some rest) :
    rest.length < cs.length := by
  unfold newline? at h
  split at h
  · cases h; exact Nat.lt_succ_self _
  · cases h; exact Nat.lt_succ_of_lt (Nat.lt_succ_self _)
  · cases h

theorem length_skipBlankLines_le (cs : List Char) : (skipBlankLines cs).length ≤ cs.length := by
  fun_induction skipBlankLines cs with
  | case1 cs _ => exact length_skipBlank_le cs
  | case2 cs rest _ hlt ih => omega
  | case3 cs rest h hlt =>
    have := length_newline?_lt h
    have := length_skipBlank_le cs
    omega

end Vocoder.Toml
