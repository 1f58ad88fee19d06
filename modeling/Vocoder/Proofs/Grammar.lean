import Mathlib
import Vocoder.Toml.Library

/-!
# What a library for TOML is relied on for

The documents that are needed of TOML 1.0 are those whose tables hold strings, flags and counts. They are
described here as TOML has them, not as any library reads or writes them; and so is the form in which a
library writes such a document for people.

* **`IsString`** — the four ways to write a string: what may stand for itself, what is an escape for what,
  which line end does not count, and how many quotes may stand in a row.
* **`IsDocument`** — a document and what it says: lines with names and values, under headers.
* **`IsPretty`** — how a record is written: one setting a line, one blank line between two tables, and a string
  in one of the forms that can hold it.
* **`Library.Conforms`** — a library writes records in this form unless a count is too large for TOML, and it
  reads documents.
-/

namespace Vocoder.Toml

/-! ## Strings -/

/-- A character that is no control character, or a tab. -/
def IsOrdinary (c : Char) : Prop :=
  c = '\t' ∨ 0x20 ≤ c.toNat ∧ c.toNat ≠ 0x7f

/-- A character that may stand for itself in a string over lines, if it is not a quote. -/
def IsOrdinaryOrLine (c : Char) : Prop :=
  IsOrdinary c ∨ c = '\n'

def IsHexDigit (d : Char) (v : Nat) : Prop :=
  "0123456789ABCDEF".toList[v]? = some d ∨ "0123456789abcdef".toList[v]? = some d

/-- Hexadecimal digits behind a number, and the number that they make of it. -/
inductive IsHex : Nat → List Char → Nat → Prop where
  | nil {n : Nat} : IsHex n [] n
  | cons {n v m : Nat} {d : Char} {ds : List Char} (hd : IsHexDigit d v) (h : IsHex (16 * n + v) ds m) :
    IsHex n (d :: ds) m

/-- What stands behind a backslash for a character. -/
inductive IsEscape : List Char → Char → Prop where
  | letter {d c : Char}
    (h : (d, c) ∈ [('b', '\x08'), ('t', '\t'), ('n', '\n'), ('f', '\x0c'), ('r', '\r'), ('"', '"'),
      ('\\', '\\')]) : IsEscape [d] c
  | short {ds : List Char} {c : Char} (hlength : ds.length = 4) (h : IsHex 0 ds c.toNat) :
    IsEscape ('u' :: ds) c
  | long {ds : List Char} {c : Char} (hlength : ds.length = 8) (h : IsHex 0 ds c.toNat) :
    IsEscape ('U' :: ds) c

/-- One character of a basic string: it stands for itself, or there is an escape for it. -/
inductive IsBasicItem (Own : Char → Prop) : List Char → Char → Prop where
  | own {c : Char} (h : Own c) (hquote : c ≠ '"') (hbackslash : c ≠ '\\') : IsBasicItem Own [c] c
  | escape {e : List Char} {c : Char} (h : IsEscape e c) : IsBasicItem Own ('\\' :: e) c

/-- One character of a literal string. -/
inductive IsLiteralItem (Own : Char → Prop) : List Char → Char → Prop where
  | own {c : Char} (h : Own c) (hquote : c ≠ '\'') : IsLiteralItem Own [c] c

/-- The inside of a string on one line. -/
inductive IsChars (Item : List Char → Char → Prop) : List Char → List Char → Prop where
  | nil : IsChars Item [] []
  | cons {e t s : List Char} {c : Char} (h : Item e c) (hlater : IsChars Item t s) :
    IsChars Item (e ++ t) (c :: s)

/-- The inside of a string over lines. Quotes may stand for themselves, but no more than two in a row; the
number is how many of them stand right before. -/
inductive IsLines (quote : Char) (Item : List Char → Char → Prop) :
    Nat → List Char → List Char → Prop where
  | nil {n : Nat} : IsLines quote Item n [] []
  | quote {n : Nat} {t s : List Char} (hn : n < 2) (hlater : IsLines quote Item (n + 1) t s) :
    IsLines quote Item n (quote :: t) (quote :: s)
  | item {n : Nat} {e t s : List Char} {c : Char} (h : Item e c) (hlater : IsLines quote Item 0 t s) :
    IsLines quote Item n (e ++ t) (c :: s)

/-- What may stand between the opening quotes of a string over lines and its inside: a line end, which does not
count. Without it, the inside does not begin with a line end of its own. -/
def IsOpening (first inside : List Char) : Prop :=
  first = ['\n'] ∨ first = [] ∧ inside.head? ≠ some '\n'

/-- A string with its quotes, and the characters that it stands for. -/
inductive IsString : List Char → List Char → Prop where
  | basic {t s : List Char} (h : IsChars (IsBasicItem IsOrdinary) t s) : IsString ('"' :: (t ++ ['"'])) s
  | literal {t s : List Char} (h : IsChars (IsLiteralItem IsOrdinary) t s) :
    IsString ('\'' :: (t ++ ['\''])) s
  | basicLines {first t s : List Char} (hfirst : IsOpening first t)
    (h : IsLines '"' (IsBasicItem IsOrdinaryOrLine) 0 t s) :
    IsString (['"', '"', '"'] ++ first ++ t ++ ['"', '"', '"']) s
  | literalLines {first t s : List Char} (hfirst : IsOpening first t)
    (h : IsLines '\'' (IsLiteralItem IsOrdinaryOrLine) 0 t s) :
    IsString (['\'', '\'', '\''] ++ first ++ t ++ ['\'', '\'', '\'']) s

/-! ## Documents -/

def IsBlanks (cs : List Char) : Prop :=
  ∀ c ∈ cs, c = ' ' ∨ c = '\t'

/-- A name that needs no quotes. -/
def IsName (name : String) : Prop :=
  name.toList ≠ [] ∧ (name.toList.all fun c => c.isAlphanum || c = '_' || c = '-') = true

instance (name : String) : Decidable (IsName name) :=
  inferInstanceAs (Decidable (_ ∧ _))

inductive IsValue : List Char → Scalar → Prop where
  | text {t s : List Char} (h : IsString t s) : IsValue t (.text (String.ofList s))
  | yes : IsValue ['t', 'r', 'u', 'e'] (.flag true)
  | no : IsValue ['f', 'a', 'l', 's', 'e'] (.flag false)
  | count {n : Nat} (h : n ≤ 2 ^ 63 - 1) : IsValue (Decimal.digits n) (.count n)

/-- The lines of a table: blank ones, and those with a name and a value. -/
inductive IsRows : List Char → Table → Prop where
  | nil : IsRows [] []
  | blank {b t : List Char} {rows : Table} (hb : IsBlanks b) (hlater : IsRows t rows) :
    IsRows (b ++ '\n' :: t) rows
  | row {before left right behind text t : List Char} {name : String} {v : Scalar} {rows : Table}
    (hname : IsName name) (hvalue : IsValue text v) (hbefore : IsBlanks before) (hleft : IsBlanks left)
    (hright : IsBlanks right) (hbehind : IsBlanks behind) (hlater : IsRows t rows) :
    IsRows (before ++ (name.toList ++ (left ++ '=' :: (right ++ (text ++ (behind ++ '\n' :: t))))))
      ((name, v) :: rows)

/-- Tables with their headers. No table comes twice, and no setting of a table. -/
inductive IsTables : List Char → Record → Prop where
  | nil : IsTables [] []
  | table {before left right behind t later : List Char} {name : String} {rows : Table} {r : Record}
    (hname : IsName name) (hbefore : IsBlanks before) (hleft : IsBlanks left) (hright : IsBlanks right)
    (hbehind : IsBlanks behind) (hrows : IsRows t rows) (hapart : (rows.map Prod.fst).Nodup)
    (hnew : name ∉ r.map Prod.fst) (hlater : IsTables later r) :
    IsTables
      (before ++ '[' :: (left ++ (name.toList ++ (right ++ ']' :: (behind ++ '\n' :: (t ++ later))))))
      ((name, rows) :: r)

/-- A document of tables, with what it says. -/
def IsDocument (text : List Char) (r : Record) : Prop :=
  ∃ lead tables, text = lead ++ tables ∧ IsRows lead [] ∧ IsTables tables r

/-! ## The pretty form -/

/-- The strings that a form can hold: where there are no escapes, what does not stand for itself cannot be
written, nor can three quotes in a row. -/
def Quoted.Form.Holds (s : List Char) : Quoted.Form → Prop
  | .basic | .basicLines => True
  | .literal => ∀ c ∈ s, IsOrdinary c ∧ c ≠ '\''
  | .literalLines => (∀ c ∈ s, IsOrdinaryOrLine c) ∧ Quoted.longestRun '\'' s ≤ 2

inductive IsPrettyValue : List Char → Scalar → Prop where
  | text {s : String} (form : Quoted.Form) (h : form.Holds s.toList) :
    IsPrettyValue (form.write s.toList) (.text s)
  | yes : IsPrettyValue ['t', 'r', 'u', 'e'] (.flag true)
  | no : IsPrettyValue ['f', 'a', 'l', 's', 'e'] (.flag false)
  | count (n : Nat) : IsPrettyValue (Decimal.digits n) (.count n)

inductive IsPrettyRows : List Char → Table → Prop where
  | nil : IsPrettyRows [] []
  | cons {text t : List Char} {name : String} {v : Scalar} {rows : Table} (hvalue : IsPrettyValue text v)
    (hlater : IsPrettyRows t rows) :
    IsPrettyRows (name.toList ++ [' ', '=', ' '] ++ text ++ '\n' :: t) ((name, v) :: rows)

/-- Records that are written for people. -/
inductive IsPretty : List Char → Record → Prop where
  | nil : IsPretty [] []
  | last {t : List Char} {name : String} {rows : Table} (hrows : IsPrettyRows t rows) :
    IsPretty ('[' :: name.toList ++ [']', '\n'] ++ t) [(name, rows)]
  | cons {t later : List Char} {name : String} {rows : Table} {next : String × Table} {r : Record}
    (hrows : IsPrettyRows t rows) (hlater : IsPretty later (next :: r)) :
    IsPretty ('[' :: name.toList ++ [']', '\n'] ++ t ++ '\n' :: later) ((name, rows) :: next :: r)

/-! ## Libraries -/

def Kind.Fits : Kind → Scalar → Prop
  | .text, .text _ => True
  | .flag, .flag _ => True
  | .count bits, .count n => n < 2 ^ bits
  | .choice names, .text s => s ∈ names
  | _, _ => False

/-- The known settings of a record are of their kinds. -/
def Fits (shape : Shape) (r : Record) : Prop :=
  ∀ known ∈ shape, ∀ table, r.lookup known.1 = some table →
    ∀ setting ∈ known.2, ∀ v, table.lookup setting.1 = some v → setting.2.Fits v

/-- The known settings of a table. -/
def knownSettings (settings : List (String × Kind)) (table : Table) : Table :=
  settings.filterMap fun setting => (table.lookup setting.1).map (setting.1, ·)

/-- The known tables and settings of a record. -/
def known (shape : Shape) (r : Record) : Record :=
  shape.filterMap fun known => (r.lookup known.1).map fun table => (known.1, knownSettings known.2 table)

/-- Tables and settings have names of their own, which need no quotes. -/
structure WellNamed (r : Record) : Prop where
  apart : (r.map Prod.fst).Nodup
  tables : ∀ t ∈ r, IsName t.1 ∧ (t.2.map Prod.fst).Nodup ∧ ∀ s ∈ t.2, IsName s.1

/-- What is relied on of a library. Of what it reads and writes only TOML 1.0 and the pretty form are named; that
the one is the inverse of the other is not among it. -/
structure Library.Conforms (toml : Library) : Prop where
  /-- A record is refused just if a count has more than 63 bits. -/
  writable : ∀ {r : Record}, WellNamed r →
    (toml.write? r = none ↔ ∃ t ∈ r, ∃ s ∈ t.2, ∃ n, s.2 = .count n ∧ 2 ^ 63 - 1 < n)
  /-- What is written is in the pretty form. -/
  pretty : ∀ {r : Record} {text : List Char}, WellNamed r → toml.write? r = some text → IsPretty text r
  /-- A document whose known settings are of their kinds is read as these settings. -/
  reads : ∀ {shape : Shape} {r : Record} {text : List Char}, IsDocument text r → Fits shape r →
    toml.read? shape text = .ok (known shape r)

end Vocoder.Toml
