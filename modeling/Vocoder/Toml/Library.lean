import Vocoder.Toml.Document

/-!
# The library for TOML

A configuration goes through a library twice: its settings are written as a document, and a document is
read as settings. Which tables and settings there are and what they may be is said by who uses the library;
how they are written and read is a matter of the library, and a `Library` is any two functions for that.

`Library.standard` is the one the driver is built with. It writes every table and every setting on a line of
its own. When it reads, what is not known is ignored; a table may also be written as an array of its settings
in their order, and a choice as a table whose only key is its name, with an empty table or an empty array under
it.
-/

namespace Vocoder.Toml

/-! ### Settings -/

/-- The value of a setting. -/
inductive Scalar where
  | text (s : String)
  | flag (b : Bool)
  | count (n : Nat)
  deriving DecidableEq, Repr

/-- Settings by their names. -/
abbrev Table := List (String × Scalar)

/-- Tables by their names. -/
abbrev Record := List (String × Table)

/-- What the value of a setting may be. -/
inductive Kind where
  | text
  | flag
  /-- A count of so many bits. -/
  | count (bits : Nat)
  /-- One of some names. -/
  | choice (names : List String)
  deriving DecidableEq, Repr

/-- The tables that are known, and their settings. -/
abbrev Shape := List (String × List (String × Kind))

/-- What writes and reads documents. -/
structure Library where
  /-- The document of a record, if it can be written. -/
  write? : Record → Option (List Char)
  /-- What a document says of the tables and settings that are known, or why it is refused. -/
  read? : Shape → List Char → Except String Record

namespace Library

/-! ### Writing -/

/-- A flag as a word. -/
def flag (b : Bool) : List Char :=
  if b then ['t', 'r', 'u', 'e'] else ['f', 'a', 'l', 's', 'e']

/-- A value in a document. -/
def scalarText : Scalar → List Char
  | .text s => Quoted.write s.toList
  | .flag b => flag b
  | .count n => Decimal.digits n

/-- One setting on a line of its own. -/
def settingText (name : String) (value : List Char) : List Char :=
  name.toList ++ [' ', '=', ' '] ++ value ++ ['\n']

/-- A header and the settings under it. -/
def tableText (name : String) (table : Table) : List Char :=
  '[' :: name.toList ++ [']', '\n'] ++ table.flatMap fun s => settingText s.1 (scalarText s.2)

/-- The tables of a record, with a blank line between two of them. -/
def document (r : Record) : List Char :=
  ['\n'].intercalate (r.map fun t => tableText t.1 t.2)

/-- Whether a value can be written: integers of a document have 63 bits and a sign. -/
def isWritable : Scalar → Bool
  | .count n => (n : Int) ≤ Numeral.maxInteger
  | .text _ | .flag _ => true

/-! ### Reading -/

/-- A table that is read: the value of a setting of an index and a name, if it is given. -/
abbrev Section := Nat → String → Option Value

/-- The settings of a table. A date is a table without any known setting. -/
def section? : Value → Option Section
  | .table _ entries => some fun _ name => entries.lookup name
  | .array items => some fun index _ => items[index]?
  | .tables elements => some fun index _ => elements[index]?.map (.table .header ·)
  | .dateTime => some fun _ _ => none
  | _ => none

/-- A value of a kind. The name of a choice may also be the only key of a table, over a table or an array that
holds nothing. -/
def scalar? : Kind → Value → Option Scalar
  | .text, .string s => some (.text s)
  | .flag, .boolean b => some (.flag b)
  | .count bits, .integer n => if 0 ≤ n ∧ n < twoTo bits then some (.count n.toNat) else none
  | .choice names, .string s => if s ∈ names then some (.text s) else none
  | .choice names, .table _ [(name, v)] =>
    if v.holdsNothing ∧ name ∈ names then some (.text name) else none
  | _, _ => none

/-- The known settings of a table that are given, from an index on. Nothing if a value will not do. -/
def table? (s : Section) : Nat → List (String × Kind) → Option Table
  | _, [] => some []
  | index, (name, kind) :: later =>
    match s index name with
    | none => table? s (index + 1) later
    | some v => do
      let value ← scalar? kind v
      let values ← table? s (index + 1) later
      return (name, value) :: values

/-- The known tables among some entries. -/
def record? (entries : Entries) : Shape → Option Record
  | [] => some []
  | (name, settings) :: later =>
    match entries.lookup name with
    | none => record? entries later
    | some v => do
      let s ← section? v
      let table ← table? s 0 settings
      let tables ← record? entries later
      return (name, table) :: tables

/-- Why a document is refused. -/
def refusal : String := "not a valid configuration\n"

/-- The library of the driver. -/
def standard : Library where
  write? r := if r.all fun t => t.2.all fun s => isWritable s.2 then some (document r) else none
  read? shape text :=
    match (Toml.read? text).bind (record? · shape) with
    | none => .error refusal
    | some r => .ok r

end Library

end Vocoder.Toml
