/-!
# TOML values

What a TOML document says. A table knows how it came to be, because that decides who may still add to
it: an inline table is complete, a table that a header names may not be named again, and so on. The
three ways to add are `addEntry` for a line `key = value`, `openTable` for a header and `appendTable`
for a header of an array of tables; each of them gives up where TOML forbids the addition.
-/

namespace Vocoder.Toml

/-- How a table came to be. -/
inductive TableForm where
  /-- Between braces. -/
  | inline
  /-- Named by a header. -/
  | header
  /-- On the way to a table that a header names. -/
  | implied
  /-- On the way to a value that a dotted key names. -/
  | dotted
  deriving DecidableEq, Repr

/-- A value of a document. No setting is a floating-point number or a date, so these are not kept. -/
inductive Value where
  | string (s : String)
  | integer (n : Int)
  | float
  | boolean (b : Bool)
  | dateTime
  | array (items : List Value)
  | table (form : TableForm) (entries : List (String × Value))
  /-- An array of tables, each named by a header. -/
  | tables (elements : List (List (String × Value)))

/-- Whether a value is a table or an array that holds nothing. -/
def Value.holdsNothing : Value → Bool
  | table _ [] | array [] | tables [] => true
  | _ => false

/-- The entries of a table, in any order; no key comes twice. -/
abbrev Entries := List (String × Value)

namespace Entries

/-- Put a value in the place of the one under a key. -/
def replace (key : String) (v : Value) (entries : Entries) : Entries :=
  entries.map fun e => if e.1 = key then (key, v) else e

/-- Add a value under a dotted key. Tables on the way are made as needed; those that are there must not
have been completed, and the last of them must itself have been made by a dotted key. -/
def addEntry (key : String) (v : Value) : List String → Entries → Option Entries
  | [], entries =>
    match entries.lookup key with
    | none => some (entries ++ [(key, v)])
    | some _ => none
  | k :: path, entries =>
    match entries.lookup k with
    | none => (addEntry key v path []).map fun inner => entries ++ [(k, .table .dotted inner)]
    | some (.table .dotted inner) =>
      (addEntry key v path inner).map fun inner => entries.replace k (.table .dotted inner)
    | some (.table .implied inner) =>
      if path.isEmpty then none
      else (addEntry key v path inner).map fun inner => entries.replace k (.table .implied inner)
    | some (.tables elements) =>
      match elements.getLast? with
      | none => none
      | some last =>
        if path.isEmpty then none
        else
          (addEntry key v path last).map fun last =>
            entries.replace k (.tables (elements.dropLast ++ [last]))
    | some _ => none

/-- Do something to the table at a path. Tables on the way are made as needed; an array of tables on
the way stands for its last table. -/
def within (f : Entries → Option Entries) : List String → Entries → Option Entries
  | [], entries => f entries
  | k :: path, entries =>
    match entries.lookup k with
    | none => (within f path []).map fun inner => entries ++ [(k, .table .implied inner)]
    | some (.table .inline _) => none
    | some (.table form inner) =>
      (within f path inner).map fun inner => entries.replace k (.table form inner)
    | some (.tables elements) =>
      match elements.getLast? with
      | none => none
      | some last =>
        (within f path last).map fun last =>
          entries.replace k (.tables (elements.dropLast ++ [last]))
    | some _ => none

/-- Name a table by a header. It may be there only because tables inside it were named before. -/
def openTable (key : String) (entries : Entries) : Option Entries :=
  match entries.lookup key with
  | none => some (entries ++ [(key, .table .header [])])
  | some (.table .implied inner) => some (entries.replace key (.table .header inner))
  | some _ => none

/-- Add a table to an array of tables, which starts with the first of them. -/
def appendTable (key : String) (entries : Entries) : Option Entries :=
  match entries.lookup key with
  | none => some (entries ++ [(key, .tables [[]])])
  | some (.tables elements) => some (entries.replace key (.tables (elements ++ [[]])))
  | some _ => none

end Entries

end Vocoder.Toml
