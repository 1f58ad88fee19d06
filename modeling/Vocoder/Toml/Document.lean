import Vocoder.Toml.Date
import Vocoder.Toml.Numeral
import Vocoder.Toml.Quoted
import Vocoder.Toml.Value

/-!
# Reading a document

A document is a sequence of lines `key = value`, headers that say which table the lines after them
belong to, comments and blank lines. Values nest less than `nestingLimit` deep, and a dotted key has
fewer parts than that.
-/

namespace Vocoder.Toml

/-- Values nested so deep, and keys of so many parts, are refused. -/
def nestingLimit : Nat := 80

/-! ### Keys -/

/-- A character of a key without quotes. -/
def isKeyChar (c : Char) : Bool :=
  c.isAlphanum || c = '_' || c = '-'

/-- One part of a key, with quotes or without. -/
def keyPart? (cs : List Char) : Option (String × List Char) :=
  match cs with
  | '"' :: rest => (Quoted.basic? rest).map fun (s, rest) => (String.ofList s, rest)
  | '\'' :: rest => (Quoted.literal? rest).map fun (s, rest) => (String.ofList s, rest)
  | _ =>
    let s := cs.takeWhile isKeyChar
    if s.isEmpty then none else some (String.ofList s, cs.dropWhile isKeyChar)

/-- The parts of a key, with blanks around them and points between them. -/
def keyParts? (cs : List Char) : Option (List String × List Char) :=
  match keyPart? (skipBlank cs) with
  | none => none
  | some (part, rest) =>
    match skipBlank rest with
    | '.' :: rest =>
      if rest.length < cs.length then
        (keyParts? rest).map fun (parts, rest) => (part :: parts, rest)
      else none
    | rest => some ([part], rest)
termination_by cs.length

/-- A key: the tables on the way, and the key proper. -/
structure Key where
  path : List String
  name : String
  deriving DecidableEq, Repr

/-- The key of its parts, if there are not too many. -/
def Key.ofParts? (parts : List String) : Option Key :=
  if nestingLimit ≤ parts.length then none
  else parts.getLast?.map fun name => ⟨parts.dropLast, name⟩

/-- Read a key with the blanks around it, and give what follows. -/
def key? (cs : List Char) : Option (Key × List Char) :=
  match keyParts? cs with
  | none => none
  | some (parts, rest) => (Key.ofParts? parts).map fun key => (key, rest)

/-! ### Values -/

/-- A value that holds no other values. -/
def scalar? (cs : List Char) : Option (Value × List Char) :=
  match cs with
  | '"' :: _ | '\'' :: _ => (Quoted.read? cs).map fun (s, rest) => (.string (String.ofList s), rest)
  | 't' :: 'r' :: 'u' :: 'e' :: rest => some (.boolean true, rest)
  | 'f' :: 'a' :: 'l' :: 's' :: 'e' :: rest => some (.boolean false, rest)
  | _ =>
    match Date.read? cs with
    | some rest => some (.dateTime, rest)
    | none =>
      match Numeral.read? cs with
      | some (.integer n, rest) => some (.integer n, rest)
      | some (.float, rest) => some (.float, rest)
      | none => none

/-- The rest of an array, behind its bracket or a comma. -/
def items? (value? : List Char → Option (Value × List Char)) (cs : List Char) :
    Option (List Value × List Char) :=
  match skipLines cs with
  | ']' :: rest => some ([], rest)
  | start =>
    match value? start with
    | none => none
    | some (v, rest) =>
      match skipLines rest with
      | ']' :: rest => some ([v], rest)
      | ',' :: rest =>
        if rest.length < cs.length then
          (items? value? rest).map fun (vs, rest) => (v :: vs, rest)
        else none
      | _ => none
termination_by cs.length

/-- A key with its value, and what follows the value and blanks. -/
def keyValue? (value? : List Char → Option (Value × List Char)) (cs : List Char) :
    Option (Key × Value × List Char) :=
  match key? cs with
  | some (key, '=' :: rest) =>
    (value? (skipBlank rest)).map fun (v, rest) => (key, v, skipBlank rest)
  | _ => none

/-- The entries of an inline table from the next one on; no comma comes behind the last. -/
def inlineEntries? (value? : List Char → Option (Value × List Char)) (entries : Entries)
    (cs : List Char) : Option (Entries × List Char) :=
  match keyValue? value? cs with
  | none => none
  | some (key, v, rest) =>
    match entries.addEntry key.name v key.path with
    | none => none
    | some entries =>
      match rest with
      | '}' :: rest => some (entries, rest)
      | ',' :: rest =>
        if rest.length < cs.length then inlineEntries? value? entries rest else none
      | _ => none
termination_by cs.length

/-- A value that holds other values at most so many levels deep. -/
def value? : Nat → List Char → Option (Value × List Char)
  | 0, cs => scalar? cs
  | depth + 1, cs =>
    match cs with
    | '[' :: rest => (items? (value? depth) rest).map fun (vs, rest) => (.array vs, rest)
    | '{' :: rest =>
      match skipBlank rest with
      | '}' :: rest => some (.table .inline [], rest)
      | _ =>
        (inlineEntries? (value? depth) [] rest).map fun (es, rest) => (.table .inline es, rest)
    | _ => scalar? cs

/-! ### Lines -/

/-- A document that is being read: its tables, and the one that the last header named. -/
structure Reading where
  root : Entries := []
  header : List String := []

/-- Read what stands in the brackets of a header, up to so many closing brackets and the line end. -/
def headerKey? (closing : List Char) (cs : List Char) : Option (Key × List Char) :=
  match key? cs with
  | none => none
  | some (key, rest) =>
    if closing.isPrefixOf rest then
      (lineEnd? (rest.drop closing.length)).map fun rest => (key, rest)
    else none

/-- Read one line that is not blank, and give what follows. -/
def Reading.line? (r : Reading) (cs : List Char) : Option (Reading × List Char) :=
  match cs with
  | '#' :: _ => (lineEnd? cs).map fun rest => (r, rest)
  | '[' :: '[' :: rest => do
    let (key, rest) ← headerKey? [']', ']'] rest
    let root ← r.root.within (Entries.appendTable key.name) key.path
    return (⟨root, key.path ++ [key.name]⟩, rest)
  | '[' :: rest => do
    let (key, rest) ← headerKey? [']'] rest
    let root ← r.root.within (Entries.openTable key.name) key.path
    return (⟨root, key.path ++ [key.name]⟩, rest)
  | _ => do
    let (key, v, rest) ← keyValue? (value? (nestingLimit - 1)) cs
    let root ← r.root.within (Entries.addEntry key.name v key.path) r.header
    let rest ← lineEnd? rest
    return ({ r with root := root }, rest)

/-- Read the lines of a document from the next one on. -/
def Reading.lines? (r : Reading) (cs : List Char) : Option Entries :=
  match skipBlank cs with
  | [] => some r.root
  | start =>
    match newline? start with
    | some rest => if rest.length < cs.length then r.lines? rest else none
    | none =>
      match r.line? start with
      | none => none
      | some (r, rest) => if rest.length < cs.length then r.lines? rest else none
termination_by cs.length

/-- What may stand in front of a document, and says nothing. -/
def byteOrderMark : Char := '\uFEFF'

/-- The entries of a document, if it is one. -/
def read? (cs : List Char) : Option Entries :=
  match cs with
  | [] => some []
  | c :: rest => if c = byteOrderMark then Reading.lines? {} rest else Reading.lines? {} cs

end Vocoder.Toml
