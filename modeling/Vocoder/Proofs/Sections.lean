import Mathlib
import Vocoder.Proofs.Numerals
import Vocoder.Proofs.Quotation

/-!
# Documents are read line by line

A document of TOML is read as the tables that it says.

* **`reads_count`**, **`reads_flag`**, **`reads_string`** — a number, a flag and a string are read up to what may
  stand behind a value.
* **`key?_name`** — a name that needs no quotes is read as a key.
* **`lines?_row`**, **`lines?_rows`** — one line adds one setting to its table, and the lines of a table add all
  of them.
* **`lines?_tables`** — a header and its lines add a table to what was read.
* **`read?_document`** — so the entries of a document are its tables.
-/

namespace Vocoder.Toml

/-- A character of a class is none that is not of it. -/
theorem ne_of_class {p : Char → Bool} {c d : Char} (hd : p d = true) (hc : p c = false) : d ≠ c :=
  ne_of_apply_ne p fun h => Bool.false_ne_true (hc.symm.trans (h.symm.trans hd))

theorem isBlank_of_ne {c : Char} (hspace : c ≠ ' ') (htab : c ≠ '\t') : isBlank c = false := by
  rw [isBlank, decide_eq_false hspace, decide_eq_false htab]
  rfl

/-! ## Blanks -/

section Blanks

variable {b : List Char} (hb : IsBlanks b)
include hb

theorem skipBlank_blanks (cs : List Char) : skipBlank (b ++ cs) = skipBlank cs := by
  refine List.dropWhile_append_of_pos fun c hc => ?_
  rcases hb c hc with rfl | rfl
  · rfl
  · rfl

theorem skipBlank_append {c : Char} (hc : isBlank c = false) (cs : List Char) :
    skipBlank (b ++ c :: cs) = c :: cs := by
  rw [skipBlank_blanks hb, skipBlank, List.dropWhile_cons, hc]
  rfl

end Blanks

/-- What may stand behind a value on its line. -/
def isEnd (c : Char) : Bool :=
  isBlank c || c = '\n'

/-- A text begins with what may stand behind a value. -/
def Ends (rest : List Char) : Prop :=
  ∃ c more, rest = c :: more ∧ isEnd c = true

theorem isEnd_cases {c : Char} (h : isEnd c = true) : c = ' ' ∨ c = '\t' ∨ c = '\n' := by
  simpa [isEnd, isBlank, or_assoc] using h

theorem not_isDigit_of_isEnd {c : Char} (h : isEnd c = true) : c.isDigit = false := by
  rcases isEnd_cases h with rfl | rfl | rfl
  · decide
  · decide
  · decide

theorem ends_blanks {b : List Char} (hb : IsBlanks b) (later : List Char) : Ends (b ++ '\n' :: later) := by
  cases b with
  | nil => exact ⟨_, _, rfl, by decide⟩
  | cons c more =>
    refine ⟨c, more ++ '\n' :: later, rfl, ?_⟩
    rcases hb c List.mem_cons_self with rfl | rfl
    · decide
    · decide

/-! ## Numbers -/

section Numbers

variable {ds rest : List Char} (hds : ∀ c ∈ ds, c.isDigit = true) (hrest : Ends rest)
include hrest

/-- Nothing but a digit or the end comes next in a number. -/
theorem skip?_numeral (hds : ∀ c ∈ ds, c.isDigit = true) {c : Char} (hc : c.isDigit = false)
    (hend : isEnd c = false) : Date.skip? c (ds ++ rest) = none := by
  obtain ⟨d, more, rfl, hd⟩ := hrest
  cases ds with
  | nil => exact if_neg (ne_of_class hd hend)
  | cons d more => exact if_neg (ne_of_class (hds d List.mem_cons_self) hc)

theorem number?_numeral {k n : Nat} {left : List Char}
    (h : Date.number? k (ds ++ rest) = some (n, left)) : left = ds.drop k ++ rest := by
  rw [Date.number?] at h
  split at h
  · rename_i htaken
    rw [Bool.and_eq_true, decide_eq_true_eq] at htaken
    obtain ⟨hlength, hnumeral⟩ := htaken
    cases h
    -- the end is no digit, so it was not taken
    have hk : k ≤ ds.length := by
      obtain ⟨d, more, rfl, hd⟩ := hrest
      refine Nat.le_of_not_lt fun hlt => ?_
      obtain ⟨i, hi⟩ : ∃ i, k - ds.length = i + 1 := ⟨k - ds.length - 1, by omega⟩
      have hmem : d ∈ (ds ++ d :: more).take k := by
        rw [List.take_append, hi]
        simp
      have hdigit := Decimal.isNumeral_iff.mp hnumeral d hmem
      rw [not_isDigit_of_isEnd hd] at hdigit
      cases hdigit
    rw [List.drop_append_of_le_length hk]
  · cases h

include hds

theorem skip?_number? {k n : Nat} {left : List Char} {c : Char}
    (h : Date.number? k (ds ++ rest) = some (n, left)) (hc : c.isDigit = false) (hend : isEnd c = false) :
    Date.skip? c left = none := by
  rw [number?_numeral hrest h]
  exact skip?_numeral hrest (fun d hd => hds d (List.mem_of_mem_drop hd)) hc hend

/-- A number is neither a date nor a time, which go on with a dash or a colon. -/
theorem date_numeral : Date.read? (ds ++ rest) = none := by
  have hday : Date.day? (ds ++ rest) = none := by
    rw [Date.day?]
    cases hnumber : Date.number? 4 (ds ++ rest) with
    | none => rfl
    | some found =>
      have hskip := skip?_number? hds hrest hnumber (show '-'.isDigit = false by decide) (by decide)
      simp only [Option.bind_eq_bind, Option.bind_some, hskip, Option.bind_none]
  have htime : Date.time? (ds ++ rest) = none := by
    rw [Date.time?, Date.field?]
    cases hnumber : Date.number? 2 (ds ++ rest) with
    | none => rfl
    | some found =>
      have hskip := skip?_number? hds hrest hnumber (show ':'.isDigit = false by decide) (by decide)
      dsimp only
      split
      · simp only [Option.bind_eq_bind, Option.bind_some, hskip, Option.bind_none]
      · rfl
  rw [Date.read?, hday]
  exact htime

theorem moreDigits?_numeral : Numeral.moreDigits? Char.isDigit (ds ++ rest) = some (ds, rest) := by
  induction ds with
  | nil =>
    obtain ⟨c, more, rfl, hc⟩ := hrest
    have hne : c ≠ '_' := ne_of_class hc (by decide)
    rw [List.nil_append, Numeral.moreDigits?]
    · rw [not_isDigit_of_isEnd hc]
      rfl
    · intro d later h
      exact absurd h hne
    · intro h
      exact absurd h hne
  | cons d more ih =>
    obtain ⟨hd, hmore⟩ := List.forall_mem_cons.mp hds
    have hne : d ≠ '_' := ne_of_class hd (by decide)
    rw [List.cons_append, Numeral.moreDigits?, if_pos hd, ih hmore]
    · rfl
    · intro c rest h
      exact absurd h hne
    · intro h
      exact absurd h hne

end Numbers

theorem wholePart?_numeral {d : Char} {more rest : List Char} (hd : d.isDigit = true) (hzero : d ≠ '0')
    (hmore : ∀ c ∈ more, c.isDigit = true) (hrest : Ends rest) :
    Numeral.wholePart? (d :: more ++ rest) = some (d :: more, rest) := by
  rw [List.cons_append, Numeral.wholePart?]
  · rw [Numeral.digits?, if_pos hd, moreDigits?_numeral hmore hrest]
    rfl
  · intro rest h
    exact absurd (List.cons.inj h).1 hzero

theorem sign_numeral {d : Char} (hd : d.isDigit = true) (rest : List Char) :
    Numeral.sign (d :: rest) = (false, d :: rest) := by
  rw [Numeral.sign]
  all_goals
    intro more h
    exact absurd (List.cons.inj h).1 (ne_of_class hd (by decide))

theorem checked_natCast {n : Nat} (hn : n ≤ 2 ^ 63 - 1) : Numeral.checked (n : Int) = some (n : Int) := by
  have hmin : Numeral.minInteger ≤ 0 := by decide
  have hmax : Numeral.maxInteger = 2 ^ 63 - 1 := by decide
  refine if_pos ⟨by omega, ?_⟩
  rw [hmax]
  omega

/-- The whole part of a number is all of it, if neither a point nor a power of ten comes next. -/
theorem decimal?_whole {n : Nat} {ds text rest : List Char} (hn : n ≤ 2 ^ 63 - 1)
    (hwhole : Numeral.wholePart? text = some (ds, rest)) (hvalue : Decimal.value ds = n) (hrest : Ends rest) :
    Numeral.decimal? false text = some (.integer n, rest) := by
  obtain ⟨c, more, rfl, hc⟩ := hrest
  have hhead {d : Char} (hd : isEnd d = false) : (c :: more).head? ≠ some d :=
    fun h => ne_of_class hc hd (Option.some.inj h)
  rw [Numeral.decimal?, hwhole]
  split
  · rename_i h
    cases h
  · rename_i h
    obtain ⟨-, hpoint⟩ := Prod.mk.inj (Option.some.inj h)
    exact absurd (congrArg List.head? hpoint) (hhead (by decide))
  · rename_i h
    obtain ⟨hds, hleft⟩ := Prod.mk.inj (Option.some.inj h)
    rw [← hds, ← hleft, decide_eq_false (hhead (by decide)), decide_eq_false (hhead (by decide)), hvalue]
    show (Numeral.checked n).map (fun m => (Numeral.Number.integer m, c :: more)) = _
    rw [checked_natCast hn]
    rfl

/-- The digits of a number are read as the number, if it has 63 bits. -/
theorem numeral_digits {n : Nat} (hn : n ≤ 2 ^ 63 - 1) {rest : List Char} (hrest : Ends rest) :
    Numeral.read? (Decimal.digits n ++ rest) = some (.integer n, rest) := by
  have hvalue := Decimal.value_digits n
  obtain ⟨d, more, hds, hdigits⟩ := Decimal.exists_digits n
  by_cases hzero : d = '0'
  · -- a zero stands alone, and no base comes behind it
    have hone : Decimal.digits n = ['0'] := Decimal.digits_head (by rw [hds, hzero]; rfl)
    rw [hone] at hvalue ⊢
    have hdecimal : Numeral.decimal? false ('0' :: rest) = some (.integer n, rest) :=
      decimal?_whole hn rfl hvalue hrest
    obtain ⟨c, later, rfl, hc⟩ := hrest
    rw [← hdecimal]
    rcases isEnd_cases hc with rfl | rfl | rfl
    · rfl
    · rfl
    · rfl
  · rw [hds] at hvalue ⊢
    obtain ⟨hd, hmore⟩ := List.forall_mem_cons.mp hdigits
    have hdecimal : Numeral.decimal? false (d :: (more ++ rest)) = some (.integer n, rest) :=
      decimal?_whole hn (wholePart?_numeral hd hzero hmore hrest) hvalue hrest
    -- what else a number may begin with is a letter or a sign, and a zero is taken apart above
    rw [List.cons_append, Numeral.read?, sign_numeral hd]
    · split
      · rename_i h
        exact absurd (List.cons.inj (Prod.mk.inj h).2).1 (ne_of_class hd (by decide))
      · rename_i h
        exact absurd (List.cons.inj (Prod.mk.inj h).2).1 (ne_of_class hd (by decide))
      · rename_i h
        obtain ⟨hsign, htext⟩ := Prod.mk.inj h
        rw [← hsign, ← htext]
        exact hdecimal
    all_goals
      intro rest h
      exact absurd (List.cons.inj h).1 hzero

/-! ## Values -/

/-- What a setting says, as a value of a document. -/
def Scalar.value : Scalar → Value
  | .text s => .string s
  | .flag b => .boolean b
  | .count n => .integer n

/-- A text is read as a value, without a blank in front of it and up to what may stand behind it. -/
structure Reads (text : List Char) (v : Value) : Prop where
  begins : ∃ c more, text = c :: more ∧ isBlank c = false
  value : ∀ {rest}, Ends rest → value? (nestingLimit - 1) (text ++ rest) = some (v, rest)

theorem Reads.of_scalar {c : Char} {more : List Char} {v : Value} (hblank : isBlank c = false)
    (harray : c ≠ '[') (htable : c ≠ '{')
    (h : ∀ {rest}, Ends rest → scalar? (c :: more ++ rest) = some (v, rest)) : Reads (c :: more) v where
  begins := ⟨c, more, rfl, hblank⟩
  value {rest} hrest := by
    rw [← h hrest, List.cons_append, nestingLimit, value?]
    · intro rest heq
      exact absurd (List.cons.inj heq).1 harray
    · intro rest heq
      exact absurd (List.cons.inj heq).1 htable

theorem reads_count {n : Nat} (hn : n ≤ 2 ^ 63 - 1) : Reads (Decimal.digits n) (.integer n) := by
  have hnumber {rest : List Char} (hrest : Ends rest) := numeral_digits hn hrest
  obtain ⟨d, more, hds, hdigits⟩ := Decimal.exists_digits n
  have hdate {rest : List Char} (hrest : Ends rest) := date_numeral hdigits hrest
  rw [hds] at hnumber ⊢
  have hne {c : Char} (hc : c.isDigit = false) : d ≠ c := ne_of_class (hdigits d List.mem_cons_self) hc
  have hblank : isBlank d = false := isBlank_of_ne (hne (by decide)) (hne (by decide))
  refine Reads.of_scalar hblank (hne (by decide)) (hne (by decide)) fun {rest} hrest => ?_
  rw [List.cons_append, scalar?]
  · rw [← List.cons_append, hdate hrest, hnumber hrest]
  all_goals
    intro rest h
    exact absurd (List.cons.inj h).1 (hne (by decide))

theorem reads_flag : Reads ['t', 'r', 'u', 'e'] (.boolean true) ∧
    Reads ['f', 'a', 'l', 's', 'e'] (.boolean false) :=
  ⟨.of_scalar (by decide) (by decide) (by decide) fun _ => rfl,
    .of_scalar (by decide) (by decide) (by decide) fun _ => rfl⟩

/-- Whatever the form of a string, it begins with a quote. -/
theorem begins_isString {t s : List Char} (h : IsString t s) :
    ∃ q more, t = q :: more ∧ (q = '"' ∨ q = '\'') := by
  cases h with
  | basic => exact ⟨_, _, rfl, .inl rfl⟩
  | literal => exact ⟨_, _, rfl, .inr rfl⟩
  | basicLines => exact ⟨_, _, rfl, .inl rfl⟩
  | literalLines => exact ⟨_, _, rfl, .inr rfl⟩

theorem reads_string {t s : List Char} (h : IsString t s) : Reads t (.string (String.ofList s)) := by
  have hread {rest : List Char} (hrest : Ends rest) : Quoted.read? (t ++ rest) = some (s, rest) := by
    obtain ⟨c, more, rfl, hc⟩ := hrest
    have hhead {d : Char} (hd : isEnd d = false) : (c :: more).head? ≠ some d :=
      fun h => ne_of_class hc hd (Option.some.inj h)
    exact Quoted.read?_string (hhead (by decide)) (hhead (by decide)) h
  obtain ⟨q, more, rfl, hq⟩ := begins_isString h
  have hscalar (rest : List Char) : scalar? (q :: more ++ rest) =
      (Quoted.read? (q :: more ++ rest)).map fun found => (.string (String.ofList found.1), found.2) := by
    obtain rfl | rfl := hq
    · rfl
    · rfl
  have hvalue {rest : List Char} (hrest : Ends rest) :
      scalar? (q :: more ++ rest) = some (.string (String.ofList s), rest) := by
    rw [hscalar, hread hrest, Option.map_some]
  obtain rfl | rfl := hq
  · exact Reads.of_scalar (by decide) (by decide) (by decide) hvalue
  · exact Reads.of_scalar (by decide) (by decide) (by decide) hvalue

theorem reads_value {text : List Char} {v : Scalar} (h : IsValue text v) : Reads text v.value := by
  cases h with
  | text h => exact reads_string h
  | yes => exact reads_flag.1
  | no => exact reads_flag.2
  | count h => exact reads_count h

/-! ## Keys -/

theorem exists_of_isName {name : String} (h : IsName name) :
    ∃ c more, name.toList = c :: more ∧ isKeyChar c = true ∧ ∀ d ∈ name.toList, isKeyChar d = true := by
  have hall : ∀ d ∈ name.toList, isKeyChar d = true := List.all_eq_true.mp h.2
  obtain ⟨c, more, heq⟩ := List.exists_cons_of_ne_nil h.1
  exact ⟨c, more, heq, hall c (by rw [heq]; exact List.mem_cons_self), hall⟩

theorem isBlank_key {c : Char} (hc : isKeyChar c = true) : isBlank c = false :=
  isBlank_of_ne (ne_of_class hc (by decide)) (ne_of_class hc (by decide))

theorem newline?_key {c : Char} (hc : isKeyChar c = true) (rest : List Char) :
    newline? (c :: rest) = none := by
  rw [newline?]
  all_goals
    intro more h
    exact absurd (List.cons.inj h).1 (ne_of_class hc (by decide))

/-- A name among blanks is read as a key of one part, up to what stands behind the blanks. -/
theorem key?_name {name : String} (hname : IsName name) {before behind rest : List Char} {c : Char}
    (hbefore : IsBlanks before) (hbehind : IsBlanks behind) (hkey : isKeyChar c = false)
    (hblank : isBlank c = false) (hdot : c ≠ '.') :
    key? (before ++ (name.toList ++ (behind ++ c :: rest))) = some (⟨[], name⟩, c :: rest) := by
  obtain ⟨d, more, hcons, hd, hall⟩ := exists_of_isName hname
  have hend : (behind ++ c :: rest).takeWhile isKeyChar = [] ∧
      (behind ++ c :: rest).dropWhile isKeyChar = behind ++ c :: rest := by
    cases behind with
    | nil =>
      rw [List.nil_append, List.takeWhile_cons, List.dropWhile_cons, hkey]
      exact ⟨rfl, rfl⟩
    | cons b later =>
      have hb : isKeyChar b = false := by
        rcases hbehind b List.mem_cons_self with rfl | rfl
        · decide
        · decide
      rw [List.cons_append, List.takeWhile_cons, List.dropWhile_cons, hb]
      exact ⟨rfl, rfl⟩
  have hpart : keyPart? (d :: (more ++ (behind ++ c :: rest))) = some (name, behind ++ c :: rest) := by
    rw [keyPart?]
    · have htake : (name.toList ++ (behind ++ c :: rest)).takeWhile isKeyChar = name.toList := by
        rw [List.takeWhile_append_of_pos hall, hend.1, List.append_nil]
      have hdrop : (name.toList ++ (behind ++ c :: rest)).dropWhile isKeyChar = behind ++ c :: rest := by
        rw [List.dropWhile_append_of_pos hall, hend.2]
      rw [← List.cons_append, ← hcons, htake, hdrop, String.ofList_toList, hcons]
      rfl
    all_goals
      intro rest h
      exact absurd (List.cons.inj h).1 (ne_of_class hd (by decide))
  have hparts : keyParts? (before ++ (name.toList ++ (behind ++ c :: rest))) = some ([name], c :: rest) := by
    rw [keyParts?, hcons, List.cons_append, skipBlank_append hbefore (isBlank_key hd), hpart]
    dsimp only
    rw [skipBlank_append hbehind hblank]
    split
    · rename_i h
      exact absurd (List.cons.inj h).1 hdot
    · rfl
  rw [key?, hparts]
  rfl

/-! ## Lines -/

theorem lines?_of_line? {r r' : Reading} {c : Char} {cs start rest : List Char}
    (hblank : skipBlank cs = c :: start) (hline : newline? (c :: start) = none)
    (h : r.line? (c :: start) = some (r', rest)) (hlt : rest.length < cs.length) :
    r.lines? cs = r'.lines? rest := by
  rw [Reading.lines?, hblank]
  dsimp only
  rw [hline]
  dsimp only
  rw [h]
  exact if_pos hlt

theorem lines?_blank {b : List Char} (hb : IsBlanks b) (r : Reading) (later : List Char) :
    r.lines? (b ++ '\n' :: later) = r.lines? later := by
  rw [Reading.lines?, skipBlank_append hb (by decide)]
  refine if_pos ?_
  rw [List.length_append, List.length_cons]
  omega

theorem lines?_nil (r : Reading) : r.lines? [] = some r.root := by
  rw [Reading.lines?]
  rfl

theorem lineEnd?_blanks {b : List Char} (hb : IsBlanks b) (later : List Char) :
    lineEnd? (b ++ '\n' :: later) = some later := by
  rw [lineEnd?, skipBlank_append hb (by decide)]
  rfl

/-- A header opens its table. -/
theorem lines?_header {r : Reading} {name : String} (hname : IsName name)
    (hnew : r.root.lookup name = none) {before left right behind : List Char} (hbefore : IsBlanks before)
    (hleft : IsBlanks left) (hright : IsBlanks right) (hbehind : IsBlanks behind) (later : List Char) :
    r.lines? (before ++ '[' :: (left ++ (name.toList ++ (right ++ ']' :: (behind ++ '\n' :: later))))) =
      Reading.lines? ⟨r.root ++ [(name, .table .header [])], [name]⟩ later := by
  have hkey : key? (left ++ (name.toList ++ (right ++ ']' :: (behind ++ '\n' :: later)))) =
      some (⟨[], name⟩, ']' :: (behind ++ '\n' :: later)) :=
    key?_name hname hleft hright (by decide) (by decide) (by decide)
  have hheader : headerKey? [']'] (left ++ (name.toList ++ (right ++ ']' :: (behind ++ '\n' :: later)))) =
      some (⟨[], name⟩, later) := by
    rw [headerKey?, hkey]
    show (lineEnd? (behind ++ '\n' :: later)).map _ = _
    rw [lineEnd?_blanks hbehind]
    rfl
  have hopen : r.root.within (Entries.openTable name) [] = some (r.root ++ [(name, .table .header [])]) := by
    rw [Entries.within, Entries.openTable, hnew]
  refine lines?_of_line? (skipBlank_append hbefore (by decide) _) rfl ?_ (by simp; omega)
  rw [Reading.line?]
  · rw [hheader]
    show (r.root.within (Entries.openTable name) []).bind _ = _
    rw [hopen]
    rfl
  · -- only one bracket opens the header
    intro rest h
    obtain ⟨d, more, hcons, hd, -⟩ := exists_of_isName hname
    cases left with
    | nil =>
      rw [List.nil_append, hcons] at h
      exact absurd (List.cons.inj h).1 (ne_of_class hd (by decide))
    | cons b later =>
      rcases hleft b List.mem_cons_self with rfl | rfl
      · exact absurd (List.cons.inj h).1 (by decide)
      · exact absurd (List.cons.inj h).1 (by decide)

theorem replace_last {done : Entries} {table : String} (hdone : done.lookup table = none) (v w : Value) :
    Entries.replace table w (done ++ [(table, v)]) = done ++ [(table, w)] := by
  have hkeep : Entries.replace table w done = done := by
    rw [Entries.replace, List.map_congr_left (g := id), List.map_id]
    intro e he
    have hne := List.lookup_eq_none_iff.mp hdone e he
    exact if_neg fun h => by rw [h] at hne; simp at hne
  rw [Entries.replace, List.map_append]
  exact congr (congrArg _ hkeep) (by simp)

theorem within_last {done es es' : Entries} {table : String} {f : Entries → Option Entries}
    (hdone : done.lookup table = none) (hf : f es = some es') :
    Entries.within f [table] (done ++ [(table, .table .header es)]) =
      some (done ++ [(table, .table .header es')]) := by
  rw [Entries.within, List.lookup_append, hdone, Option.none_or, List.lookup_cons_self]
  dsimp only
  rw [Entries.within, hf, Option.map_some, replace_last hdone]

/-- A line of a table adds its setting, if the table does not have it. -/
theorem lines?_row {done es : Entries} {table name : String} {text : List Char} {v : Value}
    (hdone : done.lookup table = none) (hname : IsName name) (hnew : es.lookup name = none)
    (hv : Reads text v) {before left right behind : List Char} (hbefore : IsBlanks before)
    (hleft : IsBlanks left) (hright : IsBlanks right) (hbehind : IsBlanks behind) (later : List Char) :
    Reading.lines? ⟨done ++ [(table, .table .header es)], [table]⟩
        (before ++ (name.toList ++ (left ++ '=' :: (right ++ (text ++ (behind ++ '\n' :: later)))))) =
      Reading.lines? ⟨done ++ [(table, .table .header (es ++ [(name, v)]))], [table]⟩ later := by
  have hkey (rest : List Char) : key? ([] ++ (name.toList ++ (left ++ '=' :: rest))) =
      some (⟨[], name⟩, '=' :: rest) :=
    key?_name hname nofun hleft (by decide) (by decide) (by decide)
  obtain ⟨c, inner, rfl, hc⟩ := hv.begins
  have hstart : skipBlank (right ++ (c :: inner ++ (behind ++ '\n' :: later))) =
      c :: inner ++ (behind ++ '\n' :: later) := skipBlank_append hright hc _
  have hpair : keyValue? (value? (nestingLimit - 1))
      (name.toList ++ (left ++ '=' :: (right ++ (c :: inner ++ (behind ++ '\n' :: later))))) =
        some (⟨[], name⟩, v, '\n' :: later) := by
    rw [keyValue?, ← List.nil_append (name.toList ++ _), hkey]
    show (value? (nestingLimit - 1)
      (skipBlank (right ++ (c :: inner ++ (behind ++ '\n' :: later))))).map _ = _
    rw [hstart, hv.value (ends_blanks hbehind later), Option.map_some]
    dsimp only
    rw [skipBlank_append hbehind (by decide)]
  have hadd : Entries.addEntry name v [] es = some (es ++ [(name, v)]) := by
    rw [Entries.addEntry, hnew]
  obtain ⟨d, more, hcons, hd, -⟩ := exists_of_isName hname
  rw [hcons, List.cons_append] at hpair ⊢
  -- a line that begins with a name is neither a comment nor a header
  refine lines?_of_line? (skipBlank_append hbefore (isBlank_key hd) _) (newline?_key hd _) ?_ (by simp; omega)
  rw [Reading.line?]
  · rw [hpair]
    show (Entries.within (Entries.addEntry name v []) [table] _).bind _ = _
    rw [within_last hdone hadd]
    rfl
  all_goals
    intro rest h
    exact absurd (List.cons.inj h).1 (ne_of_class hd (by decide))

/-! ## Tables -/

/-- What the settings of a table say. -/
def tableEntries (rows : Table) : Entries :=
  rows.map fun s => (s.1, s.2.value)

/-- What the tables of a record say. -/
def recordEntries (r : Record) : Entries :=
  r.map fun t => (t.1, .table .header (tableEntries t.2))

/-- The lines of a table add its settings one after the other. -/
theorem lines?_rows {text : List Char} {rows : Table} (h : IsRows text rows) {done : Entries} {table : String}
    (hdone : done.lookup table = none) (later : List Char) : ∀ {es : Entries},
      (rows.map Prod.fst).Nodup → (∀ s ∈ rows, es.lookup s.1 = none) →
      Reading.lines? ⟨done ++ [(table, .table .header es)], [table]⟩ (text ++ later) =
        Reading.lines? ⟨done ++ [(table, .table .header (es ++ tableEntries rows))], [table]⟩ later := by
  -- the table never has a setting that is still to come
  induction h with
  | nil =>
    intro es _ _
    rw [tableEntries, List.map_nil, List.append_nil]
    rfl
  | blank hb _ ih =>
    intro es hapart hnew
    rw [List.append_assoc, List.cons_append, lines?_blank hb]
    exact ih hapart hnew
  | @row before left right behind text t name v rows hname hvalue hbefore hleft hright hbehind _ ih =>
    intro es hapart hnew
    obtain ⟨hnot, hapart⟩ := List.nodup_cons.mp hapart
    obtain ⟨hfirst, hothers⟩ := List.forall_mem_cons.mp hnew
    have hstill : ∀ s ∈ rows, (es ++ [(name, v.value)]).lookup s.1 = none := by
      intro s hs
      have hne : s.1 ≠ name := fun h => hnot (List.mem_map.mpr ⟨s, hs, h⟩)
      rw [List.lookup_append, hothers s hs, Option.none_or, List.lookup_cons, beq_false_of_ne hne]
      rfl
    have htext : before ++ (name.toList ++ (left ++ '=' :: (right ++ (text ++ (behind ++ '\n' :: t))))) ++ later =
        before ++ (name.toList ++ (left ++ '=' :: (right ++ (text ++ (behind ++ '\n' :: (t ++ later)))))) := by
      simp
    rw [htext, lines?_row hdone hname hfirst (reads_value hvalue) hbefore hleft hright hbehind,
      ih hapart hstill]
    rw [tableEntries, tableEntries, List.map_cons, List.append_assoc]
    rfl

/-- A header with its lines adds one table. -/
theorem lines?_tables {text : List Char} {r : Record} (h : IsTables text r) : ∀ {reading : Reading},
    (∀ t ∈ r, reading.root.lookup t.1 = none) →
      reading.lines? text = some (reading.root ++ recordEntries r) := by
  induction h with
  | nil =>
    intro reading _
    rw [lines?_nil, recordEntries, List.map_nil, List.append_nil]
  | @table before left right behind t later name rows r hname hbefore hleft hright hbehind hrows hapart hnew _ ih =>
    intro reading hlookup
    obtain ⟨hfirst, hothers⟩ := List.forall_mem_cons.mp hlookup
    have hstill : ∀ t ∈ r,
        (reading.root ++ [(name, Value.table .header (tableEntries rows))]).lookup t.1 = none := by
      intro t ht
      have hne : t.1 ≠ name := fun h => hnew (List.mem_map.mpr ⟨t, ht, h⟩)
      rw [List.lookup_append, hothers t ht, Option.none_or, List.lookup_cons, beq_false_of_ne hne]
      rfl
    rw [lines?_header hname hfirst hbefore hleft hright hbehind,
      lines?_rows hrows hfirst later hapart fun _ _ => rfl, List.nil_append, ih hstill]
    rw [recordEntries, recordEntries, List.map_cons, List.append_assoc]
    rfl

theorem lines?_lead {lead : List Char} {rows : Table} (h : IsRows lead rows) (hrows : rows = [])
    (r : Reading) (later : List Char) : r.lines? (lead ++ later) = r.lines? later := by
  induction h with
  | nil => rfl
  | blank hb _ ih =>
    rw [List.append_assoc, List.cons_append, lines?_blank hb]
    exact ih hrows
  | row => cases hrows

/-- A document does not begin with what may stand in front of one. -/
theorem head?_document {text : List Char} {r : Record} (h : IsDocument text r) :
    text.head? ≠ some byteOrderMark := by
  have hhead {b more : List Char} {c : Char} (hb : IsBlanks b) (hc : c ≠ byteOrderMark) :
      (b ++ c :: more).head? ≠ some byteOrderMark := by
    cases b with
    | nil => exact fun h => hc (Option.some.inj h)
    | cons d later =>
      rcases hb d List.mem_cons_self with rfl | rfl
      · exact fun h => absurd (Option.some.inj h) (by decide)
      · exact fun h => absurd (Option.some.inj h) (by decide)
  obtain ⟨lead, tables, rfl, hlead, htables⟩ := h
  generalize hrows : ([] : Table) = rows at hlead
  cases hlead with
  | nil =>
    cases htables with
    | nil => exact nofun
    | table _ hbefore => exact hhead hbefore (by decide)
  | blank hb _ =>
    rw [List.append_assoc, List.cons_append]
    exact hhead hb (by decide)
  | row => cases hrows

/-- **A document is read as the tables that it says.** -/
theorem read?_document {text : List Char} {r : Record} (h : IsDocument text r) :
    Toml.read? text = some (recordEntries r) := by
  have hmark := head?_document h
  obtain ⟨lead, tables, rfl, hlead, htables⟩ := h
  have hlines : Reading.lines? {} (lead ++ tables) = some (recordEntries r) :=
    (lines?_lead hlead rfl {} tables).trans (lines?_tables htables fun _ _ => rfl)
  cases htext : lead ++ tables with
  | nil =>
    rw [htext, lines?_nil] at hlines
    exact hlines
  | cons c rest =>
    rw [htext] at hmark hlines
    rw [Toml.read?, if_neg fun hc => hmark (congrArg some hc), hlines]

end Vocoder.Toml
