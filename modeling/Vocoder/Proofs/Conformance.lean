import Mathlib
import Vocoder.Proofs.Sections

/-!
# The standard library conforms

* **`isDocument_of_isPretty`** — what is written in the pretty form is a document of TOML, and it says what was
  written, if no count is too large.
* **`isPretty_document`** — the standard library writes the pretty form.
* **`record?_recordEntries`** — it takes the known settings out of a document.
* **`Library.standard_conforms`** — so it is a library that can be relied on.
-/

namespace Vocoder.Toml

/-! ## The pretty form -/

/-- No count of a table has more than 63 bits. -/
def CountsFit (table : Table) : Prop :=
  ∀ s ∈ table, ∀ n, s.2 = .count n → n ≤ 2 ^ 63 - 1

theorem countsFit_iff {r : Record} :
    (∀ t ∈ r, CountsFit t.2) ↔ ¬ ∃ t ∈ r, ∃ s ∈ t.2, ∃ n, s.2 = .count n ∧ 2 ^ 63 - 1 < n := by
  constructor
  · rintro h ⟨t, ht, s, hs, n, hn, hlarge⟩
    exact absurd (h t ht s hs n hn) (Nat.not_le_of_lt hlarge)
  · intro h t ht s hs n hn
    exact Nat.le_of_not_lt fun hlarge => h ⟨t, ht, s, hs, n, hn, hlarge⟩

theorem isValue_of_isPretty {text : List Char} {v : Scalar} (h : IsPrettyValue text v)
    (hcount : ∀ n, v = .count n → n ≤ 2 ^ 63 - 1) : IsValue text v := by
  cases h with
  | @text s form h =>
    have hvalue := IsValue.text (Quoted.isString_write h)
    rwa [String.ofList_toList] at hvalue
  | yes => exact .yes
  | no => exact .no
  | count n => exact .count (hcount n rfl)

theorem isRows_of_isPretty {text : List Char} {rows : Table} (h : IsPrettyRows text rows)
    (hnames : ∀ s ∈ rows, IsName s.1) (hcounts : CountsFit rows) : IsRows text rows := by
  have hspace : IsBlanks [' '] := by simp [IsBlanks]
  induction h with
  | nil => exact .nil
  | @cons text t name v rows hvalue _ ih =>
    obtain ⟨hname, hnames⟩ := List.forall_mem_cons.mp hnames
    obtain ⟨hcount, hcounts⟩ := List.forall_mem_cons.mp hcounts
    have htext : name.toList ++ [' ', '=', ' '] ++ text ++ '\n' :: t =
        [] ++ (name.toList ++ ([' '] ++ '=' :: ([' '] ++ (text ++ ([] ++ '\n' :: t))))) := by simp
    rw [htext]
    exact .row hname (isValue_of_isPretty hvalue hcount) nofun hspace hspace nofun (ih hnames hcounts)

/-- The rows of two texts stand behind each other. -/
theorem IsRows.append {a b : List Char} {rows later : Table} (ha : IsRows a rows) (hb : IsRows b later) :
    IsRows (a ++ b) (rows ++ later) := by
  induction ha with
  | nil => exact hb
  | blank hblanks _ ih =>
    rw [List.append_assoc]
    exact .blank hblanks ih
  | @row before left right behind text t name v rows hname hvalue hbefore hleft hright hbehind _ ih =>
    have htext : before ++ (name.toList ++ (left ++ '=' :: (right ++ (text ++ (behind ++ '\n' :: t))))) ++ b =
        before ++ (name.toList ++ (left ++ '=' :: (right ++ (text ++ (behind ++ '\n' :: (t ++ b)))))) := by
      simp
    rw [htext]
    exact .row hname hvalue hbefore hleft hright hbehind ih

theorem isTables_cons {t later : List Char} {name : String} {rows : Table} {r : Record} (hname : IsName name)
    (hrows : IsRows t rows) (hapart : (rows.map Prod.fst).Nodup) (hnew : name ∉ r.map Prod.fst)
    (hlater : IsTables later r) :
    IsTables ('[' :: name.toList ++ [']', '\n'] ++ t ++ later) ((name, rows) :: r) := by
  have htext : '[' :: name.toList ++ [']', '\n'] ++ t ++ later =
      [] ++ '[' :: ([] ++ (name.toList ++ ([] ++ ']' :: ([] ++ '\n' :: (t ++ later))))) := by simp
  rw [htext]
  exact .table hname nofun nofun nofun nofun hrows hapart hnew hlater

theorem isTables_of_isPretty {text : List Char} {r : Record} (h : IsPretty text r) (hr : WellNamed r)
    (hcounts : ∀ t ∈ r, CountsFit t.2) : IsTables text r := by
  induction h with
  | nil => exact .nil
  | @last t name rows hrows =>
    obtain ⟨⟨hname, hapart, hnames⟩, -⟩ := List.forall_mem_cons.mp hr.tables
    have hfit := (List.forall_mem_cons.mp hcounts).1
    rw [← List.append_nil t, ← List.append_assoc]
    exact isTables_cons hname (isRows_of_isPretty hrows hnames hfit) hapart nofun .nil
  | @cons t later name rows next r hrows _ ih =>
    obtain ⟨⟨hname, hapart, hnames⟩, htables⟩ := List.forall_mem_cons.mp hr.tables
    obtain ⟨hfit, hfits⟩ := List.forall_mem_cons.mp hcounts
    obtain ⟨hnew, hothers⟩ := List.nodup_cons.mp hr.apart
    -- the blank line belongs to the table before it
    have hblank : IsRows ['\n'] [] := .blank (b := []) nofun .nil
    have hlines := (isRows_of_isPretty hrows hnames hfit).append hblank
    rw [List.append_nil] at hlines
    have htext : '[' :: name.toList ++ [']', '\n'] ++ t ++ '\n' :: later =
        '[' :: name.toList ++ [']', '\n'] ++ (t ++ ['\n']) ++ later := by simp
    rw [htext]
    exact isTables_cons hname hlines hapart hnew (ih ⟨hothers, htables⟩ hfits)

/-- **What is written in the pretty form is a document** that says what was written. -/
theorem isDocument_of_isPretty {text : List Char} {r : Record} (h : IsPretty text r) (hr : WellNamed r)
    (hcounts : ∀ t ∈ r, CountsFit t.2) : IsDocument text r :=
  ⟨[], text, rfl, .nil, isTables_of_isPretty h hr hcounts⟩

namespace Library

/-! ## Writing -/

theorem isPrettyValue_scalarText (v : Scalar) : IsPrettyValue (scalarText v) v := by
  cases v with
  | text s => exact .text (Quoted.formOf s.toList) (Quoted.formOf_holds s.toList)
  | flag b =>
    cases b with
    | false => exact .no
    | true => exact .yes
  | count n => exact .count n

theorem isPrettyRows_settings (rows : Table) :
    IsPrettyRows (rows.flatMap fun s => settingText s.1 (scalarText s.2)) rows := by
  induction rows with
  | nil => exact .nil
  | cons s rows ih =>
    have htext : (s :: rows).flatMap (fun s => settingText s.1 (scalarText s.2)) =
        s.1.toList ++ [' ', '=', ' '] ++ scalarText s.2 ++
          '\n' :: rows.flatMap fun s => settingText s.1 (scalarText s.2) := by
      simp [settingText]
    rw [htext]
    exact .cons (isPrettyValue_scalarText s.2) ih

/-- The standard library writes the pretty form. -/
theorem isPretty_document (r : Record) : IsPretty (document r) r := by
  induction r with
  | nil => exact .nil
  | cons t r ih =>
    have hrows := isPrettyRows_settings t.2
    cases r with
    | nil =>
      have htext : document [t] = tableText t.1 t.2 := List.append_nil _
      rw [htext]
      exact .last hrows
    | cons next r =>
      have htext : document (t :: next :: r) = tableText t.1 t.2 ++ '\n' :: document (next :: r) := rfl
      rw [htext]
      exact .cons hrows ih

theorem isWritable_iff {v : Scalar} : isWritable v = true ↔ ∀ n, v = .count n → n ≤ 2 ^ 63 - 1 := by
  have hmax : Numeral.maxInteger = 2 ^ 63 - 1 := by decide
  cases v with
  | text | flag => exact ⟨fun _ _ => nofun, fun _ => rfl⟩
  | count m =>
    rw [isWritable, decide_eq_true_iff, hmax]
    constructor
    · intro h n hn
      cases hn
      omega
    · intro h
      have hm := h m rfl
      omega

theorem writable_iff {r : Record} :
    (r.all fun t => t.2.all fun s => isWritable s.2) = true ↔ ∀ t ∈ r, CountsFit t.2 := by
  simp only [List.all_eq_true, isWritable_iff]
  rfl

/-! ## Reading -/

theorem lookup_map {α β : Type} (f : α → β) (name : String) (entries : List (String × α)) :
    (entries.map fun e => (e.1, f e.2)).lookup name = (entries.lookup name).map f := by
  induction entries with
  | nil => rfl
  | cons e later ih =>
    rw [List.map_cons, List.lookup_cons, List.lookup_cons, ih]
    cases name == e.1 with
    | false => rfl
    | true => rfl

theorem scalar?_value {kind : Kind} {v : Scalar} (h : kind.Fits v) : scalar? kind v.value = some v := by
  cases kind with
  | text =>
    cases v with
    | text s => rfl
    | flag b | count n => exact h.elim
  | flag =>
    cases v with
    | flag b => rfl
    | text s | count n => exact h.elim
  | count bits =>
    cases v with
    | count n => exact if_pos ⟨Int.natCast_nonneg n, Int.ofNat_lt.mpr h⟩
    | text s | flag b => exact h.elim
  | choice names =>
    cases v with
    | text s => exact if_pos h
    | flag b | count n => exact h.elim

theorem table?_tableEntries (rows : Table) : ∀ {settings : List (String × Kind)} (index : Nat),
    (∀ setting ∈ settings, ∀ v, rows.lookup setting.1 = some v → setting.2.Fits v) →
      table? (fun _ name => (tableEntries rows).lookup name) index settings =
        some (knownSettings settings rows) := by
  intro settings
  induction settings with
  | nil => exact fun _ _ => rfl
  | cons setting later ih =>
    intro index hfits
    obtain ⟨hfit, hfits⟩ := List.forall_mem_cons.mp hfits
    have hlater := ih (index + 1) hfits
    have hlookup : (tableEntries rows).lookup setting.1 = (rows.lookup setting.1).map Scalar.value :=
      lookup_map Scalar.value setting.1 rows
    rw [table?, hlookup, knownSettings, List.filterMap_cons]
    cases hvalue : rows.lookup setting.1 with
    | none => exact hlater
    | some v =>
      simp only [Option.map_some, scalar?_value (hfit v hvalue), hlater]
      rfl

/-- The known settings of the tables of a document. -/
theorem record?_recordEntries (r : Record) : ∀ {shape : Shape}, Fits shape r →
    record? (recordEntries r) shape = some (known shape r) := by
  intro shape
  induction shape with
  | nil => exact fun _ => rfl
  | cons first later ih =>
    intro hfits
    obtain ⟨hfit, hfits⟩ := List.forall_mem_cons.mp hfits
    have hlater := ih hfits
    have hlookup : (recordEntries r).lookup first.1 =
        (r.lookup first.1).map fun table => .table .header (tableEntries table) :=
      lookup_map (fun table => Value.table .header (tableEntries table)) first.1 r
    rw [record?, hlookup, known, List.filterMap_cons]
    cases htable : r.lookup first.1 with
    | none => exact hlater
    | some table =>
      have hknown := table?_tableEntries table 0 (hfit table htable)
      simp only [Option.map_some, section?, Option.bind_eq_bind, Option.bind_some, hknown, hlater]
      rfl

/-- **The standard library conforms**: what it writes is in the pretty form, and it reads documents. -/
theorem standard_conforms : standard.Conforms where
  writable {r} _ := by
    show (if _ then _ else none) = none ↔ _
    rw [ite_eq_right_iff, ← not_iff_not, ← countsFit_iff, ← writable_iff]
    simp
  pretty {r text} _ h := by
    have hdocument : text = document r := by
      change (if _ then _ else none) = some text at h
      rw [Option.ite_none_right_eq_some] at h
      exact (Option.some.inj h.2).symm
    rw [hdocument]
    exact isPretty_document r
  reads {shape r text} h hfits := by
    have hread : (Toml.read? text).bind (record? · shape) = some (known shape r) := by
      rw [read?_document h, Option.bind_some, record?_recordEntries r hfits]
    simp only [standard, hread]

end Library

end Vocoder.Toml
