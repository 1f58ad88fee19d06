import Mathlib
import Vocoder.Proofs.Grammar

/-!
# Strings in quotes

What the standard library writes for a string is a string of TOML, and every string of TOML is read as what it
stands for.

* **`escapes_of_isEscape`** — an escape is read as its character, and not as the end of a line.
* **`chars_read`**, **`lines_read`** — the inside of a string is read item by item up to its closing quotes;
  no run of quotes is taken for these before the end.
* **`read?_string`** — every string is read, with what is behind it.
* **`escapeChar_cases`** — a character is written as an escape that stands for it, or as itself.
* **`isString_write`** — a form writes a string that it can hold, and `formOf_holds` chooses such a form.
-/

namespace Vocoder.Toml.Quoted

variable {c : Char} {t s rest : List Char}

/-! ## Escapes -/

theorem hexValue?_of_isHexDigit {d : Char} {v : Nat} (h : IsHexDigit d v) : hexValue? d = some v := by
  have hupper : ∀ k : Fin 16, ("0123456789ABCDEF".toList[k.1]?).bind hexValue? = some k.1 := by decide
  have hlower : ∀ k : Fin 16, ("0123456789abcdef".toList[k.1]?).bind hexValue? = some k.1 := by decide
  rcases h with h | h
  · have hv : v < 16 := (List.getElem?_eq_some_iff.mp h).1
    have hvalue := hupper ⟨v, hv⟩
    rwa [h] at hvalue
  · have hv : v < 16 := (List.getElem?_eq_some_iff.mp h).1
    have hvalue := hlower ⟨v, hv⟩
    rwa [h] at hvalue

theorem hexNumber?_of_isHex {n m : Nat} {ds : List Char} (h : IsHex n ds m) (rest : List Char) :
    hexNumber? ds.length n (ds ++ rest) = some (m, rest) := by
  induction h with
  | nil => rfl
  | cons hd _ ih =>
    rw [List.cons_append, List.length_cons, hexNumber?, hexValue?_of_isHexDigit hd]
    exact ih

theorem codePoint?_of_isHex {ds : List Char} (h : IsHex 0 ds c.toNat) (rest : List Char) :
    codePoint? ds.length (ds ++ rest) = some (c, rest) := by
  have hvalid : c.toNat.isValidChar := c.valid
  rw [codePoint?, hexNumber?_of_isHex h]
  simp only [hvalid, if_true, Char.ofNat_toNat]

/-- A character that is read behind a backslash, and not as the end of a line. -/
structure Escapes (cs : List Char) (c : Char) : Prop where
  read : ∀ rest, escape? (cs ++ rest) = some (c, rest)
  solid : ∀ rest, continuation? (cs ++ rest) = none

theorem escapes_of_head {d : Char} {e : List Char} (hblank : isBlank d = false) (hline : d ≠ '\n')
    (hreturn : d ≠ '\r') (hread : ∀ rest, escape? (d :: e ++ rest) = some (c, rest)) :
    Escapes (d :: e) c where
  read := hread
  solid rest := by
    have hskip : skipBlank (d :: e ++ rest) = d :: e ++ rest := by
      rw [skipBlank, List.cons_append, List.dropWhile_cons_of_neg (by simp [hblank])]
    rw [continuation?, hskip, List.cons_append, newline?.eq_def]
    split
    · rename_i h
      exact absurd (List.cons.inj h).1 hline
    · rename_i h
      exact absurd (List.cons.inj h).1 hreturn
    · rfl

/-- **An escape is read as its character.** -/
theorem escapes_of_isEscape {e : List Char} (h : IsEscape e c) : Escapes e c := by
  cases h with
  | @letter d c h =>
    simp only [List.mem_cons, Prod.mk.injEq, List.not_mem_nil, or_false] at h
    rcases h with ⟨rfl, rfl⟩ | ⟨rfl, rfl⟩ | ⟨rfl, rfl⟩ | ⟨rfl, rfl⟩ | ⟨rfl, rfl⟩ | ⟨rfl, rfl⟩ | ⟨rfl, rfl⟩
    all_goals exact escapes_of_head rfl (by decide) (by decide) fun _ => rfl
  | @short ds c hlength h =>
    refine escapes_of_head rfl (by decide) (by decide) fun rest => ?_
    rw [← codePoint?_of_isHex h rest, hlength]
    rfl
  | @long ds c hlength h =>
    refine escapes_of_head rfl (by decide) (by decide) fun rest => ?_
    rw [← codePoint?_of_isHex h rest, hlength]
    rfl

/-! ## Items -/

theorem isPlain_iff : isPlain c = true ↔ IsOrdinary c := by
  simp [isPlain, IsOrdinary]

theorem not_isOrdinaryOrLine_return : ¬ IsOrdinaryOrLine '\r' := by
  rintro (h | h)
  · exact absurd (isPlain_iff.mpr h) (by decide)
  · exact absurd h (by decide)

theorem not_isOrdinary_return : ¬ IsOrdinary '\r' :=
  fun h => not_isOrdinaryOrLine_return (.inl h)

theorem isPlain_or_newline (h : IsOrdinaryOrLine c) : isPlain c = true ∨ c = '\n' :=
  h.imp_left isPlain_iff.mpr

/-- How an item begins: neither like a closing quote nor like a line end of another item. -/
structure Begins (quote : Char) (Item : List Char → Char → Prop) : Prop where
  cons : ∀ {e c}, Item e c → ∃ d more, e = d :: more ∧ d ≠ quote ∧ d ≠ '\r' ∧ (d = '\n' → c = '\n')

variable {Own : Char → Prop}

theorem begins_basicItem (hown : ¬ Own '\r') : Begins '"' (IsBasicItem Own) where
  cons h := by
    cases h with
    | own h hquote _ => exact ⟨_, _, rfl, hquote, fun hc => hown (hc ▸ h), id⟩
    | escape h => exact ⟨_, _, rfl, by decide, by decide, fun hd => absurd hd (by decide)⟩

theorem begins_literalItem (hown : ¬ Own '\r') : Begins '\'' (IsLiteralItem Own) where
  cons h := by
    cases h with
    | own h hquote => exact ⟨_, _, rfl, hquote, fun hc => hown (hc ▸ h), id⟩

/-! ## On one line -/

theorem chars_read {quote : Char} {Item : List Char → Char → Prop}
    {f : List Char → Option (List Char × List Char)} (hclose : ∀ rest, f (quote :: rest) = some ([], rest))
    (hitem : ∀ {e c}, Item e c → ∀ rest, f (e ++ rest) = (f rest).map (push c)) (h : IsChars Item t s)
    (rest : List Char) : f (t ++ quote :: rest) = some (s, rest) := by
  induction h with
  | nil => exact hclose rest
  | cons h _ ih =>
    rw [List.append_assoc, hitem h, ih]
    rfl

theorem basic?_item {e : List Char} (h : IsBasicItem IsOrdinary e c) (rest : List Char) :
    basic? (e ++ rest) = (basic? rest).map (push c) := by
  cases h with
  | own h hquote hbackslash =>
    rw [List.cons_append, List.nil_append, basic?.eq_def]
    split
    · rename_i h
      cases h
    · rename_i h
      cases h
      exact absurd rfl hquote
    · rename_i h
      cases h
      exact absurd rfl hbackslash
    · rename_i heq
      cases heq
      rw [if_pos (isPlain_iff.mpr h)]
  | @escape e _ h =>
    have hread := (escapes_of_isEscape h).read rest
    rw [List.cons_append, basic?]
    split
    · rename_i hnone
      rw [hread] at hnone
      cases hnone
    · rename_i hsome
      rw [hread] at hsome
      cases hsome
      rfl

theorem basic?_of_isChars (h : IsChars (IsBasicItem IsOrdinary) t s) (rest : List Char) :
    basic? (t ++ '"' :: rest) = some (s, rest) :=
  chars_read (fun _ => by rw [basic?]) basic?_item h rest

theorem literal?_item {e : List Char} (h : IsLiteralItem IsOrdinary e c) (rest : List Char) :
    literal? (e ++ rest) = (literal? rest).map (push c) := by
  cases h with
  | own h hquote =>
    rw [List.cons_append, List.nil_append, literal?.eq_def]
    split
    · rename_i h
      cases h
    · rename_i h
      cases h
      exact absurd rfl hquote
    · rename_i heq
      cases heq
      rw [if_pos (isPlain_iff.mpr h)]

theorem literal?_of_isChars (h : IsChars (IsLiteralItem IsOrdinary) t s) (rest : List Char) :
    literal? (t ++ '\'' :: rest) = some (s, rest) :=
  chars_read (fun _ => rfl) literal?_item h rest

/-! ## Over lines -/

theorem run_cons (quote : Char) (cs : List Char) : run quote (quote :: cs) = run quote cs + 1 := by
  rw [run, List.takeWhile_cons_of_pos (by simp), List.length_cons]
  rfl

theorem run_of_ne {quote c : Char} (h : c ≠ quote) (cs : List Char) : run quote (c :: cs) = 0 := by
  rw [run, List.takeWhile_cons_of_neg (by simpa using h)]
  rfl

theorem run_replicate (quote : Char) (j : Nat) (cs : List Char) :
    run quote (List.replicate j quote ++ cs) = j + run quote cs := by
  induction j with
  | zero => rw [List.replicate_zero, List.nil_append, Nat.zero_add]
  | succ j ih =>
    rw [List.replicate_succ, List.cons_append, run_cons, ih]
    omega

/-- A run at the end is closed: three of the quotes close the string and the others belong to it. -/
theorem close_replicate {quote : Char} {j : Nat} (hj : j ≤ 2) (hrest : run quote rest = 0) :
    3 ≤ run quote (List.replicate j quote ++ quote :: quote :: quote :: rest) ∧
      close quote (List.replicate j quote ++ quote :: quote :: quote :: rest) =
        (List.replicate j quote, rest) := by
  have hquotes : List.replicate j quote ++ quote :: quote :: quote :: rest =
      List.replicate (j + 3) quote ++ rest := by
    rw [← List.replicate_append_replicate, List.append_assoc]
    rfl
  have hrun : run quote (List.replicate (j + 3) quote ++ rest) = j + 3 := by
    rw [run_replicate, hrest, Nat.add_zero]
  rw [hquotes, close, hrun, Nat.min_eq_left (by omega), Nat.add_sub_cancel]
  exact ⟨by omega, congrArg (Prod.mk _) (List.drop_left' List.length_replicate)⟩

section Lines

variable {quote : Char} {Item : List Char → Char → Prop} {n : Nat}

theorem Begins.run_append (hbegins : Begins quote Item) {e : List Char} (h : Item e c) (rest : List Char) :
    run quote (e ++ rest) = 0 := by
  obtain ⟨d, more, rfl, hd, -⟩ := hbegins.cons h
  exact run_of_ne hd _

/-- A run of quotes at the front of the inside is short, or goes to the end. -/
theorem lines_runs (hbegins : Begins quote Item) (h : IsLines quote Item n t s) (hn : n ≤ 2)
    (rest : List Char) :
    run quote (t ++ rest) + n ≤ 2 ∨
      ∃ j, j + n ≤ 2 ∧ s = List.replicate j quote ∧ t = List.replicate j quote := by
  -- the quotes right before count towards the first run
  induction h with
  | nil => exact .inr ⟨0, by omega, rfl, rfl⟩
  | quote hlt _ ih =>
    rcases ih hlt with hshort | ⟨j, hj, hs, ht⟩
    · rw [List.cons_append, run_cons]
      exact .inl (by omega)
    · exact .inr ⟨j + 1, by omega, congrArg (quote :: ·) hs, congrArg (quote :: ·) ht⟩
  | item h _ _ =>
    rw [List.append_assoc, hbegins.run_append h]
    exact .inl (by omega)

/-- How a string over lines is read: a quote or another item at a time, until three quotes in a row close it. -/
structure ReadsLines (quote : Char) (Item : List Char → Char → Prop)
    (f : List Char → Option (List Char × List Char)) : Prop where
  closes : ∀ {cs}, 3 ≤ run quote cs → f cs = some (close quote cs)
  quote : ∀ {cs}, run quote (quote :: cs) < 3 → f (quote :: cs) = (f cs).map (push quote)
  item : ∀ {e c}, Item e c → ∀ cs, f (e ++ cs) = (f cs).map (push c)

/-- **The inside of a string over lines is read up to its closing quotes**, wherever it is begun. -/
theorem lines_read {f : List Char → Option (List Char × List Char)} (hbegins : Begins quote Item)
    (hf : ReadsLines quote Item f) (h : IsLines quote Item n t s) (hn : n ≤ 2)
    (hrest : run quote rest = 0) : f (t ++ quote :: quote :: quote :: rest) = some (s, rest) := by
  induction h with
  | nil =>
    obtain ⟨hlong, hclose⟩ := close_replicate (j := 0) (by decide) hrest
    exact (hf.closes hlong).trans (congrArg some hclose)
  | @quote n t s hlt hlater ih =>
    rcases lines_runs hbegins (.quote hlt hlater) hn (quote :: quote :: quote :: rest) with
      hshort | ⟨j, hj, hs, ht⟩
    · rw [List.cons_append] at hshort ⊢
      rw [hf.quote (by omega), ih hlt]
      rfl
    · -- only quotes are left, and the last three of them close the string
      obtain ⟨hlong, hclose⟩ := close_replicate (j := j) (by omega) hrest
      rw [ht, hs]
      exact (hf.closes hlong).trans (congrArg some hclose)
  | item h _ ih =>
    rw [List.append_assoc, hf.item h, ih (Nat.zero_le _)]
    rfl

end Lines

theorem basicLines?_own (hshort : run '"' (c :: rest) < 3) (hown : IsOrdinaryOrLine c)
    (hbackslash : c ≠ '\\') : basicLines? (c :: rest) = (basicLines? rest).map (push c) := by
  rw [basicLines?.eq_def, if_neg (by omega)]
  split
  · rename_i h
    cases h
  · rename_i h
    cases h
    rfl
  · rename_i h
    cases h
    exact absurd hown not_isOrdinaryOrLine_return
  · rename_i h
    cases h
    exact absurd rfl hbackslash
  · rename_i h
    cases h
    rename_i hline _ _
    rw [if_pos ((isPlain_or_newline hown).resolve_right hline)]

theorem readsLines_basicLines? :
    ReadsLines '"' (IsBasicItem IsOrdinaryOrLine) basicLines? where
  closes hlong := by rw [basicLines?.eq_def, if_pos hlong]
  quote hshort := basicLines?_own hshort (.inl (isPlain_iff.mp (by decide))) (by decide)
  item {e c} h cs := by
    have hrun := (begins_basicItem not_isOrdinaryOrLine_return).run_append h cs
    cases h with
    | own h _ hbackslash =>
      rw [List.cons_append, List.nil_append] at hrun ⊢
      exact basicLines?_own (by omega) h hbackslash
    | @escape e _ h =>
      obtain ⟨hread, hsolid⟩ := escapes_of_isEscape h
      rw [List.cons_append] at hrun ⊢
      rw [basicLines?, if_neg (by omega)]
      split
      · rename_i hsome
        rw [hsolid] at hsome
        cases hsome
      · split
        · rename_i hnone
          rw [hread] at hnone
          cases hnone
        · rename_i hsome
          rw [hread] at hsome
          cases hsome
          rfl

theorem literalLines?_own (hshort : run '\'' (c :: rest) < 3) (hown : IsOrdinaryOrLine c) :
    literalLines? (c :: rest) = (literalLines? rest).map (push c) := by
  rw [literalLines?.eq_def, if_neg (by omega)]
  split
  · rename_i h
    cases h
  · rename_i h
    cases h
    rfl
  · rename_i h
    cases h
    exact absurd hown not_isOrdinaryOrLine_return
  · rename_i h
    cases h
    rename_i hline _
    rw [if_pos ((isPlain_or_newline hown).resolve_right hline)]

theorem readsLines_literalLines? :
    ReadsLines '\'' (IsLiteralItem IsOrdinaryOrLine) literalLines? where
  closes hlong := by rw [literalLines?.eq_def, if_pos hlong]
  quote hshort := literalLines?_own hshort (.inl (isPlain_iff.mp (by decide)))
  item {e c} h cs := by
    have hrun := (begins_literalItem not_isOrdinaryOrLine_return).run_append h cs
    cases h with
    | own h _ =>
      rw [List.cons_append, List.nil_append] at hrun ⊢
      exact literalLines?_own (by omega) h

/-! ## Reading a string in any form -/

theorem run_eq_zero {quote : Char} (h : rest.head? ≠ some quote) : run quote rest = 0 := by
  cases rest with
  | nil => rfl
  | cons c later => exact run_of_ne (fun hc => h (congrArg some hc)) later

theorem head?_of_isChars {quote : Char} {Item : List Char → Char → Prop} (hbegins : Begins quote Item)
    (h : IsChars Item t s) (ht : t ≠ []) (more : List Char) : (t ++ more).head? ≠ some quote := by
  cases h with
  | nil => exact absurd rfl ht
  | cons h _ =>
    obtain ⟨d, _, rfl, hd, -⟩ := hbegins.cons h
    exact fun heq => hd (Option.some.inj heq)

/-- Behind the opening quote of a string on one line there are not two more, if none stands behind the string. -/
theorem ne_quotes_of_isChars {quote : Char} {Item : List Char → Char → Prop} (hbegins : Begins quote Item)
    (h : IsChars Item t s) (hrest : rest.head? ≠ some quote) (more : List Char) :
    t ++ quote :: rest ≠ quote :: quote :: more := by
  intro heq
  by_cases ht : t = []
  · subst ht
    have hbehind : rest = quote :: more := (List.cons.inj heq).2
    rw [hbehind] at hrest
    exact hrest rfl
  · exact head?_of_isChars hbegins h ht _ (congrArg List.head? heq)

theorem head?_of_isLines {quote : Char} {Item : List Char → Char → Prop} {n : Nat}
    (hbegins : Begins quote Item) (hquote : quote ≠ '\r') (h : IsLines quote Item n t s) :
    t.head? ≠ some '\r' := by
  cases h with
  | nil => exact nofun
  | quote => exact fun heq => hquote (Option.some.inj heq)
  | item h _ =>
    obtain ⟨d, _, rfl, -, hreturn, -⟩ := hbegins.cons h
    exact fun heq => hreturn (Option.some.inj heq)

theorem skipFirstNewline_of_isOpening {first more : List Char} {quote : Char} (hfirst : IsOpening first t)
    (hreturn : t.head? ≠ some '\r') (hquote : quote ≠ '\n' ∧ quote ≠ '\r') :
    skipFirstNewline (first ++ (t ++ quote :: more)) = t ++ quote :: more := by
  rcases hfirst with rfl | ⟨rfl, hline⟩
  · rfl
  · rw [List.nil_append, skipFirstNewline, newline?.eq_def]
    cases t with
    | nil =>
      split
      · rename_i h
        exact absurd (List.cons.inj h).1 hquote.1
      · rename_i h
        exact absurd (List.cons.inj h).1 hquote.2
      · rfl
    | cons d later =>
      split
      · rename_i h
        exact absurd (congrArg some (List.cons.inj h).1) hline
      · rename_i h
        exact absurd (congrArg some (List.cons.inj h).1) hreturn
      · rfl

theorem read?_basic (hrest : rest.head? ≠ some '"') (h : IsChars (IsBasicItem IsOrdinary) t s) :
    read? ('"' :: (t ++ '"' :: rest)) = some (s, rest) := by
  rw [read?.eq_def]
  split
  · -- an opening quote is not the first of three
    rename_i heq
    exact absurd (List.cons.inj heq).2
      (ne_quotes_of_isChars (begins_basicItem not_isOrdinary_return) h hrest _)
  · rename_i heq
    rw [← (List.cons.inj heq).2]
    exact basic?_of_isChars h rest
  · rename_i heq
    exact absurd (List.cons.inj heq).1 (by decide)
  · rename_i heq
    exact absurd (List.cons.inj heq).1 (by decide)
  · rename_i heq _ _
    exact absurd rfl (heq _)

theorem read?_literal (hrest : rest.head? ≠ some '\'') (h : IsChars (IsLiteralItem IsOrdinary) t s) :
    read? ('\'' :: (t ++ '\'' :: rest)) = some (s, rest) := by
  rw [read?.eq_def]
  split
  · rename_i heq
    exact absurd (List.cons.inj heq).1 (by decide)
  · rename_i heq
    exact absurd (List.cons.inj heq).1 (by decide)
  · rename_i heq
    exact absurd (List.cons.inj heq).2
      (ne_quotes_of_isChars (begins_literalItem not_isOrdinary_return) h hrest _)
  · rename_i heq
    rw [← (List.cons.inj heq).2]
    exact literal?_of_isChars h rest
  · rename_i heq
    exact absurd rfl (heq _)

/-- **Every string is read as what it stands for**, with what is behind it, if that begins with no quote. -/
theorem read?_string (hbasic : rest.head? ≠ some '"') (hliteral : rest.head? ≠ some '\'')
    (h : IsString t s) : read? (t ++ rest) = some (s, rest) := by
  cases h with
  | basic h =>
    rw [List.cons_append, List.append_assoc]
    exact read?_basic hbasic h
  | literal h =>
    rw [List.cons_append, List.append_assoc]
    exact read?_literal hliteral h
  | @basicLines first t _ hfirst h =>
    have hbegins := begins_basicItem not_isOrdinaryOrLine_return
    have htext : ['"', '"', '"'] ++ first ++ t ++ ['"', '"', '"'] ++ rest =
        '"' :: '"' :: '"' :: (first ++ (t ++ '"' :: '"' :: '"' :: rest)) := by simp
    rw [htext, read?, skipFirstNewline_of_isOpening hfirst (head?_of_isLines hbegins (by decide) h) (by decide)]
    exact lines_read hbegins readsLines_basicLines? h (by decide) (run_eq_zero hbasic)
  | @literalLines first t _ hfirst h =>
    have hbegins := begins_literalItem not_isOrdinaryOrLine_return
    have htext : ['\'', '\'', '\''] ++ first ++ t ++ ['\'', '\'', '\''] ++ rest =
        '\'' :: '\'' :: '\'' :: (first ++ (t ++ '\'' :: '\'' :: '\'' :: rest)) := by simp
    rw [htext, read?, skipFirstNewline_of_isOpening hfirst (head?_of_isLines hbegins (by decide) h) (by decide)]
    exact lines_read hbegins readsLines_literalLines? h (by decide) (run_eq_zero hliteral)

/-! ## Writing -/

theorem isControl_iff :
    isControl c = true ↔ (c.toNat < 0x20 ∨ c.toNat = 0x7f) ∧ c ≠ '\t' ∧ c ≠ '\n' := by
  simp [isControl, and_assoc]

theorem isOrdinaryOrLine_of_not_isControl (h : isControl c = false) : IsOrdinaryOrLine c := by
  rw [Bool.eq_false_iff, ne_eq, isControl_iff] at h
  by_cases htab : c = '\t'
  · exact .inl (.inl htab)
  · by_cases hline : c = '\n'
    · exact .inr hline
    · have hrange : ¬ (c.toNat < 0x20 ∨ c.toNat = 0x7f) := fun hlow => h ⟨hlow, htab, hline⟩
      exact .inl (.inr ⟨by omega, by omega⟩)

theorem isHexDigit_hexDigit {n : Nat} (h : n < 16) : IsHexDigit (hexDigit n) n := by
  have hall : ∀ k : Fin 16, "0123456789ABCDEF".toList[k.1]? = some (hexDigit k.1) := by decide
  exact .inl (hall ⟨n, h⟩)

theorem isHex_of_lt {n : Nat} (h : n < 0x80) : IsHex 0 ['0', '0', hexDigit (n / 16), hexDigit (n % 16)] n := by
  have hzero : IsHexDigit '0' 0 := .inl rfl
  have hn : 16 * (16 * (16 * (16 * 0 + 0) + 0) + n / 16) + n % 16 = n := by omega
  have hlast : IsHex (16 * (16 * (16 * (16 * 0 + 0) + 0) + n / 16) + n % 16) [] n := by
    rw [hn]
    exact .nil
  exact .cons hzero (.cons hzero (.cons (isHexDigit_hexDigit (by omega))
    (.cons (isHexDigit_hexDigit (by omega)) hlast)))

/-- **A character is written as an escape that stands for it, or as itself.** -/
theorem escapeChar_cases (c : Char) :
    (∃ e, escapeChar c = '\\' :: e ∧ IsEscape e c) ∨
    escapeChar c = [c] ∧ IsOrdinary c ∧ c ≠ '\\' := by
  rw [escapeChar]
  split_ifs with hb ht hn hf hr hbackslash hcontrol
  · subst hb
    exact .inl ⟨_, rfl, .letter (by decide)⟩
  · subst ht
    exact .inl ⟨_, rfl, .letter (by decide)⟩
  · subst hn
    exact .inl ⟨_, rfl, .letter (by decide)⟩
  · subst hf
    exact .inl ⟨_, rfl, .letter (by decide)⟩
  · subst hr
    exact .inl ⟨_, rfl, .letter (by decide)⟩
  · subst hbackslash
    exact .inl ⟨_, rfl, .letter (by decide)⟩
  · have hlow : c.toNat < 0x80 := by
      have hrange := (isControl_iff.mp hcontrol).1
      omega
    exact .inl ⟨_, rfl, .short rfl (isHex_of_lt hlow)⟩
  · have hown := isOrdinaryOrLine_of_not_isControl (by simpa using hcontrol)
    exact .inr ⟨rfl, hown.resolve_right hn, hbackslash⟩

/-- What is written for a character that is no double quote. -/
theorem isBasicItem_escapeChar (hown : ∀ {c}, IsOrdinary c → Own c) (hquote : c ≠ '"') :
    IsBasicItem Own (escapeChar c) c := by
  rcases escapeChar_cases c with ⟨e, hescape, h⟩ | ⟨hself, h, hbackslash⟩
  · rw [hescape]
    exact .escape h
  · rw [hself]
    exact .own (hown h) hquote hbackslash

theorem isEscape_quote : IsEscape ['"'] '"' :=
  .letter (by decide)

theorem isChars_basicText (s : List Char) : IsChars (IsBasicItem IsOrdinary) (basicText s) s := by
  induction s with
  | nil => exact .nil
  | cons c later ih =>
    rw [basicText, List.flatMap_cons]
    refine .cons ?_ ih
    by_cases hc : c = '"'
    · rw [if_pos hc, hc]
      exact .escape isEscape_quote
    · rw [if_neg hc]
      exact isBasicItem_escapeChar id hc

/-- Of the quotes in a row every third is an escape. -/
theorem isLines_basicLinesText (s : List Char) : ∀ {n : Nat}, n ≤ 2 →
    IsLines '"' (IsBasicItem IsOrdinaryOrLine) n (basicLinesText n s) s := by
  induction s with
  | nil => exact fun _ => .nil
  | cons c later ih =>
    intro n hn
    rw [basicLinesText]
    by_cases hc : c = '"'
    · subst hc
      rw [if_pos rfl]
      by_cases hthird : n = 2
      · rw [if_pos hthird]
        exact .item (.escape isEscape_quote) (ih (by decide))
      · rw [if_neg hthird]
        exact .quote (by omega) (ih (by omega))
    · rw [if_neg hc]
      by_cases hline : c = '\n'
      · subst hline
        rw [if_pos rfl]
        exact .item (.own (.inr rfl) (by decide) (by decide)) (ih (by decide))
      · rw [if_neg hline]
        exact .item (isBasicItem_escapeChar .inl hc) (ih (by decide))

theorem isChars_self (hs : ∀ c ∈ s, IsOrdinary c ∧ c ≠ '\'') : IsChars (IsLiteralItem IsOrdinary) s s := by
  induction s with
  | nil => exact .nil
  | cons c later ih =>
    obtain ⟨⟨hown, hquote⟩, hlater⟩ := List.forall_mem_cons.mp hs
    exact .cons (.own hown hquote) (ih hlater)

theorem run_le_longestRun {quote : Char} (s : List Char) : run quote s ≤ longestRun quote s := by
  cases s with
  | nil => exact Nat.le_refl _
  | cons c later => exact Nat.le_max_left ..

theorem isLines_self (hs : ∀ c ∈ s, IsOrdinaryOrLine c) (hlongest : longestRun '\'' s ≤ 2) :
    ∀ {n : Nat}, run '\'' s + n ≤ 2 → IsLines '\'' (IsLiteralItem IsOrdinaryOrLine) n s s := by
  induction s with
  | nil => exact fun _ => .nil
  | cons c later ih =>
    intro n hrun
    obtain ⟨hown, hlater⟩ := List.forall_mem_cons.mp hs
    have hlongest' : longestRun '\'' later ≤ 2 := Nat.le_trans (Nat.le_max_right ..) hlongest
    by_cases hc : c = '\''
    · subst hc
      rw [run_cons] at hrun
      exact .quote (by omega) (ih hlater hlongest' (by omega))
    · exact .item (.own hown hc) (ih hlater hlongest' (Nat.le_trans (run_le_longestRun _) hlongest'))

/-- The line end behind the opening quotes is there if the string has one of its own. -/
theorem isOpening_firstNewline {quote : Char} {Item : List Char → Char → Prop} {n : Nat}
    (hbegins : Begins quote Item) (hquote : quote ≠ '\n') (h : IsLines quote Item n t s) :
    IsOpening (firstNewline s) t := by
  rw [firstNewline]
  split
  · exact .inl rfl
  · rename_i hline
    refine .inr ⟨rfl, ?_⟩
    cases h with
    | nil => exact nofun
    | quote => exact fun heq => hquote (Option.some.inj heq)
    | item h _ =>
      obtain ⟨d, _, rfl, -, -, hd⟩ := hbegins.cons h
      exact fun heq => hline (hd (Option.some.inj heq) ▸ List.mem_cons_self)

/-- **A form writes a string that it can hold.** -/
theorem isString_write {form : Form} (h : form.Holds s) : IsString (form.write s) s := by
  cases form with
  | basic => exact .basic (isChars_basicText s)
  | literal => exact .literal (isChars_self h)
  | basicLines =>
    have hlines := isLines_basicLinesText s (n := 0) (by decide)
    exact .basicLines (isOpening_firstNewline (begins_basicItem not_isOrdinaryOrLine_return) (by decide) hlines)
      hlines
  | literalLines =>
    have hlines := isLines_self h.1 h.2 (n := 0) (Nat.le_trans (run_le_longestRun _) h.2)
    exact .literalLines
      (isOpening_firstNewline (begins_literalItem not_isOrdinaryOrLine_return) (by decide) hlines) hlines

/-- The form that suits a string can hold it. -/
theorem formOf_holds (s : List Char) : (formOf s).Holds s := by
  rw [formOf]
  by_cases hcontrol : s.any isControl = true
  · rw [if_pos hcontrol]
    split_ifs <;> trivial
  · -- without control characters a string may also stand for itself
    have hown : ∀ c ∈ s, IsOrdinaryOrLine c := fun c hc => isOrdinaryOrLine_of_not_isControl (by
      have hnone : ∀ c ∈ s, isControl c = false := by simpa using hcontrol
      exact hnone c hc)
    rw [if_neg hcontrol]
    split_ifs with hplain hquote hlines hlong hline
    · trivial
    · refine fun c hc => ⟨(hown c hc).resolve_right ?_, ?_⟩
      · exact fun h => hquote.1 (h ▸ hc)
      · exact fun h => hquote.2 (h ▸ hc)
    · trivial
    · exact ⟨hown, hlong⟩
    · trivial
    · trivial

end Vocoder.Toml.Quoted
