import Vocoder.Text.Utf8

/-!
# Characters in bytes

`Utf8.next` decides byte by byte what a decoder takes next. Here the same is said by the bytes of whole
characters.

* **`Sequence`** — the well-formed sequences of bytes and their numbers. They are the bytes of the
  characters, and all of them (`sequence_encodeChar`, `Sequence.exists_char`).
* **`decode?_encode`** — text survives as bytes.
* **`Broken`** — the bytes for which one replacement character stands: the longest run that begins a
  character where none is, or a single byte that begins none.
* **`lossy_iff`** — lossy decoding gives each character for its bytes and one replacement character for
  each broken run.
-/

namespace Vocoder.Utf8

/-! ## Well-formed sequences -/

/-- The bytes of a character and its number. -/
inductive Sequence : List UInt8 → Nat → Prop where
  | one {a : UInt8} {n : Nat} (ha : a.toNat < 0x80) (hn : a.toNat = n) : Sequence [a] n
  | two {a b : UInt8} {n : Nat} (ha : width a = 2) (hb : isSecond a b = true)
    (hn : extend (a.toNat % 32) b = n) : Sequence [a, b] n
  | three {a b c : UInt8} {n : Nat} (ha : width a = 3) (hb : isSecond a b = true)
    (hc : isContinuation c = true) (hn : extend (extend (a.toNat % 16) b) c = n) :
    Sequence [a, b, c] n
  | four {a b c d : UInt8} {n : Nat} (ha : width a = 4) (hb : isSecond a b = true)
    (hc : isContinuation c = true) (hd : isContinuation d = true)
    (hn : extend (extend (extend (a.toNat % 8) b) c) d = n) : Sequence [a, b, c, d] n

theorem toNat_ofNat {n : Nat} (h : n < 256) : (UInt8.ofNat n).toNat = n := by
  rw [UInt8.toNat_ofNat']
  omega

theorem isContinuation_iff {b : UInt8} : isContinuation b = true ↔ b.toNat / 64 = 2 := by
  simp [isContinuation]

theorem isSecond_iff {lead second : UInt8} :
    isSecond lead second = true ↔
      second.toNat / 64 = 2 ∧ (lead.toNat = 0xe0 → 0xa0 ≤ second.toNat) ∧
        (lead.toNat = 0xed → second.toNat < 0xa0) ∧ (lead.toNat = 0xf0 → 0x90 ≤ second.toNat) ∧
        (lead.toNat = 0xf4 → second.toNat < 0x90) := by
  rw [isSecond, Bool.and_eq_true, isContinuation_iff]
  grind

theorem width_eq_two {lead : UInt8} : width lead = 2 ↔ 0xc2 ≤ lead.toNat ∧ lead.toNat < 0xe0 := by
  unfold width
  grind

theorem width_eq_three {lead : UInt8} : width lead = 3 ↔ 0xe0 ≤ lead.toNat ∧ lead.toNat < 0xf0 := by
  unfold width
  grind

theorem width_eq_four {lead : UInt8} : width lead = 4 ↔ 0xf0 ≤ lead.toNat ∧ lead.toNat < 0xf5 := by
  unfold width
  grind

theorem sequence_encodeChar (c : Char) : Sequence (String.utf8EncodeChar c) c.toNat := by
  have hvalid : c.toNat < 0xd800 ∨ 0xdfff < c.toNat ∧ c.toNat < 0x110000 := c.valid
  rw [String.utf8EncodeChar, show c.val.toNat = c.toNat from rfl]
  generalize c.toNat = v at hvalid ⊢
  have hlast : (UInt8.ofNat (v % 64 + 128)).toNat = v % 64 + 128 := toNat_ofNat (by omega)
  have hmiddle : (UInt8.ofNat (v / 64 % 64 + 128)).toNat = v / 64 % 64 + 128 := toNat_ofNat (by omega)
  split
  · have ha : (UInt8.ofNat v).toNat = v := toNat_ofNat (by omega)
    exact .one (by omega) ha
  split
  · have ha : (UInt8.ofNat (v / 64 % 32 + 192)).toNat = v / 64 % 32 + 192 := toNat_ofNat (by omega)
    refine .two (width_eq_two.mpr (by omega)) (isSecond_iff.mpr (by omega)) ?_
    rw [extend, ha, hlast]
    omega
  split
  · have ha : (UInt8.ofNat (v / 4096 % 16 + 224)).toNat = v / 4096 % 16 + 224 := toNat_ofNat (by omega)
    refine .three (width_eq_three.mpr (by omega)) (isSecond_iff.mpr (by omega))
      (isContinuation_iff.mpr (by omega)) ?_
    rw [extend, extend, ha, hmiddle, hlast]
    omega
  · have ha : (UInt8.ofNat (v / 262144 % 8 + 240)).toNat = v / 262144 % 8 + 240 := toNat_ofNat (by omega)
    have hb : (UInt8.ofNat (v / 4096 % 64 + 128)).toNat = v / 4096 % 64 + 128 := toNat_ofNat (by omega)
    refine .four (width_eq_four.mpr (by omega)) (isSecond_iff.mpr (by omega))
      (isContinuation_iff.mpr (by omega)) (isContinuation_iff.mpr (by omega)) ?_
    rw [extend, extend, extend, ha, hb, hmiddle, hlast]
    omega

theorem ofNat_eq {n : Nat} (b : UInt8) (h : n = b.toNat) : UInt8.ofNat n = b := by
  rw [h, UInt8.ofNat_toNat]

/-- Every sequence is the bytes of a character. -/
theorem Sequence.exists_char {bytes : List UInt8} {n : Nat} (h : Sequence bytes n) :
    ∃ c : Char, c.toNat = n ∧ String.utf8EncodeChar c = bytes := by
  -- the width of the lead bounds the number, which is what the encoder goes by
  suffices hsplit : n.isValidChar ∧ ∀ c : Char, c.toNat = n → String.utf8EncodeChar c = bytes by
    obtain ⟨hvalid, hbytes⟩ := hsplit
    exact ⟨Char.ofNatAux n hvalid, rfl, hbytes _ rfl⟩
  simp only [String.utf8EncodeChar, Nat.isValidChar]
  cases h with
  | @one a n ha hn =>
    refine ⟨by omega, ?_⟩
    rintro x (hx : x.val.toNat = n)
    rw [hx, if_pos (by omega), ofNat_eq a hn.symm]
  | @two a b n ha hb hn =>
    rw [width_eq_two] at ha
    rw [isSecond_iff] at hb
    rw [extend] at hn
    refine ⟨by omega, ?_⟩
    rintro x (hx : x.val.toNat = n)
    rw [hx, if_neg (by omega), if_pos (by omega), ofNat_eq a (by omega), ofNat_eq b (by omega)]
  | @three a b c n ha hb hc hn =>
    rw [width_eq_three] at ha
    rw [isSecond_iff] at hb
    rw [isContinuation_iff] at hc
    rw [extend, extend] at hn
    have hrange : 0x800 ≤ n ∧ n < 0x10000 ∧ ¬ (0xd800 ≤ n ∧ n < 0xe000) := by omega
    refine ⟨by omega, ?_⟩
    rintro x (hx : x.val.toNat = n)
    rw [hx, if_neg (by omega), if_neg (by omega), if_pos (by omega), ofNat_eq a (by omega),
      ofNat_eq b (by omega), ofNat_eq c (by omega)]
  | @four a b c d n ha hb hc hd hn =>
    rw [width_eq_four] at ha
    rw [isSecond_iff] at hb
    rw [isContinuation_iff] at hc hd
    rw [extend, extend, extend] at hn
    have hrange : 0x10000 ≤ n ∧ n < 0x110000 := by omega
    refine ⟨by omega, ?_⟩
    rintro x (hx : x.val.toNat = n)
    rw [hx, if_neg (by omega), if_neg (by omega), if_neg (by omega), ofNat_eq a (by omega),
      ofNat_eq b (by omega), ofNat_eq c (by omega), ofNat_eq d (by omega)]

/-! ## Text as bytes and back -/

theorem next_sequence {bytes : List UInt8} {n : Nat} (h : Sequence bytes n) (rest : List UInt8) :
    ∃ lead more, bytes = lead :: more ∧ next lead (more ++ rest) = (some (Char.ofNat n), rest) := by
  cases h with
  | @one a _ ha hn =>
    have hwidth : width a = 1 := by unfold width; grind
    refine ⟨a, [], rfl, ?_⟩
    simp [next, hwidth, hn, hn ▸ ha]
  | @two a b _ ha hb hn => exact ⟨a, [b], rfl, by simp [next, ha, hb, hn]⟩
  | @three a b c _ ha hb hc hn => exact ⟨a, [b, c], rfl, by simp [next, ha, hb, hc, hn]⟩
  | @four a b c d _ ha hb hc hd hn => exact ⟨a, [b, c, d], rfl, by simp [next, ha, hb, hc, hd, hn]⟩

/-- A character is taken off the front of what is behind it. -/
theorem pieces_encodeChar (c : Char) (rest : List UInt8) :
    pieces (String.utf8EncodeChar c ++ rest) = some c :: pieces rest := by
  obtain ⟨lead, more, hbytes, hnext⟩ := next_sequence (sequence_encodeChar c) rest
  rw [hbytes, List.cons_append, pieces_cons, hnext, Char.ofNat_toNat]

theorem pieces_encode (s : List Char) : pieces (encode s) = s.map some := by
  induction s with
  | nil => rw [encode, List.flatMap_nil, pieces]; rfl
  | cons c later ih =>
    rw [encode, List.flatMap_cons, pieces_encodeChar, List.map_cons]
    rw [encode] at ih
    rw [ih]

/-- **Text survives as bytes.** -/
theorem decode?_encode (s : List Char) : decode? (encode s) = some s := by
  rw [decode?, pieces_encode]
  induction s with
  | nil => rfl
  | cons c later ih => simp [List.mapM_cons, ih]

theorem decodeLossy_encode (s : List Char) : decodeLossy (encode s) = s := by
  rw [decodeLossy, pieces_encode, List.map_map]
  exact List.map_id s

/-- Only the character NUL has the byte zero. -/
theorem eq_of_zero_mem_encodeChar {c : Char} (h : 0 ∈ String.utf8EncodeChar c) : c = '\x00' := by
  have hsequence := sequence_encodeChar c
  have hzero : (0 : UInt8).toNat = 0 := rfl
  generalize String.utf8EncodeChar c = bytes at h hsequence
  generalize hn : c.toNat = n at hsequence
  -- in a longer sequence every byte is at least 0x80
  cases hsequence with
  | @one a _ ha hnumber =>
    rw [List.mem_singleton] at h
    subst h
    rw [← hnumber] at hn
    rw [← Char.ofNat_toNat c, hn]
    rfl
  | @two a b _ ha hb =>
    rw [width_eq_two] at ha
    rw [isSecond_iff] at hb
    simp only [List.mem_cons, List.not_mem_nil, or_false] at h
    rcases h with rfl | rfl
    · omega
    · omega
  | @three a b c _ ha hb hc =>
    rw [width_eq_three] at ha
    rw [isSecond_iff] at hb
    rw [isContinuation_iff] at hc
    simp only [List.mem_cons, List.not_mem_nil, or_false] at h
    rcases h with rfl | rfl | rfl
    · omega
    · omega
    · omega
  | @four a b c d _ ha hb hc hd =>
    rw [width_eq_four] at ha
    rw [isSecond_iff] at hb
    rw [isContinuation_iff] at hc hd
    simp only [List.mem_cons, List.not_mem_nil, or_false] at h
    rcases h with rfl | rfl | rfl | rfl
    · omega
    · omega
    · omega
    · omega

theorem zero_not_mem_encode {s : List Char} (h : '\x00' ∉ s) : 0 ∉ encode s := by
  rw [encode, List.mem_flatMap]
  rintro ⟨c, hc, hzero⟩
  rw [eq_of_zero_mem_encodeChar hzero] at hc
  exact h hc

/-! ## Bytes that are no text -/

/-- Some character has bytes that start with these. -/
def Begins (bytes : List UInt8) : Prop :=
  ∃ c : Char, bytes <+: String.utf8EncodeChar c

/-- Bytes that one replacement character stands for. No character starts where they do, and they are the
longest run there that begins one; a byte that begins none is taken alone. -/
structure Broken (bad rest : List UInt8) : Prop where
  no_character : ∀ c : Char, ¬ String.utf8EncodeChar c <+: bad ++ rest
  begins : bad.length = 1 ∨ bad ≠ [] ∧ Begins bad
  longest : ∀ b later, rest = b :: later → ¬ Begins (bad ++ [b])

/-- The text of some bytes: each character for its bytes, and one replacement character for each run that
is broken. -/
inductive Lossy : List UInt8 → List Char → Prop where
  | nil : Lossy [] []
  | character {rest : List UInt8} {text : List Char} (c : Char) (h : Lossy rest text) :
    Lossy (String.utf8EncodeChar c ++ rest) (c :: text)
  | broken {bad rest : List UInt8} {text : List Char} (hbad : Broken bad rest) (h : Lossy rest text) :
    Lossy (bad ++ rest) (replacement :: text)

theorem Sequence.begins {bytes more : List UInt8} {n : Nat} (h : Sequence (bytes ++ more) n) :
    Begins bytes := by
  obtain ⟨c, -, hc⟩ := h.exists_char
  exact ⟨c, more, hc.symm⟩

theorem Begins.exists_sequence {bytes : List UInt8} (h : Begins bytes) :
    ∃ more n, Sequence (bytes ++ more) n := by
  obtain ⟨c, more, hc⟩ := h
  exact ⟨more, c.toNat, hc ▸ sequence_encodeChar c⟩

theorem Sequence.length_eq {lead : UInt8} {more : List UInt8} {n : Nat} (hlead : 0x80 ≤ lead.toNat)
    (h : Sequence (lead :: more) n) : more.length + 1 = width lead ∧ 1 < width lead := by
  cases h with
  | one ha => omega
  | two ha | three ha | four ha => simp [ha]

/-- Bytes that a character would go on behind, were it not for the next of them. -/
theorem broken_of {lead : UInt8} {more rest : List UInt8} (hlead : 0x80 ≤ lead.toNat)
    (hshort : width lead = 1 ∨ more.length + 1 < width lead) (hbegins : more = [] ∨ Begins (lead :: more))
    (hlongest : ∀ b later, rest = b :: later → ¬ Begins (lead :: more ++ [b])) :
    Broken (lead :: more) rest where
  no_character c hc := by
    have hsequence := sequence_encodeChar c
    rcases List.prefix_or_prefix_of_prefix hc (List.prefix_append (lead :: more) rest) with h | ⟨tail, h⟩
    · -- the character is not longer than the run, which is too short for one
      cases hbytes : String.utf8EncodeChar c with
      | nil => exact String.utf8EncodeChar_ne_nil hbytes
      | cons first others =>
        rw [hbytes] at h hsequence
        obtain ⟨rfl, hothers⟩ := List.cons_prefix_cons.mp h
        have hlength := hothers.length_le
        obtain ⟨hwidth, hmany⟩ := hsequence.length_eq hlead
        omega
    · rw [← h] at hc hsequence
      cases tail with
      | nil =>
        rw [List.append_nil] at hsequence
        obtain ⟨hwidth, hmany⟩ := hsequence.length_eq hlead
        omega
      | cons b others =>
        -- the character goes on behind the run with the byte that is there
        obtain ⟨later, hrest⟩ := (List.prefix_append_right_inj (lead :: more)).mp hc
        refine hlongest b (others ++ later) hrest.symm ⟨c, others, ?_⟩
        rw [← h, List.append_assoc]
        rfl
  begins := by
    rcases hbegins with rfl | hbegins
    · exact .inl rfl
    · exact .inr ⟨by simp, hbegins⟩
  longest := hlongest

/-! ## What is in front -/

/-- What is found in front of some bytes: a character, or a broken run. -/
inductive Front : List UInt8 → Option Char → List UInt8 → Prop where
  | character (c : Char) (rest : List UInt8) : Front (String.utf8EncodeChar c ++ rest) (some c) rest
  | broken {bad rest : List UInt8} (h : Broken bad rest) : Front (bad ++ rest) none rest

theorem Sequence.front {bytes : List UInt8} {n : Nat} (h : Sequence bytes n) (rest : List UInt8) :
    Front (bytes ++ rest) (some (Char.ofNat n)) rest := by
  obtain ⟨c, rfl, rfl⟩ := h.exists_char
  rw [Char.ofNat_toNat]
  exact .character c rest

theorem Sequence.second {lead b : UInt8} {more : List UInt8} {n : Nat}
    (h : Sequence (lead :: b :: more) n) : 1 < width lead ∧ isSecond lead b = true := by
  cases h with
  | two ha hb | three ha hb | four ha hb => exact ⟨by omega, hb⟩

theorem Sequence.third {lead b c : UInt8} {more : List UInt8} {n : Nat}
    (h : Sequence (lead :: b :: c :: more) n) : isContinuation c = true := by
  cases h with
  | three _ _ hc | four _ _ hc => exact hc

theorem Sequence.fourth {lead b c d : UInt8} {more : List UInt8} {n : Nat}
    (h : Sequence (lead :: b :: c :: d :: more) n) : isContinuation d = true := by
  cases h with
  | four _ _ _ hd => exact hd

theorem width_cases (lead : UInt8) :
    width lead = 1 ∨ width lead = 2 ∨ width lead = 3 ∨ width lead = 4 := by
  unfold width
  grind

theorem lead_of_width {lead : UInt8} (h : 1 < width lead) : 0x80 ≤ lead.toNat := by
  unfold width at h
  grind

section Fronts

variable {lead b c d : UInt8} {rest : List UInt8}

/-- A byte that begins a character, and nothing goes on with it. -/
theorem front_of_lead (hlead : 0x80 ≤ lead.toNat)
    (hnext : ∀ b later, rest = b :: later → 1 < width lead → isSecond lead b = false) :
    Front (lead :: rest) none rest := by
  have hwidth := width_cases lead
  have hshort : width lead = 1 ∨ ([] : List UInt8).length + 1 < width lead := by
    rw [List.length_nil]
    omega
  refine .broken (broken_of hlead hshort (.inl rfl) ?_)
  intro b later hrest hbegins
  obtain ⟨more, n, h⟩ := hbegins.exists_sequence
  obtain ⟨hmany, hsecond⟩ := h.second
  rw [hnext b later hrest hmany] at hsecond
  cases hsecond

theorem front_of_second (hlead : 2 < width lead) (hb : isSecond lead b = true)
    (hnext : ∀ c later, rest = c :: later → isContinuation c = false) :
    Front (lead :: b :: rest) none rest := by
  -- continuation bytes would complete the character
  have hbegins : Begins [lead, b] := by
    rcases width_cases lead with hw | hw | hw | hw
    · omega
    · omega
    · have h : Sequence ([lead, b] ++ [0x80]) _ := .three hw hb (by decide) rfl
      exact h.begins
    · have h : Sequence ([lead, b] ++ [0x80, 0x80]) _ := .four hw hb (by decide) (by decide) rfl
      exact h.begins
  have hshort : [b].length + 1 < width lead := hlead
  refine .broken (broken_of (lead_of_width (by omega)) (.inr hshort) (.inr hbegins) ?_)
  intro c later hrest hlonger
  obtain ⟨more, n, h⟩ := hlonger.exists_sequence
  have hc := h.third
  rw [hnext c later hrest] at hc
  cases hc

theorem front_of_third (hlead : width lead = 4) (hb : isSecond lead b = true)
    (hc : isContinuation c = true) (hnext : ∀ d later, rest = d :: later → isContinuation d = false) :
    Front (lead :: b :: c :: rest) none rest := by
  have hbegins : Begins [lead, b, c] := by
    have h : Sequence ([lead, b, c] ++ [0x80]) _ := .four hlead hb hc (by decide) rfl
    exact h.begins
  have hshort : [b, c].length + 1 < width lead := by
    rw [hlead]
    exact Nat.lt_succ_self 3
  refine .broken (broken_of (lead_of_width (by omega)) (.inr hshort) (.inr hbegins) ?_)
  intro d later hrest hlonger
  obtain ⟨more, n, h⟩ := hlonger.exists_sequence
  have hd := h.fourth
  rw [hnext d later hrest] at hd
  cases hd

theorem front_next_three (hwidth : width lead = 3) (hb : isSecond lead b = true) :
    Front (lead :: b :: rest) (next lead (b :: rest)).1 (next lead (b :: rest)).2 := by
  rcases rest with _ | ⟨c, r⟩
  · have hnext : next lead [b] = (none, []) := by simp [next, hwidth, hb]
    rw [hnext]
    exact front_of_second (by omega) hb nofun
  by_cases hc : isContinuation c = true
  · have hnext : next lead (b :: c :: r) =
        (some (Char.ofNat (extend (extend (lead.toNat % 16) b) c)), r) := by
      simp [next, hwidth, hb, hc]
    rw [hnext]
    exact (Sequence.three hwidth hb hc rfl).front r
  · have hnext : next lead (b :: c :: r) = (none, c :: r) := by simp [next, hwidth, hb, hc]
    rw [hnext]
    exact front_of_second (by omega) hb (fun x _ h => by cases h; simpa using hc)

theorem front_next_four (hwidth : width lead = 4) (hb : isSecond lead b = true) :
    Front (lead :: b :: rest) (next lead (b :: rest)).1 (next lead (b :: rest)).2 := by
  rcases rest with _ | ⟨c, r⟩
  · have hnext : next lead [b] = (none, []) := by simp [next, hwidth, hb]
    rw [hnext]
    exact front_of_second (by omega) hb nofun
  by_cases hc : isContinuation c = true
  · rcases r with _ | ⟨d, r⟩
    · have hnext : next lead [b, c] = (none, []) := by simp [next, hwidth, hb, hc]
      rw [hnext]
      exact front_of_third hwidth hb hc nofun
    by_cases hd : isContinuation d = true
    · have hnext : next lead (b :: c :: d :: r) =
          (some (Char.ofNat (extend (extend (extend (lead.toNat % 8) b) c) d)), r) := by
        simp [next, hwidth, hb, hc, hd]
      rw [hnext]
      exact (Sequence.four hwidth hb hc hd rfl).front r
    · have hnext : next lead (b :: c :: d :: r) = (none, d :: r) := by
        simp [next, hwidth, hb, hc, hd]
      rw [hnext]
      exact front_of_third hwidth hb hc (fun x _ h => by cases h; simpa using hd)
  · have hnext : next lead (b :: c :: r) = (none, c :: r) := by simp [next, hwidth, hb, hc]
    rw [hnext]
    exact front_of_second (by omega) hb (fun x _ h => by cases h; simpa using hc)

end Fronts

/-- **What `next` finds is in front of the bytes.** -/
theorem front_next (lead : UInt8) (rest : List UInt8) :
    Front (lead :: rest) (next lead rest).1 (next lead rest).2 := by
  by_cases hascii : lead.toNat < 0x80
  · have hwidth : width lead = 1 := by unfold width; grind
    have hnext : next lead rest = (some (Char.ofNat lead.toNat), rest) := by simp [next, hwidth, hascii]
    rw [hnext]
    exact (Sequence.one hascii rfl).front rest
  have hlead : 0x80 ≤ lead.toNat := by omega
  -- every other lead asks for as many bytes as its width says, the second in a range of its own
  rcases rest with _ | ⟨b, r⟩
  · have hnext : next lead [] = (none, []) := by simp [next, hascii]
    rw [hnext]
    exact front_of_lead hlead nofun
  by_cases hone : width lead = 1
  · have hnext : next lead (b :: r) = (none, b :: r) := by simp [next, hone, hascii]
    rw [hnext]
    exact front_of_lead hlead (fun _ _ _ hmany => by omega)
  by_cases hb : isSecond lead b = true
  · rcases width_cases lead with hwidth | hwidth | hwidth | hwidth
    · exact absurd hwidth hone
    · have hnext : next lead (b :: r) = (some (Char.ofNat (extend (lead.toNat % 32) b)), r) := by
        simp [next, hwidth, hb]
      rw [hnext]
      exact (Sequence.two hwidth hb rfl).front r
    · exact front_next_three hwidth hb
    · exact front_next_four hwidth hb
  · have hnext : next lead (b :: r) = (none, b :: r) := by
      rcases width_cases lead with hwidth | hwidth | hwidth | hwidth
      all_goals simp [next, hwidth, hb, hascii]
    rw [hnext]
    exact front_of_lead hlead (fun x _ h _ => by cases h; simpa using hb)

/-! ## Lossy decoding -/

theorem Broken.not_begins {bad rest more : List UInt8} (h : Broken bad rest) (hmore : more ≠ [])
    (hrest : more <+: rest) : ¬ Begins (bad ++ more) := by
  rintro ⟨c, hc⟩
  obtain ⟨later, rfl⟩ := hrest
  cases more with
  | nil => exact hmore rfl
  | cons b others =>
    refine h.longest b (others ++ later) rfl ⟨c, List.IsPrefix.trans ⟨others, ?_⟩ hc⟩
    rw [List.append_assoc]
    rfl

theorem Broken.length_pos {bad rest : List UInt8} (h : Broken bad rest) : 0 < bad.length := by
  rcases h.begins with hone | ⟨hne, -⟩
  · omega
  · exact List.length_pos_iff.mpr hne

theorem Broken.eq_nil {bad more rest : List UInt8} (h : Broken bad (more ++ rest))
    (h' : Broken (bad ++ more) rest) : more = [] := by
  rcases h'.begins with hone | ⟨-, hbegins⟩
  · -- there is no room for more in a single byte
    have hbad := h.length_pos
    rw [List.length_append] at hone
    exact List.eq_nil_of_length_eq_zero (by omega)
  · refine Decidable.byContradiction fun hmore => ?_
    exact h.not_begins hmore (List.prefix_append more rest) hbegins

theorem Broken.unique {bad rest bad' rest' : List UInt8} (h : Broken bad rest) (h' : Broken bad' rest')
    (hsame : bad ++ rest = bad' ++ rest') : bad = bad' ∧ rest = rest' := by
  rcases List.append_eq_append_iff.mp hsame with ⟨more, rfl, rfl⟩ | ⟨more, rfl, rfl⟩
  · obtain rfl := h.eq_nil h'
    exact ⟨(List.append_nil _).symm, rfl⟩
  · obtain rfl := h'.eq_nil h
    exact ⟨List.append_nil _, rfl⟩

theorem decodeLossy_cons (b : UInt8) (rest : List UInt8) :
    decodeLossy (b :: rest) = ((next b rest).1.getD replacement) :: decodeLossy (next b rest).2 := by
  rw [decodeLossy, pieces_cons]
  rfl

theorem decodeLossy_character (c : Char) (rest : List UInt8) :
    decodeLossy (String.utf8EncodeChar c ++ rest) = c :: decodeLossy rest := by
  rw [decodeLossy, pieces_encodeChar]
  rfl

theorem Broken.decodeLossy_eq {bad rest : List UInt8} (h : Broken bad rest) :
    decodeLossy (bad ++ rest) = replacement :: decodeLossy rest := by
  cases hbytes : bad ++ rest with
  | nil =>
    have hbad := h.length_pos
    rw [(List.append_eq_nil_iff.mp hbytes).1] at hbad
    cases hbad
  | cons b behind =>
    have hfront := front_next b behind
    rw [decodeLossy_cons]
    generalize next b behind = found at hfront ⊢
    obtain ⟨c?, left⟩ := found
    rw [← hbytes] at hfront
    dsimp only at hfront ⊢
    generalize hsame : bad ++ rest = bytes at hfront
    -- what is found there is broken as well, and only one run is
    cases hfront with
    | character c => exact absurd ⟨_, hsame.symm⟩ (h.no_character c)
    | broken hbad =>
      obtain ⟨-, rfl⟩ := h.unique hbad hsame
      rfl

/-- **Lossy decoding** gives each character for its bytes and one replacement character for each run that
is broken. -/
theorem lossy_iff {bytes : List UInt8} {text : List Char} :
    Lossy bytes text ↔ decodeLossy bytes = text := by
  constructor
  · intro h
    induction h with
    | nil => simp [decodeLossy, pieces]
    | character c _ ih => rw [decodeLossy_character, ih]
    | broken hbad _ ih => rw [hbad.decodeLossy_eq, ih]
  · -- the bytes are followed as the decoder takes them
    rintro rfl
    induction bytes using pieces.induct with
    | case1 =>
      rw [decodeLossy, pieces]
      exact .nil
    | case2 b rest ih =>
      rw [decodeLossy_cons]
      have hfront := front_next b rest
      generalize next b rest = found at hfront ih ⊢
      obtain ⟨c?, left⟩ := found
      dsimp only at hfront ih ⊢
      generalize b :: rest = bytes at hfront
      cases hfront with
      | character c => exact .character c ih
      | broken hbad => exact .broken hbad ih

theorem not_mem_of_lossy {bytes : List UInt8} {text : List Char} (h : Lossy bytes text)
    (hbytes : 0 ∉ bytes) : '\x00' ∉ text := by
  induction h with
  | nil => simp
  | character c _ ih =>
    rw [List.mem_append, not_or] at hbytes
    rw [List.mem_cons, not_or]
    refine ⟨?_, ih hbytes.2⟩
    rintro rfl
    exact hbytes.1 (by decide)
  | broken _ _ ih =>
    rw [List.mem_append, not_or] at hbytes
    rw [List.mem_cons, not_or]
    exact ⟨by decide, ih hbytes.2⟩

end Vocoder.Utf8
