/-!
# Fields of a text

A text is cut into fields at a separator. There is always one field more than there are separators, so
that cutting loses nothing: `join_fields` puts the fields together again.
-/

namespace Vocoder

/-- The parts of a text between separators; there is always one more than separators. -/
def fields (separator : Char) : List Char → List (List Char)
  | [] => [[]]
  | c :: rest =>
    if c = separator then [] :: fields separator rest
    else
      match fields separator rest with
      | [] => [[c]]
      | first :: others => (c :: first) :: others

theorem fields_ne_nil (separator : Char) (cs : List Char) : fields separator cs ≠ [] := by
  cases cs with
  | nil => simp [fields]
  | cons c rest =>
    unfold fields
    split
    · simp
    · split <;> simp

/-- Fields between separators are the text they were cut from. -/
theorem join_fields (separator : Char) (cs : List Char) :
    [separator].intercalate (fields separator cs) = cs := by
  induction cs with
  | nil => rfl
  | cons c rest ih =>
    have hne := fields_ne_nil separator rest
    unfold fields
    split
    · rename_i h
      subst h
      cases hf : fields c rest with
      | nil => exact absurd hf hne
      | cons first others => simpa [List.intercalate, hf] using ih
    · cases hf : fields separator rest with
      | nil => exact absurd hf hne
      | cons first others =>
        cases others <;> simpa [List.intercalate, hf] using ih

end Vocoder
