import Vocoder.Reader

/-!
# Lines that a reader cannot tell apart

A reader prepares its line and reads from it, and nothing else. So if two kinds of lines correspond in
such a way that preparing and reading give the same results and keep the correspondence, a reader comes
to the same result on both and holds the same packet (`Reader.receive_alike`). The two loops of the
reader are followed once, here.
-/

namespace Vocoder

variable {L M : Type}

/-- Reading corresponding lines gives the same and keeps them in correspondence. -/
structure Line.ReadsAlike [Line L] [Line M] (R : L → M → Prop) : Prop where
  read : ∀ {l l' m n x}, R l m → Line.read l n = (x, l') → ∃ m', Line.read m n = (x, m') ∧ R l' m'

/-- Preparing corresponding lines gives the same, too, and keeps them in correspondence. -/
structure Line.Alike [Line L] [Line M] (R : L → M → Prop) : Prop extends Line.ReadsAlike R where
  prepare : ∀ {l l' m x}, R l m → Line.prepare l = (x, l') → ∃ m', Line.prepare m = (x, m') ∧ R l' m'

namespace Reader

variable [Line L] [Line M] {R : L → M → Prop}

/-- The search for a marker, by induction on what the first line still has to give. -/
theorem seekMarker_alike (A : Line.ReadsAlike R) (timeoutMs : Nat) :
    ∀ {l l' : L} {m : M} {x}, R l m → seekMarker timeoutMs l = (x, l') →
      ∃ m', seekMarker timeoutMs m = (x, m') ∧ R l' m' := by
  intro l
  induction hsize : (Line.readable l).length using Nat.strongRecOn generalizing l with
  | ind size ih =>
    intro l' m x hR hseek
    rcases hread : Line.read l 1 with ⟨result, l₁⟩
    obtain ⟨m₁, hread', hR₁⟩ := A.read hR hread
    rcases result with f | (_ | ⟨b, bs⟩)
    · rw [seekMarker_of_error hread] at hseek
      cases hseek
      exact ⟨m₁, seekMarker_of_error hread', hR₁⟩
    · rw [seekMarker_of_nil hread] at hseek
      cases hseek
      exact ⟨m₁, seekMarker_of_nil hread', hR₁⟩
    · -- a byte came on both lines: it ends the search, or less is left to search than before
      rw [seekMarker_of_cons hread] at hseek
      rw [seekMarker_of_cons hread']
      by_cases hb : b = startMarker
      · rw [if_pos hb] at hseek ⊢
        cases hseek
        exact ⟨m₁, rfl, hR₁⟩
      · rw [if_neg hb] at hseek ⊢
        by_cases ht : timeoutMs = 0
        · rw [if_pos ht] at hseek ⊢
          cases hseek
          exact ⟨m₁, rfl, hR₁⟩
        · rw [if_neg ht] at hseek ⊢
          have hless := Line.readable_lt_of_read hread
          exact ih _ (by omega) rfl hR₁ hseek

/-- Gathering, by induction on what is missing. -/
theorem gather_alike (A : Line.ReadsAlike R) (stage : Stage) (target : Nat) :
    ∀ (held : List UInt8) {held' : List UInt8} {l l' : L} {m : M} {x}, R l m →
      gather stage target held l = (x, held', l') →
      ∃ m', gather stage target held m = (x, held', m') ∧ R l' m' := by
  intro held
  induction hmissing : target - held.length using Nat.strongRecOn generalizing held with
  | ind missing ih =>
    intro held' l l' m x hR hgather
    rw [gather] at hgather ⊢
    by_cases hlen : held.length < target
    · rw [if_pos hlen] at hgather ⊢
      rcases hread : Line.read l (target - held.length) with ⟨result, l₁⟩
      obtain ⟨m₁, hread', hR₁⟩ := A.read hR hread
      rw [hread] at hgather
      rw [hread']
      rcases result with f | (_ | ⟨b, bs⟩)
      · cases hgather
        exact ⟨m₁, rfl, hR₁⟩
      · cases hgather
        exact ⟨m₁, rfl, hR₁⟩
      · -- a piece came on both lines: less is missing than before
        have hless : target - (held ++ b :: bs).length < missing := by
          rw [List.length_append, List.length_cons]
          omega
        exact ih _ hless _ rfl hR₁ hgather
    · rw [if_neg hlen] at hgather ⊢
      cases hgather
      exact ⟨m, rfl, hR⟩

theorem completePacket_alike (A : Line.ReadsAlike R) (field : LengthField) {held : List UInt8} {l l' : L}
    {m : M} {x} (hR : R l m) (hpacket : completePacket field l = (x, held, l')) :
    ∃ m', completePacket field m = (x, held, m') ∧ R l' m' := by
  rw [completePacket] at hpacket ⊢
  rcases hheader : gather .packetHeader headerLength [startMarker] l with ⟨result, header, l₁⟩
  obtain ⟨m₁, hheader', hR₁⟩ := gather_alike A _ _ _ hR hheader
  rw [hheader] at hpacket
  rw [hheader']
  cases result with
  | error f =>
    cases hpacket
    exact ⟨m₁, rfl, hR₁⟩
  | ok _ =>
    dsimp only at hpacket ⊢
    by_cases hsize : maxPacketLength < field.total header
    · rw [if_pos hsize] at hpacket ⊢
      cases hpacket
      exact ⟨m₁, rfl, hR₁⟩
    · -- both headers are the same, so the payload has the same length on both lines
      rw [if_neg hsize] at hpacket ⊢
      rcases hpayload : gather .packetPayload (field.total header) header l₁ with
        ⟨result, packet, l₂⟩
      obtain ⟨m₂, hpayload', hR₂⟩ := gather_alike A _ _ _ hR₁ hpayload
      rw [hpayload] at hpacket
      rw [hpayload']
      cases result with
      | error f =>
        cases hpacket
        exact ⟨m₂, rfl, hR₂⟩
      | ok _ =>
        cases hpacket
        exact ⟨m₂, rfl, hR₂⟩

/-- **A reader cannot tell corresponding lines apart.** -/
theorem receive_alike (A : Line.Alike R) {r r' : Reader} {l l' : L} {m : M} {x} (hR : R l m)
    (hreceive : r.receive l = (x, r', l')) : ∃ m', r.receive m = (x, r', m') ∧ R l' m' := by
  rw [receive] at hreceive ⊢
  rcases hprepare : Line.prepare l with ⟨result, l₁⟩
  obtain ⟨m₁, hprepare', hR₁⟩ := A.prepare hR hprepare
  rw [hprepare] at hreceive
  rw [hprepare']
  cases result with
  | error f =>
    cases hreceive
    exact ⟨m₁, rfl, hR₁⟩
  | ok _ =>
    dsimp only at hreceive ⊢
    rcases hseek : seekMarker r.timeoutMs l₁ with ⟨result, l₂⟩
    obtain ⟨m₂, hseek', hR₂⟩ := seekMarker_alike A.toReadsAlike _ hR₁ hseek
    rw [hseek] at hreceive
    rw [hseek']
    cases result with
    | error f =>
      cases hreceive
      exact ⟨m₂, rfl, hR₂⟩
    | ok _ =>
      dsimp only at hreceive ⊢
      rcases hpacket : completePacket r.lengthField l₂ with ⟨result, held, l₃⟩
      obtain ⟨m₃, hpacket', hR₃⟩ := completePacket_alike A.toReadsAlike _ hR₂ hpacket
      rw [hpacket] at hreceive
      rw [hpacket']
      cases hreceive
      exact ⟨m₃, rfl, hR₃⟩

end Reader

end Vocoder
