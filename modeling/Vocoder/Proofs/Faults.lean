import Vocoder.Link
import Vocoder.Proofs.Metered
import Vocoder.Proofs.Recording

/-!
# Faults of lines

Each operation of a line fails in ways of its own, and a reader adds that a packet does not come in time or
is too long. None of these is a fault that a session finds.

* **`Line.Candid`** — the faults of a line are those of its operations. Every `Link` is of this kind, and
  **`Link.fault_of_write`** says it of its writes.
* **`Reader.fault_of_receive`** — no receive reports a fault of a session.
* **`Metered.recording`** — so a meter keeps what was written to such a line, in full or not.
-/

namespace Vocoder

namespace Fault

def IsOfPrepare : Fault → Prop
  | closed | noMessage => True
  | _ => False

def IsOfRead : Fault → Prop
  | closed | read _ => True
  | _ => False

def IsOfWrite : Fault → Prop
  | closed | write _ => True
  | _ => False

variable {f : Fault}

theorem IsOfPrepare.not_isOfSession (h : f.IsOfPrepare) : ¬ f.IsOfSession := by
  cases f <;> first | exact h.elim | exact id

theorem IsOfRead.not_isOfSession (h : f.IsOfRead) : ¬ f.IsOfSession := by
  cases f <;> first | exact h.elim | exact id

theorem IsOfWrite.not_isOfSession (h : f.IsOfWrite) : ¬ f.IsOfSession := by
  cases f <;> first | exact h.elim | exact id

end Fault

/-- A kind of line each of whose operations fails in its own ways only. -/
class Line.Candid (L : Type) [Line L] : Prop where
  prepare : ∀ {l : L} {f : Fault}, (Line.prepare l).1 = .error f → f.IsOfPrepare
  read : ∀ {l : L} {n : Nat} {f : Fault}, (Line.read l n).1 = .error f → f.IsOfRead
  write : ∀ {l : L} {bytes : List UInt8} {f : Fault}, (Line.write l bytes).1 = .error f → f.IsOfWrite

/-! ## The lines there are -/

instance : Line.Candid BenchLine where
  prepare {l f} h := by
    have h : (l.prepare).1 = .error f := h
    unfold BenchLine.prepare at h
    split at h <;> cases h
    trivial
  read {l n f} h := by
    have h : (l.read n).1 = .error f := h
    unfold BenchLine.read at h
    split at h
    · cases h
      trivial
    · split at h <;> cases h
      trivial
  write {l bytes f} h := by
    have h : (l.write bytes).1 = .error f := h
    unfold BenchLine.write at h
    split at h
    · cases h
      trivial
    · split at h <;> cases h
      trivial

instance : Line.Candid DatagramLine where
  prepare {l f} h := by
    have h : (l.prepare).1 = .error f := h
    unfold DatagramLine.prepare at h
    dsimp only at h
    split at h
    · split at h <;> cases h <;> trivial
    · cases h
      trivial
  read {l n f} h := by
    have h : (l.read n).1 = .error f := h
    unfold DatagramLine.read at h
    split at h <;> cases h
    trivial
  write {l bytes f} h := by
    have h : (l.write bytes).1 = .error f := h
    unfold DatagramLine.write at h
    split at h
    · split at h <;> cases h
      trivial
    · cases h
      trivial

instance : Line.Candid SerialLine where
  prepare h := by cases h
  read {l n f} h := by
    have h : (l.read n).1 = .error f := h
    unfold SerialLine.read at h
    split at h
    · cases h
      trivial
    · split at h <;> cases h
      trivial
  write {l bytes f} h := by
    have h : (l.write bytes).1 = .error f := h
    unfold SerialLine.write at h
    split at h
    · cases h
      trivial
    · split at h <;> cases h
      trivial

instance : Line.Candid DatagramDevice where
  prepare {d f} h := Line.Candid.prepare (l := d.line) h
  read {d n f} h := Line.Candid.read (l := d.line) h
  write {d bytes f} h := by
    have h : (d.write bytes).1 = .error f := h
    refine Line.Candid.write (l := d.line) (show (d.line.write bytes).1 = .error f from ?_)
    unfold DatagramDevice.write at h
    rcases hwrite : d.line.write bytes with ⟨_ | _, l⟩
    all_goals rw [hwrite] at h
    · exact h
    · dsimp only at h
      split at h <;> cases h

instance : Line.Candid SerialDevice where
  prepare h := by cases h
  read {d n f} h := Line.Candid.read (l := d.line) h
  write {d bytes f} h := by
    have h : (d.write bytes).1 = .error f := h
    refine Line.Candid.write (l := d.line) (show (d.line.write bytes).1 = .error f from ?_)
    unfold SerialDevice.write at h
    rcases hwrite : d.line.write bytes with ⟨_ | _, l⟩
    all_goals rw [hwrite] at h
    · exact h
    · cases h

instance : Line.Candid Link where
  prepare {l f} h := by
    cases l with
    | bench l | datagram l | datagramDevice l | serialDevice l =>
      exact Line.Candid.prepare (l := l) h
  read {l n f} h := by
    cases l with
    | bench l | datagram l | datagramDevice l | serialDevice l =>
      exact Line.Candid.read (l := l) h
  write {l bytes f} h := by
    cases l with
    | bench l | datagram l | datagramDevice l | serialDevice l =>
      exact Line.Candid.write (l := l) h

/-- A link that refuses a write is closed, or the write failed. -/
theorem Link.fault_of_write {l l' : Link} {bytes : List UInt8} {f : Fault}
    (h : Line.write l bytes = (.error f, l')) : f = .closed ∨ ∃ cause, f = .write cause := by
  have hwrite : f.IsOfWrite := Line.Candid.write (congrArg Prod.fst h)
  cases f with
  | closed => exact .inl rfl
  | write cause => exact .inr ⟨cause, rfl⟩
  | _ => exact hwrite.elim

/-! ## What a session hears of them -/

section Candid

variable {L : Type} [Line L] [Line.Candid L] {f : Fault}

theorem Line.fault_of_send {l l' : L} {bytes : List UInt8} (h : Line.send l bytes = (.error f, l')) :
    ¬ f.IsOfSession := by
  unfold Line.send at h
  rcases hwrite : Line.write l bytes with ⟨g | n, l₁⟩
  all_goals rw [hwrite] at h
  · cases h
    exact (Line.Candid.write (congrArg Prod.fst hwrite)).not_isOfSession
  · dsimp only at h
    split at h <;> cases h
    exact id

namespace Reader

theorem fault_of_seekMarker {timeoutMs : Nat} : ∀ {l l' : L},
    seekMarker timeoutMs l = (.error f, l') → ¬ f.IsOfSession := by
  intro l
  -- induction on what the line still has to give
  induction hsize : (Line.readable l).length using Nat.strongRecOn generalizing l with
  | ind size ih =>
    intro l' h
    rcases hread : Line.read l 1 with ⟨_ | _ | ⟨b, bs⟩, l₁⟩
    · rw [seekMarker_of_error hread] at h
      cases h
      exact (Line.Candid.read (congrArg Prod.fst hread)).not_isOfSession
    · rw [seekMarker_of_nil hread] at h
      cases h
      exact id
    · rw [seekMarker_of_cons hread] at h
      split at h
      · cases h
      · split at h
        · cases h
          exact id
        · have hless := Line.readable_lt_of_read hread
          exact ih _ (by omega) rfl h

theorem fault_of_gather {stage : Stage} {target : Nat} : ∀ {held held' : List UInt8} {l l' : L},
    gather stage target held l = (.error f, held', l') → ¬ f.IsOfSession := by
  intro held
  -- induction on what is missing
  induction hmissing : target - held.length using Nat.strongRecOn generalizing held with
  | ind missing ih =>
    intro held' l l' h
    unfold gather at h
    split at h
    · rcases hread : Line.read l (target - held.length) with ⟨_ | _ | ⟨b, bs⟩, l₁⟩
      all_goals rw [hread] at h
      · cases h
        exact (Line.Candid.read (congrArg Prod.fst hread)).not_isOfSession
      · cases h
        exact id
      · have hless : target - (held ++ b :: bs).length < missing := by
          rw [List.length_append, List.length_cons]
          omega
        exact ih _ hless rfl h
    · cases h

theorem fault_of_receive {r r' : Reader} {l l' : L} (h : r.receive l = (.error f, r', l')) :
    ¬ f.IsOfSession := by
  unfold receive at h
  rcases hprepare : Line.prepare l with ⟨_ | _, l₁⟩
  all_goals rw [hprepare] at h
  · cases h
    exact (Line.Candid.prepare (congrArg Prod.fst hprepare)).not_isOfSession
  · dsimp only at h
    rcases hseek : seekMarker r.timeoutMs l₁ with ⟨_ | _, l₂⟩
    all_goals rw [hseek] at h
    · cases h
      exact fault_of_seekMarker hseek
    · dsimp only [completePacket] at h
      rcases hheader : gather .packetHeader headerLength [startMarker] l₂ with ⟨_ | _, header, l₃⟩
      all_goals rw [hheader] at h
      · cases h
        exact fault_of_gather hheader
      · dsimp only at h
        by_cases hlong : maxPacketLength < r.lengthField.total header
        · rw [if_pos hlong] at h
          cases h
          exact id
        · rw [if_neg hlong] at h
          rcases hpayload : gather .packetPayload (r.lengthField.total header) header l₃ with
            ⟨_ | _, whole, l₄⟩
          all_goals rw [hpayload] at h
          · cases h
            exact fault_of_gather hpayload
          · cases h

end Reader

/-- A meter keeps what was written, whether the line took it or not. -/
instance Metered.recording : Recording (Metered L) where
  taken m := m.writings.map Writing.bytes
  Accepts _ := True
  send_spec := by
    intro m m' bytes x _ hs
    rcases hline : Line.send m.line bytes with ⟨y, l⟩
    rw [Metered.send_eq hline] at hs
    cases hs
    refine ⟨by simp, trivial, ?_⟩
    rintro f rfl
    exact Line.fault_of_send hline
  receive_spec := by
    intro m m' r r' x _ hs
    rcases hline : r.receive m.line with ⟨y, r₁, l⟩
    rw [Metered.receive_eq hline] at hs
    cases hs
    refine ⟨rfl, trivial, ?_⟩
    rintro f rfl
    exact Reader.fault_of_receive hline

end Candid

end Vocoder
