import Mathlib
import Vocoder.Proofs.Handshake
import Vocoder.Proofs.Stream

/-!
# Nothing is lost

Receives take bytes off a stream, in their order: first those that are dropped on the way to a start
marker, then those of the packet, or as much of it as there is. Whatever comes of a receive, these are all
the bytes it takes.

* **`Cut.first_taken`** — the bytes cut off a string are noise, and then what is held.
* **`Polled.receive_spent`** — on any line a receive ends: there are no more reads than bytes, and one.
* **`Reader.Takes`** — what one receive does to the bytes of a stream, and `Reader.takes_of_streams` that
  it does.
* **`Reader.receives_conserve`** — over many receives: the bytes are conserved, and they run out.
-/

namespace Vocoder

open FlowingLine StreamLine

/-! ## What is cut off -/

namespace Cut

variable {field : LengthField} {timeoutMs : Nat} {bytes behind : List UInt8}

/-- **What is cut off is noise and then what is held.** -/
theorem first_taken (field : LengthField) (ht : 0 < timeoutMs) (bytes : List UInt8) :
    ∃ k, (first field timeoutMs bytes).consumed = (bytes.takeWhile (· ≠ startMarker)).length + k ∧
      (first field timeoutMs bytes).held = (bytes.dropWhile (· ≠ startMarker)).take k := by
  have hfinds := finds_first field timeoutMs bytes
  generalize first field timeoutMs bytes = cut at hfinds
  cases hfinds with
  | hurried ht' => omega
  | nothing hnoise =>
    have hall : bytes.takeWhile (· ≠ startMarker) = bytes :=
      List.takeWhile_eq_self_iff.mpr (ne_of_not_mem hnoise)
    rw [hall]
    exact ⟨0, rfl, rfl⟩
  | @marker noise behind hnoise =>
    rw [takeWhile_marker hnoise, dropWhile_marker hnoise]
    obtain ⟨k, -, -, hconsumed, hheld⟩ := packet_taken field noise.length behind
    exact ⟨k, hconsumed, hheld⟩

/-- So the noise, what is held and what is left are the bytes. -/
theorem first_conserves (field : LengthField) (ht : 0 < timeoutMs) (bytes : List UInt8) :
    bytes = bytes.takeWhile (· ≠ startMarker) ++ (first field timeoutMs bytes).held ++
      bytes.drop (first field timeoutMs bytes).consumed := by
  obtain ⟨k, hconsumed, hheld⟩ := first_taken field ht bytes
  have hsplit := List.takeWhile_append_dropWhile (p := (· ≠ startMarker)) (l := bytes)
  have hbehind : (bytes.takeWhile (· ≠ startMarker) ++ bytes.dropWhile (· ≠ startMarker)).drop
      (bytes.takeWhile (· ≠ startMarker)).length = bytes.dropWhile (· ≠ startMarker) := List.drop_left
  rw [hsplit] at hbehind
  rw [hconsumed, hheld, ← List.drop_drop, hbehind, List.append_assoc, List.take_append_drop, hsplit]

/-- A cut that does not run into a timeout takes a whole header at least. -/
theorem headerLength_le_consumed
    (h : ∀ stage, (first field timeoutMs bytes).result ≠ .error (.timeout stage)) :
    headerLength ≤ (first field timeoutMs bytes).consumed := by
  have hfinds := finds_first field timeoutMs bytes
  generalize first field timeoutMs bytes = cut at h hfinds
  cases hfinds with
  | hurried _ | nothing _ => exact absurd rfl (h _)
  | marker behind _ =>
    obtain ⟨hleast, -⟩ := packet_consumed_of_ne_timeout h
    omega

/-- Bytes are taken if there are some, also where there is no time. -/
theorem consumed_pos (field : LengthField) (timeoutMs : Nat) (h : bytes ≠ []) :
    0 < (first field timeoutMs bytes).consumed := by
  have hfinds := finds_first field timeoutMs bytes
  generalize first field timeoutMs bytes = cut at hfinds
  cases hfinds with
  | hurried _ => exact Nat.one_pos
  | nothing _ => exact List.length_pos_iff.mpr h
  | @marker noise behind _ =>
    obtain ⟨k, hk, -, hconsumed, -⟩ := packet_taken field noise.length behind
    omega

end Cut

/-! ## How often a line is read -/

/-- A line that counts how often it is read. -/
structure Polled (L : Type) where
  line : L
  polls : Nat := 0
  deriving DecidableEq, Repr

namespace Polled

variable {L : Type} [Line L]

instance : Line (Polled L) where
  prepare m := ((Line.prepare m.line).1, { m with line := (Line.prepare m.line).2 })
  read m n := ((Line.read m.line n).1, { line := (Line.read m.line n).2, polls := m.polls + 1 })
  write m bytes := ((Line.write m.line bytes).1, { m with line := (Line.write m.line bytes).2 })
  close m := { m with line := Line.close m.line }
  readable m := Line.readable m.line
  read_ok h := by
    obtain ⟨hr, hl⟩ := Prod.mk.inj h
    subst hl
    exact Line.read_ok (Prod.ext hr rfl)

theorem alike : Line.Alike fun (l : L) (m : Polled L) => m.line = l where
  read := by
    rintro l l' m n x rfl h
    have hread : Line.read m n =
        ((Line.read m.line n).1, { line := (Line.read m.line n).2, polls := m.polls + 1 }) := rfl
    exact ⟨{ line := l', polls := m.polls + 1 }, by rw [hread, h], rfl⟩
  prepare := by
    rintro l l' m x rfl h
    have hprepare : Line.prepare m =
        ((Line.prepare m.line).1, { m with line := (Line.prepare m.line).2 }) := rfl
    exact ⟨{ m with line := l' }, by rw [hprepare, h], rfl⟩

/-- What is read so often from one state of a line to another: once for each byte at most, and once more
where it fails. -/
def Spent {α : Type} (m : Polled L) (x : Except Fault α) (m' : Polled L) : Prop :=
  match x with
  | .ok _ => m'.polls + (Line.readable m').length ≤ m.polls + (Line.readable m).length
  | .error _ => m'.polls ≤ m.polls + (Line.readable m).length + 1

namespace Spent

variable {α β : Type} {m m₁ m' : Polled L} {n : Nat}

theorem of_read_cons {b : UInt8} {bs : List UInt8} (h : Line.read m n = (.ok (b :: bs), m')) :
    Spent m (.ok ()) m' := by
  have hpolls : m.polls + 1 = m'.polls := congrArg (fun y => y.2.polls) h
  have hless := Line.readable_lt_of_read h
  show m'.polls + _ ≤ _
  omega

theorem of_last {x : Except Fault (List UInt8)} (f : Fault) (h : Line.read m n = (x, m')) :
    Spent m (.error f : Except Fault α) m' := by
  have hpolls : m.polls + 1 = m'.polls := congrArg (fun y => y.2.polls) h
  show m'.polls ≤ _
  omega

theorem later {a : α} {x : Except Fault β} (h : Spent m (.ok a) m₁) (h' : Spent m₁ x m') :
    Spent m x m' := by
  cases x with
  | error f =>
    simp only [Spent] at h h' ⊢
    omega
  | ok b => exact Nat.le_trans h' h

/-- Whatever comes of it. -/
theorem le {x : Except Fault α} (h : Spent m x m') :
    m'.polls ≤ m.polls + (Line.readable m).length + 1 := by
  cases x with
  | error f => exact h
  | ok a =>
    simp only [Spent] at h
    omega

theorem fail {a : α} (h : Spent m (.ok a) m') (f : Fault) : Spent m (.error f : Except Fault β) m' :=
  h.le

theorem refl (m : Polled L) (a : α) : Spent m (.ok a) m :=
  Nat.le_refl _

end Spent

/-- The search for a marker, by induction on what there is to read. -/
theorem seekMarker_spent {timeoutMs : Nat} : ∀ {m m' : Polled L} {x : Except Fault Unit},
    Reader.seekMarker timeoutMs m = (x, m') → Spent m x m' := by
  intro m
  induction hsize : (Line.readable m).length using Nat.strongRecOn generalizing m with
  | ind size ih =>
    intro m' x h
    rcases hread : Line.read m 1 with ⟨f | _ | ⟨b, bs⟩, m₁⟩
    · rw [Reader.seekMarker_of_error hread] at h
      cases h
      exact .of_last f hread
    · rw [Reader.seekMarker_of_nil hread] at h
      cases h
      exact .of_last _ hread
    · have hone : Spent m (.ok ()) m₁ := .of_read_cons hread
      rw [Reader.seekMarker_of_cons hread] at h
      by_cases hb : b = startMarker
      · rw [if_pos hb] at h
        cases h
        exact hone
      · rw [if_neg hb] at h
        by_cases ht : timeoutMs = 0
        · rw [if_pos ht] at h
          cases h
          exact hone.fail _
        · rw [if_neg ht] at h
          have hless := Line.readable_lt_of_read hread
          exact hone.later (ih _ (by omega) rfl h)

/-- Gathering, by induction on what is missing. -/
theorem gather_spent {stage : Stage} {target : Nat} : ∀ {held held' : List UInt8} {m m' : Polled L}
    {x : Except Fault Unit}, Reader.gather stage target held m = (x, held', m') → Spent m x m' := by
  intro held
  induction hmissing : target - held.length using Nat.strongRecOn generalizing held with
  | ind missing ih =>
    intro held' m m' x h
    unfold Reader.gather at h
    split at h
    · rcases hread : Line.read m (target - held.length) with ⟨f | _ | ⟨b, bs⟩, m₁⟩
      all_goals rw [hread] at h
      · cases h
        exact .of_last f hread
      · cases h
        exact .of_last _ hread
      · have hless : target - (held ++ b :: bs).length < missing := by
          rw [List.length_append, List.length_cons]
          omega
        exact Spent.later (.of_read_cons hread) (ih _ hless rfl h)
    · cases h
      exact .refl m ()

theorem completePacket_spent {field : LengthField} {held : List UInt8} {m m' : Polled L}
    {x : Except Fault Response} (h : Reader.completePacket field m = (x, held, m')) : Spent m x m' := by
  unfold Reader.completePacket at h
  rcases hheader : Reader.gather .packetHeader headerLength [startMarker] m with ⟨f | _, header, m₁⟩
  all_goals
    have hfirst := gather_spent hheader
    rw [hheader] at h
  · cases h
    exact hfirst
  · dsimp only at h
    split at h
    · cases h
      exact hfirst.fail _
    · rcases hpayload : Reader.gather .packetPayload (field.total header) header m₁ with
        ⟨f | _, whole, m₂⟩
      all_goals
        have hsecond := hfirst.later (gather_spent hpayload)
        rw [hpayload] at h
        cases h
      · exact hsecond
      · exact hsecond.later (.refl _ _)

/-- **A receive ends.** It does on a line whose reads are counted what it does on the line, and there are
no more reads than there are bytes once the line is prepared, and one. -/
theorem receive_spent {r r' : Reader} {l l₁ l' : L} {x : Except Fault Response}
    (h : r.receive l = (x, r', l')) (hprepare : Line.prepare l = (.ok (), l₁)) :
    ∃ polls ≤ (Line.readable l₁).length + 1,
      r.receive ({ line := l } : Polled L) = (x, r', { line := l', polls := polls }) := by
  obtain ⟨m', hreceive, rfl⟩ := Reader.receive_alike alike (m := { line := l }) rfl h
  refine ⟨m'.polls, ?_, hreceive⟩
  have hprepare' : Line.prepare ({ line := l } : Polled L) = (.ok (), { line := l₁ }) := by
    show ((Line.prepare l).1, _) = _
    rw [hprepare]
  rw [Reader.receive, hprepare'] at hreceive
  dsimp only at hreceive
  have hspent : m'.polls ≤ 0 + (Line.readable l₁).length + 1 := by
    rcases hseek : Reader.seekMarker r.timeoutMs ({ line := l₁ } : Polled L) with ⟨f | _, m₂⟩
    all_goals
      have hfirst := seekMarker_spent hseek
      rw [hseek] at hreceive
    · cases hreceive
      exact hfirst
    · rcases hpacket : Reader.completePacket r.lengthField m₂ with ⟨y, held, m₃⟩
      dsimp only at hreceive
      rw [hpacket] at hreceive
      cases hreceive
      exact (hfirst.later (completePacket_spent hpacket)).le
  omega

end Polled

/-! ## Receives on a stream -/

namespace Reader

variable {L : Type} [Line L] [StreamLine L]

/-- What a receive does to the bytes of a stream, which holds and leaves so much. -/
structure Takes (r : Reader) (l : L) (x : Except Fault Response) (held : List UInt8) (l' : L) : Prop where
  outcome : r.receive l = (x, { r with held := held }, l')
  /-- It ends: there are no more reads than bytes, and one. -/
  ends : ∃ polls ≤ (Line.readable l).length + 1,
    r.receive ({ line := l } : Polled L) = (x, { r with held := held }, { line := l', polls := polls })
  /-- If there are bytes, some are taken. -/
  some_taken : Line.readable l ≠ [] → (Line.readable l').length < (Line.readable l).length
  /-- A header's worth is, if it does not run into a timeout. -/
  header_taken : (∀ stage, x ≠ .error (.timeout stage)) →
    (Line.readable l').length + headerLength ≤ (Line.readable l).length
  /-- All bytes are, if it does, unless there was no time at all. -/
  all_taken : 0 < r.timeoutMs → ∀ stage, x = .error (.timeout stage) → Line.readable l' = []
  /-- What is dropped on the way to a marker, what is held and what is left are the bytes. -/
  conserves : 0 < r.timeoutMs →
    Line.readable l = (Line.readable l).takeWhile (· ≠ startMarker) ++ held ++ Line.readable l'

theorem takes_of_streams (r : Reader) {l : L} (hl : Streams l) :
    ∃ x held l', Streams l' ∧ r.Takes l x held l' := by
  obtain ⟨l₁, hprepare, -, -, hsame⟩ := prepare_of_streams hl
  obtain ⟨l', hreceive, hl', hleft⟩ := r.receive_of_streams hl
  obtain ⟨polls, hpolls, hpolled⟩ := Polled.receive_spent hreceive hprepare
  have hle := Cut.first_consumed_le r.lengthField r.timeoutMs (Line.readable l)
  have hlength := congrArg List.length hleft
  rw [List.length_drop] at hlength
  rw [hsame] at hpolls
  refine ⟨_, _, l', hl', hreceive, ⟨polls, hpolls, hpolled⟩, ?_, ?_, ?_, ?_⟩
  · intro hne
    have hpos := Cut.consumed_pos r.lengthField r.timeoutMs hne
    omega
  · intro htimely
    have hheader := Cut.headerLength_le_consumed htimely
    omega
  · intro ht stage htimeout
    rw [hleft, Cut.first_consumed_of_timeout ht htimeout, List.drop_length]
  · intro ht
    rw [hleft]
    exact Cut.first_conserves r.lengthField ht (Line.readable l)

/-- The bytes that each of so many receives drops on its way to a marker. -/
def drops {L : Type} [Line L] (r : Reader) (l : L) : Nat → List (List UInt8)
  | 0 => []
  | n + 1 =>
    (Line.readable l).takeWhile (· ≠ startMarker) :: drops (r.receive l).2.1 (r.receive l).2.2 n

/-- What each of so many receives takes: what it drops and then what it holds. -/
def taken {L : Type} [Line L] (r : Reader) (l : L) (n : Nat) : List (List UInt8) :=
  List.zipWith (· ++ ·) (r.drops l n) ((r.receives l n).1.map Prod.snd)

theorem taken_succ {L : Type} [Line L] {r r₁ : Reader} {l l₁ : L} {x : Except Fault Response}
    (h : r.receive l = (x, r₁, l₁)) (n : Nat) :
    r.taken l (n + 1) =
      ((Line.readable l).takeWhile (· ≠ startMarker) ++ r₁.held) :: r₁.taken l₁ n := by
  rw [taken, taken, drops, receives, h]
  rfl

omit [StreamLine L] in
theorem Takes.of_held {r : Reader} {l l' : L} {x : Except Fault Response} {before held : List UInt8}
    (h : ({ r with held := before } : Reader).Takes l x held l') : r.Takes l x held l' :=
  ⟨h.outcome, h.ends, h.some_taken, h.header_taken, h.all_taken, h.conserves⟩

/-- One receive more, at the end. Induction from the first receive on. -/
theorem receives_snoc (n : Nat) (r : Reader) {l : L} (hl : Streams l) :
    ∃ before x held l', (r.receives l n).2.1 = { r with held := before } ∧
      r.receives l (n + 1) = ((r.receives l n).1 ++ [(x, held)], { r with held := held }, l') ∧
      r.Takes (r.receives l n).2.2 x held l' := by
  obtain ⟨x, held, l₁, hl₁, h⟩ := r.takes_of_streams hl
  induction n generalizing r l x held l₁ with
  | zero => exact ⟨r.held, x, held, l₁, rfl, receives_cons h.outcome 0, h⟩
  | succ n ih =>
    obtain ⟨x', held', l', hl', h'⟩ := takes_of_streams { r with held := held } hl₁
    obtain ⟨before, y, last, l₂, hreader, hlater, hlast⟩ := ih { r with held := held } hl₁ x' held' l' hl' h'
    rw [receives_cons h.outcome]
    refine ⟨before, y, last, l₂, hreader, ?_, hlast.of_held⟩
    rw [receives_cons h.outcome, hlater]
    rfl

/-- What was taken and what is left are the bytes, after any number of receives. -/
theorem taken_conserves (n : Nat) (r : Reader) (ht : 0 < r.timeoutMs) {l : L} (hl : Streams l) :
    Line.readable l = (r.taken l n).flatten ++ Line.readable (r.receives l n).2.2 := by
  induction n generalizing r l with
  | zero => rfl
  | succ n ih =>
    obtain ⟨x, held, l₁, hl₁, h⟩ := r.takes_of_streams hl
    rw [taken_succ h.outcome, receives_cons h.outcome, List.flatten_cons, List.append_assoc,
      ← ih { r with held := held } ht hl₁]
    exact h.conserves ht

/-- The bytes run out. Induction on how many there are; a receive that does not run into a timeout takes
four of them. -/
theorem exists_timeout (r : Reader) (ht : 0 < r.timeoutMs) {l : L} (hl : Streams l) :
    ∃ j, j * headerLength ≤ (Line.readable l).length ∧ ∃ heard stage held l',
      r.receives l (j + 1) = (heard ++ [(.error (.timeout stage), held)], { r with held := held }, l') ∧
      Line.readable l' = [] := by
  induction hsize : (Line.readable l).length using Nat.strongRecOn generalizing r l with
  | ind size ih =>
    obtain ⟨x, held, l₁, hl₁, h⟩ := r.takes_of_streams hl
    by_cases htimeout : ∃ stage, x = .error (.timeout stage)
    · obtain ⟨stage, rfl⟩ := htimeout
      exact ⟨0, by omega, [], stage, held, l₁, receives_cons h.outcome 0, h.all_taken ht stage rfl⟩
    · have hfewer := h.header_taken fun stage hx => htimeout ⟨stage, hx⟩
      have hheader : headerLength = 4 := rfl
      obtain ⟨j, hj, heard, stage, last, l', hlater, hleft⟩ :=
        ih (Line.readable l₁).length (by omega) { r with held := held } ht hl₁ rfl
      refine ⟨j + 1, by rw [Nat.succ_mul]; omega, (x, held) :: heard, stage, last, l', ?_, hleft⟩
      rw [receives_cons h.outcome, hlater]
      rfl

/-- **Receives conserve the bytes of a stream, and come to an end.** However often packets are received
from a stream, in whatever pieces it gives its bytes: each receive ends, takes a byte at least if there is
one, and a whole header's worth if it does not run into a timeout. With time to wait, a timeout leaves
nothing behind, and one comes after no more other receives than a quarter of the number of bytes. Then what
each receive dropped on its way to a marker and what it held, put one behind the other, and what is left
are the bytes that were there at first. -/
theorem receives_conserve (r : Reader) {l : L} (hl : Streams l) :
    (∀ n, ∃ before x held l', (r.receives l n).2.1 = { r with held := before } ∧
      r.receives l (n + 1) = ((r.receives l n).1 ++ [(x, held)], { r with held := held }, l') ∧
      r.Takes (r.receives l n).2.2 x held l') ∧
    (0 < r.timeoutMs →
      (∀ n, Line.readable l = (r.taken l n).flatten ++ Line.readable (r.receives l n).2.2) ∧
      ∃ j ≤ (Line.readable l).length / headerLength, ∃ heard stage held l',
        r.receives l (j + 1) =
          (heard ++ [(.error (.timeout stage), held)], { r with held := held }, l') ∧
        Line.readable l' = [] ∧ (r.taken l (j + 1)).flatten = Line.readable l) := by
  refine ⟨fun n => r.receives_snoc n hl, fun ht => ⟨fun n => r.taken_conserves n ht hl, ?_⟩⟩
  obtain ⟨j, hj, heard, stage, held, l', hreceives, hleft⟩ := r.exists_timeout ht hl
  have hall := r.taken_conserves (j + 1) ht hl
  rw [hreceives, hleft, List.append_nil] at hall
  exact ⟨j, (Nat.le_div_iff_mul_le (by decide)).mpr hj, heard, stage, held, l', hreceives, hleft, hall.symm⟩

/-- A packet that is refused, noise, a gain acknowledgement, and half a header. -/
def frayed : BenchLine :=
  { incoming := [0x61, 0x7f, 0xff, 0x30, 0x0a, 0x61, 0x00, 0x01, 0x00, 0x4b, 0x61, 0x00], readChunk := 1 }

theorem receives_conserve_frayed :
    let r : Reader := { timeoutMs := 20 }
    Streams frayed ∧ 0 < r.timeoutMs ∧
      (∀ n, frayed.incoming = (r.taken frayed n).flatten ++ (r.receives frayed n).2.2.incoming) ∧
      ∃ j ≤ 3, ∃ heard stage held l',
        r.receives frayed (j + 1) =
          (heard ++ [(.error (.timeout stage), held)], { r with held := held }, l') ∧
        l'.incoming = [] ∧ (r.taken frayed (j + 1)).flatten = frayed.incoming := by
  intro r
  have hstreams : Streams frayed := ⟨⟨rfl, rfl⟩, rfl⟩
  obtain ⟨hall, hend⟩ := (r.receives_conserve hstreams).2 (by decide)
  exact ⟨hstreams, by decide, hall, hend⟩

end Reader

end Vocoder
