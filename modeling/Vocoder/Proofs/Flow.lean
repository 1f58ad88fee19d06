import Vocoder.Line.Bench
import Vocoder.Reader

/-!
# Lines that flow

A line flows while reads deliver what is there: a read takes some bytes off the front, at least one if
there is one, and changes nothing else. How many it takes is up to the line, so a reader must come to
the same result for every way of cutting the bytes into pieces.

* `FlowingLine` says this of a kind of line. `advance l k` is the line with `k` more bytes read.
* `seekMarker_of_marker` and `seekMarker_of_noise` say where the search for a start marker ends on a
  flowing line, and `gather_of_flows` what is gathered: each of them in terms of the readable bytes
  alone, with no mention of the pieces.
* A bench line flows while it is open and its reads are not told to fail.
-/

namespace Vocoder

/-- A kind of line on which reading takes bytes off the front and changes nothing else. -/
class FlowingLine (L : Type) [Line L] where
  /-- Reads deliver what is there. -/
  Flows : L → Prop
  /-- The line with so many of its readable bytes taken. -/
  advance : L → Nat → L
  advance_zero : ∀ l, advance l 0 = l
  advance_add : ∀ l i j, advance (advance l i) j = advance l (i + j)
  readable_advance : ∀ l k, Line.readable (advance l k) = (Line.readable l).drop k
  flows_advance : ∀ {l} k, Flows l → Flows (advance l k)
  /-- A read takes some of the bytes, none of them only if there are none. -/
  read_of_flows : ∀ {l : L} {n : Nat}, Flows l → 0 < n →
    ∃ k, k ≤ n ∧ k ≤ (Line.readable l).length ∧ (Line.readable l ≠ [] → 0 < k) ∧
      Line.read l n = (.ok ((Line.readable l).take k), advance l k)

namespace FlowingLine

variable {L : Type} [Line L] [FlowingLine L]

/-- A read on a flowing line without bytes gives none and leaves the line as it is. -/
theorem read_nil {l : L} {n : Nat} (h : Flows l) (hn : 0 < n) (hl : Line.readable l = []) :
    Line.read l n = (.ok [], l) := by
  obtain ⟨k, -, hk, -, hread⟩ := read_of_flows h hn
  have hk : k = 0 := by simpa [hl] using hk
  rw [hread, hk, advance_zero, List.take_zero]

/-- A read of one byte takes exactly the first one. -/
theorem read_one {l : L} {b : UInt8} {bs : List UInt8} (h : Flows l)
    (hl : Line.readable l = b :: bs) : Line.read l 1 = (.ok [b], advance l 1) := by
  obtain ⟨k, hk1, -, hpos, hread⟩ := read_of_flows h (n := 1) (by omega)
  have hk : k = 1 := by
    have := hpos (by simp [hl])
    omega
  rw [hread, hk, hl]
  rfl

end FlowingLine

open FlowingLine

/-! ## The two loops of the reader on a flowing line -/

namespace Reader

variable {L : Type} [Line L] [FlowingLine L]

/-- Without bytes the search times out at once. -/
theorem seekMarker_nil {timeoutMs : Nat} {l : L} (hl : Flows l) (hread : Line.readable l = []) :
    seekMarker timeoutMs l = (.error (.timeout Stage.startMarker.name), l) :=
  seekMarker_of_nil (read_nil hl (by omega) hread)

/-- One turn of the search takes the first byte. A marker ends the search, and so does noise when
there is no time. -/
theorem seekMarker_cons {timeoutMs : Nat} {l : L} {b : UInt8} {bs : List UInt8} (hl : Flows l)
    (hread : Line.readable l = b :: bs) :
    seekMarker timeoutMs l =
      if b = startMarker then (.ok (), advance l 1)
      else if timeoutMs = 0 then (.error (.timeout Stage.startMarker.name), advance l 1)
      else seekMarker timeoutMs (advance l 1) :=
  seekMarker_of_cons (read_one hl hread)

/-- The search drops noise and the marker behind it. Induction on the noise, one turn a byte. -/
theorem seekMarker_of_marker {timeoutMs : Nat} {noise rest : List UInt8} :
    ∀ {l : L}, Flows l → (∀ b ∈ noise, b ≠ startMarker) → (0 < timeoutMs ∨ noise = []) →
      Line.readable l = noise ++ startMarker :: rest →
      seekMarker timeoutMs l = (.ok (), advance l (noise.length + 1)) := by
  induction noise with
  | nil =>
    intro l hl _ _ hread
    rw [seekMarker_cons hl hread, if_pos rfl, List.length_nil]
  | cons b noise ih =>
    intro l hl hnoise htime hread
    have hb : b ≠ startMarker := hnoise b (by simp)
    have ht : 0 < timeoutMs := by simpa using htime
    have hnext : Line.readable (advance l 1) = noise ++ startMarker :: rest := by
      rw [readable_advance, hread]
      rfl
    rw [seekMarker_cons hl hread, if_neg hb, if_neg (by omega),
      ih (flows_advance 1 hl) (fun b hb => hnoise b (by simp [hb])) (.inl ht) hnext, advance_add,
      List.length_cons, Nat.add_comm 1]

/-- On noise alone the search takes everything and then times out. -/
theorem seekMarker_of_noise {timeoutMs : Nat} {noise : List UInt8} :
    ∀ {l : L}, Flows l → (∀ b ∈ noise, b ≠ startMarker) → (0 < timeoutMs ∨ noise = []) →
      Line.readable l = noise →
      seekMarker timeoutMs l =
        (.error (.timeout Stage.startMarker.name), advance l noise.length) := by
  induction noise with
  | nil =>
    intro l hl _ _ hread
    rw [seekMarker_nil hl hread, List.length_nil, advance_zero]
  | cons b noise ih =>
    intro l hl hnoise htime hread
    have hb : b ≠ startMarker := hnoise b (by simp)
    have ht : 0 < timeoutMs := by simpa using htime
    have hnext : Line.readable (advance l 1) = noise := by
      rw [readable_advance, hread]
      rfl
    rw [seekMarker_cons hl hread, if_neg hb, if_neg (by omega),
      ih (flows_advance 1 hl) (fun b hb => hnoise b (by simp [hb])) (.inl ht) hnext, advance_add,
      List.length_cons, Nat.add_comm 1]

/-- What is missing is gathered if it is there; else everything is, and the wait times out. The
pieces in which the line delivers do not show. Induction on the number of missing bytes. -/
theorem gather_of_flows (stage : Stage) (target : Nat) :
    ∀ (held : List UInt8) {l : L}, Flows l →
      gather stage target held l =
        if target - held.length ≤ (Line.readable l).length then
          (.ok (), held ++ (Line.readable l).take (target - held.length),
            advance l (target - held.length))
        else
          (.error (.timeout stage.name), held ++ Line.readable l,
            advance l (Line.readable l).length) := by
  intro held
  induction hmissing : target - held.length using Nat.strongRecOn generalizing held with
  | ind missing ih =>
    intro l hl
    rw [gather]
    split
    · obtain ⟨k, hkn, hkl, hpos, hread⟩ := read_of_flows hl (n := target - held.length) (by omega)
      rw [hread]
      cases hbytes : Line.readable l with
      | nil =>
        -- nothing is there: the wait ends in a timeout
        have hk : k = 0 := by simpa [hbytes] using hkl
        have hm : ¬ missing ≤ 0 := by omega
        simp [hk, hm, advance_zero]
      | cons b bs =>
        -- a piece of `k` bytes comes: the induction hypothesis takes the rest
        rw [hbytes] at hkl hpos
        have hk := hpos (by simp)
        obtain ⟨j, rfl⟩ : ∃ j, k = j + 1 := ⟨k - 1, by omega⟩
        have hlen : (held ++ b :: bs.take j).length = held.length + (j + 1) := by
          simp only [List.length_append, List.length_cons, List.length_take]
          simp only [List.length_cons] at hkl
          omega
        have hrest : Line.readable (advance l (j + 1)) = bs.drop j := by
          rw [readable_advance, hbytes, List.drop_succ_cons]
        have := ih (missing - (j + 1)) (by omega) (held ++ b :: bs.take j) (by omega)
          (flows_advance (j + 1) hl)
        rw [List.take_succ_cons]
        simp only [this, hrest, advance_add, List.length_drop, List.length_cons]
        simp only [List.length_cons] at hkl
        by_cases hm : missing ≤ bs.length + 1
        · rw [if_pos (by omega), if_pos hm]
          have htake : b :: bs.take j ++ (bs.drop j).take (missing - (j + 1)) =
              (b :: bs).take missing := by
            obtain ⟨m, rfl⟩ : ∃ m, missing = m + 1 := ⟨missing - 1, by omega⟩
            rw [List.take_succ_cons, List.cons_append, ← List.take_add,
              show j + (m + 1 - (j + 1)) = m by omega]
          rw [List.append_assoc, htake, show j + 1 + (missing - (j + 1)) = missing by omega]
        · rw [if_neg (by omega), if_neg hm, List.append_assoc, List.cons_append,
            List.take_append_drop, show j + 1 + (bs.length - j) = bs.length + 1 by omega]
    · have hm : missing = 0 := by omega
      simp [hm, advance_zero]

end Reader

/-! ## Bench lines -/

namespace BenchLine

def Flows (l : BenchLine) : Prop :=
  l.isClosed = false ∧ l.failReads = false

def advance (l : BenchLine) (k : Nat) : BenchLine :=
  { l with incoming := l.incoming.drop k }

theorem advance_zero (l : BenchLine) : l.advance 0 = l := rfl

theorem advance_add (l : BenchLine) (i j : Nat) : (l.advance i).advance j = l.advance (i + j) := by
  rw [advance, advance, advance, List.drop_drop]

theorem readable_advance (l : BenchLine) (k : Nat) :
    Line.readable (l.advance k) = (Line.readable l).drop k := rfl

theorem flows_advance {l : BenchLine} (k : Nat) (h : l.Flows) : (l.advance k).Flows := h

/-- A bench line cuts what it delivers into pieces, but it delivers at least one byte if there is one. -/
theorem read_of_flows {l : BenchLine} {n : Nat} (h : l.Flows) (hn : 0 < n) :
    ∃ k, k ≤ n ∧ k ≤ (Line.readable l).length ∧ (Line.readable l ≠ [] → 0 < k) ∧
      Line.read l n = (.ok ((Line.readable l).take k), l.advance k) := by
  have hle := l.readCount_le n
  refine ⟨l.readCount n, by omega, ?_, ?_, ?_⟩
  · show l.readCount n ≤ l.incoming.length
    omega
  · intro hne
    have hlen : 0 < l.incoming.length := List.length_pos_iff.mpr hne
    rw [readCount]
    split <;> omega
  · have hopen : ¬ l.isClosed = true := by
      rw [h.1]
      decide
    have hreads : ¬ l.failReads = true := by
      rw [h.2]
      decide
    show l.read n = _
    rw [read, if_neg hopen, if_neg hreads]
    rfl

instance : FlowingLine BenchLine where
  Flows := Flows
  advance := advance
  advance_zero := advance_zero
  advance_add := advance_add
  readable_advance := readable_advance
  flows_advance := flows_advance
  read_of_flows := read_of_flows

end BenchLine

end Vocoder
