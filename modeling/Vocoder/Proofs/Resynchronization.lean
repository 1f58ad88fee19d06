import Mathlib
import Vocoder.Proofs.Handshake
import Vocoder.Proofs.Stream

/-!
# Resynchronisation

Garbage may hold start markers, and each of them starts a false packet that may swallow hundreds of bytes
behind it. But no packet is longer than the longest one, so behind a gap without markers the reader is in
step again.

* **`Roomy`** — behind each start marker there is room for a whole packet. A reader that starts in such
  bytes stops in them.
* **`Roomy.cut`** — one receive in front of a packet: it takes the packet, or at least one of the markers
  before it.
* **`Reader.receives_behind_roomy`** — so the packet is received after as many others as there are markers,
  by induction on their number.
* **`Reader.receives_behind_gap`** — a gap that is one byte shorter than the longest packet is enough.
-/

namespace Vocoder

open FlowingLine StreamLine

/-! ## Room for whole packets -/

/-- Whatever a start marker in these bytes starts ends in them: there is room for the longest packet. -/
def Roomy (ahead : List UInt8) : Prop :=
  ∀ before behind, ahead = before ++ startMarker :: behind → maxPacketLength ≤ behind.length + 1

namespace Roomy

variable {ahead : List UInt8}

theorem drop (h : Roomy ahead) (n : Nat) : Roomy (ahead.drop n) := by
  intro before behind hsplit
  apply h (ahead.take n ++ before) behind
  rw [List.append_assoc, ← hsplit, List.take_append_drop]

/-- Without a marker there is nothing to make room for. -/
theorem append_gap {gap : List UInt8} (hgap : startMarker ∉ gap)
    (hlong : maxPacketLength ≤ gap.length + 1) (garbage : List UInt8) : Roomy (garbage ++ gap) := by
  intro before behind hsplit
  rcases List.append_eq_append_iff.mp hsplit with ⟨a, -, hgap'⟩ | ⟨a, -, hbehind⟩
  · -- the marker would be in the gap
    rw [hgap'] at hgap
    simp at hgap
  · cases a with
    | nil =>
      rw [List.nil_append] at hbehind
      rw [← hbehind] at hgap
      simp at hgap
    | cons m a =>
      -- the marker is in the garbage, so the whole gap is behind it
      have hlength := congrArg List.length hbehind
      simp only [List.length_cons, List.cons_append, List.length_append] at hlength
      omega

end Roomy

variable {timeoutMs : Nat} {ahead : List UInt8}

/-- A start marker that comes first is the end of the noise before it. -/
theorem exists_noise_of_mem (h : startMarker ∈ ahead) :
    ∃ noise behind, startMarker ∉ noise ∧ ahead = noise ++ startMarker :: behind := by
  obtain ⟨noise, behind, hsplit, hnoise⟩ := List.eq_append_cons_of_mem h
  exact ⟨noise, behind, hnoise, hsplit⟩

/-- **A false packet stays in front.** What is cut in front of something at a marker with room behind it
does not run into a timeout, and it takes the marker and none of what is in front of it. -/
theorem Roomy.cut (h : Roomy ahead) (field : LengthField) (ht : 0 < timeoutMs)
    (hmarker : startMarker ∈ ahead) (rest : List UInt8) :
    (∀ stage, (Cut.first field timeoutMs (ahead ++ rest)).result ≠ .error (.timeout stage)) ∧
      (ahead ++ rest).drop (Cut.first field timeoutMs (ahead ++ rest)).consumed =
        ahead.drop (Cut.first field timeoutMs (ahead ++ rest)).consumed ++ rest ∧
      (ahead.drop (Cut.first field timeoutMs (ahead ++ rest)).consumed).count startMarker <
        ahead.count startMarker := by
  obtain ⟨noise, behind, hnoise, rfl⟩ := exists_noise_of_mem hmarker
  have hroom := h noise behind rfl
  have hroom' : maxPacketLength ≤ (behind ++ rest).length + 1 := by
    rw [List.length_append]
    omega
  rw [List.append_assoc, List.cons_append, Cut.first_of_marker (.inl ht) hnoise]
  have htimely : ∀ stage,
      (Cut.packet field noise.length (behind ++ rest)).result ≠ .error (.timeout stage) :=
    Cut.packet_ne_timeout_of_room hroom'
  obtain ⟨hleast, hmost⟩ := Cut.packet_consumed_of_ne_timeout htimely
  generalize (Cut.packet field noise.length (behind ++ rest)).consumed = taken at hleast hmost
  have hinside : taken ≤ (noise ++ startMarker :: behind).length := by
    rw [List.length_append, List.length_cons]
    omega
  refine ⟨htimely, ?_, ?_⟩
  · rw [← List.cons_append, ← List.append_assoc, List.drop_append_of_le_length hinside]
  · -- the marker that was met is among the bytes taken
    have htaken : startMarker ∈ (noise ++ startMarker :: behind).take taken := by
      rw [headerLength] at hleast
      rw [List.take_append, show taken - noise.length = taken - noise.length - 1 + 1 by omega,
        List.take_succ_cons]
      simp
    have hsplit := congrArg (List.count startMarker)
      (List.take_append_drop taken (noise ++ startMarker :: behind))
    rw [List.count_append] at hsplit
    have hpos := List.count_pos_iff.mpr htaken
    omega

/-! ## Many receives -/

namespace Reader

variable {L : Type} [Line L] [StreamLine L]

/-- After `k` receives the packet is received: none of them has timed out or taken a byte of it, and what is
behind it is left. -/
structure ReachedAfter (r : Reader) (l : L) (p : WirePacket r.lengthField) (tail : List UInt8)
    (k : Nat) : Prop where
  timely : ∀ x ∈ (r.receives l k).1, ∀ stage, x.1 ≠ .error (.timeout stage)
  untouched : ∀ j ≤ k, ∃ ahead, Line.readable (r.receives l j).2.2 = ahead ++ (p.bytes ++ tail)
  received : ∃ l', (r.receives l k).2.1.receive (r.receives l k).2.2 =
      (.ok p.response, { r with held := p.bytes }, l') ∧
    Streams l' ∧ Line.readable l' = tail

namespace ReachedAfter

variable {r : Reader} {p : WirePacket r.lengthField} {tail : List UInt8}

/-- Behind noise the packet comes at once. -/
theorem of_noise {noise : List UInt8} (ht : 0 < r.timeoutMs) (hnoise : startMarker ∉ noise) {l : L}
    (hl : Streams l) (hreadable : Line.readable l = noise ++ (p.bytes ++ tail)) :
    r.ReachedAfter l p tail 0 where
  timely := nofun
  untouched := by
    intro j hj
    obtain rfl : j = 0 := by omega
    exact ⟨noise, hreadable⟩
  received := by
    obtain ⟨l', hreceive, hl', hleft⟩ := r.receive_of_streams hl
    have hcut := Cut.first_of_noise_packet (.inl ht) (fun b hb h => hnoise (h ▸ hb)) p tail
    rw [hreadable, hcut] at hreceive hleft
    refine ⟨l', hreceive, hl', ?_⟩
    rw [hleft, ← List.append_assoc, ← List.length_append]
    exact List.drop_left

/-- One receive more that stays in front of the packet. -/
theorem later {held : List UInt8} {x : Except Fault Response} {l l₁ : L} {k : Nat}
    (hfirst : r.receive l = (x, { r with held := held }, l₁))
    (htimely : ∀ stage, x ≠ .error (.timeout stage))
    (hahead : ∃ ahead, Line.readable l = ahead ++ (p.bytes ++ tail))
    (h : ({ r with held := held } : Reader).ReachedAfter l₁ p tail k) :
    r.ReachedAfter l p tail (k + 1) where
  timely := by
    rw [receives_cons hfirst]
    exact List.forall_mem_cons.mpr ⟨htimely, h.timely⟩
  untouched := by
    intro j hj
    cases j with
    | zero => exact hahead
    | succ j =>
      rw [receives_cons hfirst]
      exact h.untouched j (by omega)
  received := by
    rw [receives_cons hfirst]
    exact h.received

end ReachedAfter

/-- **Behind a marker for each there are no more false packets.** Induction on a bound on the markers in
front of the packet; each receive takes one of them at least. -/
theorem receives_behind_roomy (n : Nat) (r : Reader) (p : WirePacket r.lengthField) (tail : List UInt8)
    (ht : 0 < r.timeoutMs) {ahead : List UInt8} (hroomy : Roomy ahead)
    (hcount : ahead.count startMarker ≤ n) {l : L} (hl : Streams l)
    (hreadable : Line.readable l = ahead ++ (p.bytes ++ tail)) :
    ∃ k ≤ n, r.ReachedAfter l p tail k := by
  induction n generalizing r ahead l with
  | zero =>
    have hnoise : startMarker ∉ ahead := List.count_eq_zero.mp (by omega)
    exact ⟨0, Nat.le_refl 0, .of_noise ht hnoise hl hreadable⟩
  | succ n ih =>
    by_cases hmarker : startMarker ∈ ahead
    · obtain ⟨htimely, hdrop, hfewer⟩ := hroomy.cut r.lengthField ht hmarker (p.bytes ++ tail)
      obtain ⟨l₁, hfirst, hl₁, hleft⟩ := r.receive_of_streams hl
      rw [hreadable] at hfirst hleft
      rw [hdrop] at hleft
      generalize Cut.first r.lengthField r.timeoutMs (ahead ++ (p.bytes ++ tail)) = cut at *
      obtain ⟨k, hk, h⟩ := ih { r with held := cut.held } p ht (hroomy.drop cut.consumed) (by omega)
        hl₁ hleft
      exact ⟨k + 1, by omega, h.later hfirst htimely ⟨ahead, hreadable⟩⟩
    · exact ⟨0, by omega, .of_noise ht hmarker hl hreadable⟩

/-- **Back in step behind a gap.** On a stream that holds any garbage, then a gap of 399 bytes or more
without a start marker, a packet and whatever comes behind it: there are no more receives ahead of the one
that gets the packet than there are start markers in the garbage. None of those times out or takes a byte
of the packet. The receive that gets the packet holds exactly the packet, says what it is, and leaves what
comes behind it. -/
theorem receives_behind_gap (r : Reader) (ht : 0 < r.timeoutMs) (garbage : List UInt8)
    {gap : List UInt8} (hgap : startMarker ∉ gap) (hlong : maxPacketLength - 1 ≤ gap.length)
    (p : WirePacket r.lengthField) (tail : List UInt8) {l : L} (hl : Streams l)
    (hreadable : Line.readable l = garbage ++ (gap ++ (p.bytes ++ tail))) :
    ∃ k ≤ garbage.count startMarker, r.ReachedAfter l p tail k := by
  have hroomy : Roomy (garbage ++ gap) := .append_gap hgap (by omega) garbage
  have hcount : (garbage ++ gap).count startMarker ≤ garbage.count startMarker := by
    rw [List.count_append, List.count_eq_zero.mpr hgap, Nat.add_zero]
  exact receives_behind_roomy _ r p tail ht hroomy hcount hl (by rw [hreadable, List.append_assoc])

/-- The first marker starts a packet that is refused, the second one a packet of 400 bytes that ends in
the gap. The third one is in a header. -/
def bursts : List UInt8 :=
  [0x00, 0x61, 0xff, 0xff, 0x30, 0x61, 0x01, 0x8c, 0x61]

theorem receives_behind_gap_bursts :
    let r : Reader := { lengthField := .masked }
    let quiet := List.replicate 399 (0x00 : UInt8)
    let p : WirePacket r.lengthField := .ofPayload 0x30 [0x41, 0x4d, 0x00] (by decide)
    let l : BenchLine := { incoming := bursts ++ (quiet ++ (p.bytes ++ [0x61, 0x00])), readChunk := 1 }
    0 < r.timeoutMs ∧ startMarker ∉ quiet ∧ Streams l ∧ ∃ k ≤ 3, r.ReachedAfter l p [0x61, 0x00] k := by
  intro r quiet p l
  have hquiet : startMarker ∉ quiet := fun h => absurd (List.eq_of_mem_replicate h) (by decide)
  have hstreams : Streams l := ⟨⟨rfl, rfl⟩, rfl⟩
  have hlong : maxPacketLength - 1 ≤ quiet.length := Nat.le_of_eq List.length_replicate.symm
  exact ⟨by decide, hquiet, hstreams,
    r.receives_behind_gap (by decide) bursts hquiet hlong p [0x61, 0x00] hstreams rfl⟩

/-- A gap of 398 bytes is too short: the marker at the end of the garbage takes the first byte of what
follows the gap. -/
example : (Cut.first .full 500
    ([0x61] ++ ([0x01, 0x8c] ++ List.replicate 396 0x00) ++ [0x61, 0x00, 0x00, 0x30])).consumed = 400 := by
  decide +kernel

end Reader

end Vocoder
