import Vocoder.Proofs.Flow

/-!
# Receiving is cutting a flat string

The reader polls its line: it looks for the start marker byte by byte, and then gathers header and
payload over as many reads as it takes. `Cut.first` says what it comes to without any of this: it cuts
the first packet out of a flat string of bytes, in one go, and tells what is held of the packet and how
many bytes are used up.

* `Cut.ends_packet`, `Cut.finds_first` — the ways in which cutting a packet can end, and those in which a
  string can begin. What holds of all cuts follows from them.
* `receive_of_flows` — on any flowing line a reader does what `Cut.first` says.
* `receive_bench` — on a bench line in any state, with the failures that stop a reader before it takes a
  byte.
-/

namespace Vocoder

/-- What becomes of the bytes on a line when a packet is taken off it. -/
structure Cut where
  result : Except Fault Response
  /-- What there is of the packet, from the marker on. -/
  held : List UInt8
  /-- How many bytes are taken off the line. -/
  consumed : Nat

namespace Cut

/-- Cut the packet whose marker follows `noise` bytes; the string is what comes behind the marker. -/
def packet (field : LengthField) (noise : Nat) : List UInt8 → Cut
  | hi :: lo :: kind :: body =>
    if 400 < 4 + field.decode hi lo then
      ⟨.error (.oversized (4 + field.decode hi lo) 400), [startMarker, hi, lo, kind], noise + 4⟩
    else if body.length < field.decode hi lo then
      ⟨.error (.timeout "packet payload"), startMarker :: hi :: lo :: kind :: body,
        noise + 4 + body.length⟩
    else
      ⟨.ok (.ofParts kind (body.take (field.decode hi lo))),
        startMarker :: hi :: lo :: kind :: body.take (field.decode hi lo),
        noise + 4 + field.decode hi lo⟩
  | behind =>
    ⟨.error (.timeout "packet header"), startMarker :: behind, noise + 1 + behind.length⟩

/-- Cut the first packet out of a string. Bytes ahead of its marker are dropped; with no time at all
the first of them already ends the search. -/
def first (field : LengthField) (timeoutMs : Nat) (bytes : List UInt8) : Cut :=
  if timeoutMs = 0 ∧ bytes.takeWhile (· ≠ startMarker) ≠ [] then
    ⟨.error (.timeout "start marker"), [], 1⟩
  else
    match bytes.dropWhile (· ≠ startMarker) with
    | [] => ⟨.error (.timeout "start marker"), [], bytes.length⟩
    | _ :: behind => packet field (bytes.takeWhile (· ≠ startMarker)).length behind

variable {field : LengthField} {noise : Nat} {hi lo kind : UInt8} {body behind : List UInt8}

/-- A header needs three bytes behind the marker. -/
theorem packet_of_short (h : behind.length < 3) :
    packet field noise behind =
      ⟨.error (.timeout "packet header"), startMarker :: behind, noise + 1 + behind.length⟩ := by
  rcases behind with _ | ⟨a, _ | ⟨b, _ | ⟨c, rest⟩⟩⟩
  · rfl
  · rfl
  · rfl
  · simp only [List.length_cons] at h
    omega

theorem exists_of_three_le (h : ¬ behind.length < 3) :
    ∃ hi lo kind body, behind = hi :: lo :: kind :: body := by
  rcases behind with _ | ⟨a, _ | ⟨b, _ | ⟨c, rest⟩⟩⟩
  · exact absurd (by decide) h
  · exact absurd (by simp) h
  · exact absurd (by simp) h
  · exact ⟨a, b, c, rest, rfl⟩

theorem packet_of_oversized (h : 400 < 4 + field.decode hi lo) :
    packet field noise (hi :: lo :: kind :: body) =
      ⟨.error (.oversized (4 + field.decode hi lo) 400), [startMarker, hi, lo, kind], noise + 4⟩ := by
  rw [packet, if_pos h]

theorem packet_of_incomplete (h : ¬ 400 < 4 + field.decode hi lo)
    (hbody : body.length < field.decode hi lo) :
    packet field noise (hi :: lo :: kind :: body) =
      ⟨.error (.timeout "packet payload"), startMarker :: hi :: lo :: kind :: body,
        noise + 4 + body.length⟩ := by
  rw [packet, if_neg h, if_pos hbody]

theorem packet_of_whole (h : ¬ 400 < 4 + field.decode hi lo)
    (hbody : field.decode hi lo ≤ body.length) :
    packet field noise (hi :: lo :: kind :: body) =
      ⟨.ok (.ofParts kind (body.take (field.decode hi lo))),
        startMarker :: hi :: lo :: kind :: body.take (field.decode hi lo),
        noise + 4 + field.decode hi lo⟩ := by
  rw [packet, if_neg h, if_neg (by omega)]

/-- The ways in which cutting a packet can end: there is no whole header behind the marker, the length is
refused, the payload breaks off, or the packet is whole. -/
inductive Ends (field : LengthField) (noise : Nat) : List UInt8 → Cut → Prop where
  | inHeader {behind : List UInt8} (hshort : behind.length < 3) :
    Ends field noise behind
      ⟨.error (.timeout "packet header"), startMarker :: behind, noise + 1 + behind.length⟩
  | refused {hi lo kind : UInt8} {body : List UInt8} (hsize : 400 < 4 + field.decode hi lo) :
    Ends field noise (hi :: lo :: kind :: body)
      ⟨.error (.oversized (4 + field.decode hi lo) 400), [startMarker, hi, lo, kind], noise + 4⟩
  | inPayload {hi lo kind : UInt8} {body : List UInt8} (hsize : 4 + field.decode hi lo ≤ 400)
    (hbody : body.length < field.decode hi lo) :
    Ends field noise (hi :: lo :: kind :: body)
      ⟨.error (.timeout "packet payload"), startMarker :: hi :: lo :: kind :: body,
        noise + 4 + body.length⟩
  | whole {hi lo kind : UInt8} {body : List UInt8} (hsize : 4 + field.decode hi lo ≤ 400)
    (hbody : field.decode hi lo ≤ body.length) :
    Ends field noise (hi :: lo :: kind :: body)
      ⟨.ok (.ofParts kind (body.take (field.decode hi lo))),
        startMarker :: hi :: lo :: kind :: body.take (field.decode hi lo),
        noise + 4 + field.decode hi lo⟩

theorem ends_packet (field : LengthField) (noise : Nat) (behind : List UInt8) :
    Ends field noise behind (packet field noise behind) := by
  by_cases hshort : behind.length < 3
  · rw [packet_of_short hshort]
    exact .inHeader hshort
  · obtain ⟨hi, lo, kind, body, rfl⟩ := exists_of_three_le hshort
    by_cases hsize : 400 < 4 + field.decode hi lo
    · rw [packet_of_oversized hsize]
      exact .refused hsize
    · by_cases hbody : body.length < field.decode hi lo
      · rw [packet_of_incomplete hsize hbody]
        exact .inPayload (Nat.le_of_not_lt hsize) hbody
      · rw [packet_of_whole hsize (Nat.le_of_not_lt hbody)]
        exact .whole (Nat.le_of_not_lt hsize) (Nat.le_of_not_lt hbody)

/-- **A packet holds what is taken behind the noise**: the marker at least, and no more than is there. -/
theorem packet_taken (field : LengthField) (noise : Nat) (behind : List UInt8) :
    ∃ k, 0 < k ∧ k ≤ behind.length + 1 ∧ (packet field noise behind).consumed = noise + k ∧
      (packet field noise behind).held = (startMarker :: behind).take k := by
  have hends := ends_packet field noise behind
  generalize packet field noise behind = cut at hends
  cases hends with
  | inHeader _ =>
    refine ⟨behind.length + 1, Nat.succ_pos _, Nat.le_refl _, by dsimp only; omega, ?_⟩
    exact List.take_length.symm
  | refused _ => exact ⟨4, by omega, by simp only [List.length_cons]; omega, rfl, rfl⟩
  | @inPayload hi lo kind body _ _ =>
    refine ⟨body.length + 4, by omega, Nat.le_refl _, by dsimp only; omega, ?_⟩
    exact List.take_length.symm
  | @whole hi lo kind body _ _ =>
    refine ⟨field.decode hi lo + 4, by omega, ?_, by dsimp only; omega, rfl⟩
    simp only [List.length_cons]
    omega

theorem packet_consumed_le (field : LengthField) (noise : Nat) (behind : List UInt8) :
    (packet field noise behind).consumed ≤ noise + 1 + behind.length := by
  obtain ⟨k, -, hk, hconsumed, -⟩ := packet_taken field noise behind
  omega

/-- The first bytes of a string, up to a marker, hold no marker. -/
theorem noise_of_takeWhile {bytes : List UInt8} :
    ∀ b ∈ bytes.takeWhile (· ≠ startMarker), b ≠ startMarker := by
  intro b hb
  have hall := List.all_takeWhile (p := (· ≠ startMarker)) (l := bytes)
  simpa using List.all_eq_true.mp hall b hb

/-- What is left behind the noise starts with a marker. -/
theorem head_of_dropWhile {bytes behind : List UInt8} {m : UInt8}
    (h : bytes.dropWhile (· ≠ startMarker) = m :: behind) : m = startMarker := by
  have := List.head?_dropWhile_not (p := (· ≠ startMarker)) bytes
  rw [h] at this
  simpa using this

section Marker

variable {noise : List UInt8} (hnoise : startMarker ∉ noise)

include hnoise

theorem ne_of_not_mem : ∀ b ∈ noise, decide (b ≠ startMarker) = true := by
  intro b hb
  simp only [decide_eq_true_eq]
  rintro rfl
  exact hnoise hb

theorem takeWhile_marker (behind : List UInt8) :
    (noise ++ startMarker :: behind).takeWhile (· ≠ startMarker) = noise := by
  rw [List.takeWhile_append_of_pos (ne_of_not_mem hnoise), List.takeWhile_cons_of_neg (by decide),
    List.append_nil]

theorem dropWhile_marker (behind : List UInt8) :
    (noise ++ startMarker :: behind).dropWhile (· ≠ startMarker) = startMarker :: behind := by
  rw [List.dropWhile_append_of_pos (ne_of_not_mem hnoise), List.dropWhile_cons_of_neg (by decide)]

end Marker

/-- What a marker behind noise starts is cut as a packet, if there is time to skip the noise. -/
theorem first_of_marker {timeoutMs : Nat} {noise : List UInt8} (ht : 0 < timeoutMs ∨ noise = [])
    (hnoise : startMarker ∉ noise) (behind : List UInt8) :
    first field timeoutMs (noise ++ startMarker :: behind) = packet field noise.length behind := by
  have htime : ¬ (timeoutMs = 0 ∧ noise ≠ []) := by
    rintro ⟨h0, hne⟩
    rcases ht with ht | ht
    · omega
    · exact hne ht
  rw [first, takeWhile_marker hnoise, dropWhile_marker hnoise, if_neg htime]

/-- What looking for a packet finds: noise and no time to skip it, noise alone, or a marker behind noise. -/
inductive Finds (field : LengthField) (timeoutMs : Nat) : List UInt8 → Cut → Prop where
  | hurried {b : UInt8} {behind : List UInt8} (ht : timeoutMs = 0) :
    Finds field timeoutMs (b :: behind) ⟨.error (.timeout "start marker"), [], 1⟩
  | nothing {noise : List UInt8} (hnoise : startMarker ∉ noise) :
    Finds field timeoutMs noise ⟨.error (.timeout "start marker"), [], noise.length⟩
  | marker {noise : List UInt8} (behind : List UInt8) (hnoise : startMarker ∉ noise) :
    Finds field timeoutMs (noise ++ startMarker :: behind) (packet field noise.length behind)

theorem finds_first (field : LengthField) (timeoutMs : Nat) (bytes : List UInt8) :
    Finds field timeoutMs bytes (first field timeoutMs bytes) := by
  have hsplit := List.takeWhile_append_dropWhile (p := (· ≠ startMarker)) (l := bytes)
  have hnoise : startMarker ∉ bytes.takeWhile (· ≠ startMarker) := fun h => noise_of_takeWhile _ h rfl
  by_cases htime : timeoutMs = 0 ∧ bytes.takeWhile (· ≠ startMarker) ≠ []
  · rw [first, if_pos htime]
    cases bytes with
    | nil => exact absurd rfl htime.2
    | cons b behind => exact .hurried htime.1
  · rw [first, if_neg htime]
    cases hd : bytes.dropWhile (· ≠ startMarker) with
    | nil =>
      rw [hd, List.append_nil] at hsplit
      rw [hsplit] at hnoise
      exact .nothing hnoise
    | cons m behind =>
      have hm := head_of_dropWhile hd
      subst hm
      have hfound : Finds field timeoutMs (bytes.takeWhile (· ≠ startMarker) ++ startMarker :: behind)
          (packet field (bytes.takeWhile (· ≠ startMarker)).length behind) := .marker behind hnoise
      rwa [← hd, hsplit] at hfound

/-- No more is taken off a line than is there. -/
theorem first_consumed_le (field : LengthField) (timeoutMs : Nat) (bytes : List UInt8) :
    (first field timeoutMs bytes).consumed ≤ bytes.length := by
  have hfinds := finds_first field timeoutMs bytes
  generalize first field timeoutMs bytes = cut at hfinds
  cases hfinds with
  | hurried _ => exact Nat.succ_le_succ (Nat.zero_le _)
  | nothing _ => exact Nat.le_refl _
  | @marker noise behind _ =>
    have hle := packet_consumed_le field noise.length behind
    rw [List.length_append, List.length_cons]
    omega

/-- A wait for the rest of a packet that ends in a timeout has used up everything. -/
theorem packet_consumed_of_timeout {stage : String}
    (h : (packet field noise behind).result = .error (.timeout stage)) :
    (packet field noise behind).consumed = noise + 1 + behind.length := by
  have hends := ends_packet field noise behind
  generalize packet field noise behind = cut at h hends
  cases hends with
  | inHeader _ => rfl
  | inPayload _ _ =>
    simp only [List.length_cons]
    omega
  | refused _ | whole _ _ => cases h

/-- **A timeout uses up everything**, unless there was no time at all. -/
theorem first_consumed_of_timeout {timeoutMs : Nat} {bytes : List UInt8} {stage : String}
    (ht : 0 < timeoutMs) (h : (first field timeoutMs bytes).result = .error (.timeout stage)) :
    (first field timeoutMs bytes).consumed = bytes.length := by
  have hfinds := finds_first field timeoutMs bytes
  generalize first field timeoutMs bytes = cut at h hfinds
  cases hfinds with
  | hurried ht' => omega
  | nothing _ => rfl
  | marker behind _ =>
    rw [packet_consumed_of_timeout h, List.length_append, List.length_cons]
    omega

/-- What is held of a whole packet are the bytes from the first marker on. -/
theorem exists_take_of_first {timeoutMs : Nat} {bytes : List UInt8} {got : Response}
    (h : (first field timeoutMs bytes).result = .ok got) :
    ∃ n, (first field timeoutMs bytes).held = (bytes.dropWhile (· ≠ startMarker)).take n := by
  have hfinds := finds_first field timeoutMs bytes
  generalize first field timeoutMs bytes = cut at h hfinds
  cases hfinds with
  | hurried _ | nothing _ => cases h
  | @marker noise behind hnoise =>
    obtain ⟨k, -, -, -, hheld⟩ := packet_taken field noise.length behind
    exact ⟨k, by rw [hheld, dropWhile_marker hnoise]⟩

end Cut

open FlowingLine

namespace Reader

variable {L : Type} [Line L] [FlowingLine L]

/-- Behind a marker the packet is cut as `Cut.packet` says. The header decides whether there is a
payload to gather. -/
theorem completePacket_of_flows (field : LengthField) {l : L} {noise : Nat} {behind : List UInt8}
    (hl : Flows l) (hread : Line.readable (advance l (noise + 1)) = behind) :
    completePacket field (advance l (noise + 1)) =
      ((Cut.packet field noise behind).result, (Cut.packet field noise behind).held,
        advance l (Cut.packet field noise behind).consumed) := by
  have hheader := gather_of_flows .packetHeader headerLength [startMarker]
    (flows_advance (noise + 1) hl)
  rw [hread, show headerLength - [startMarker].length = 3 from rfl, advance_add, advance_add]
    at hheader
  by_cases hshort : behind.length < 3
  · -- the header does not come whole
    rw [if_neg (by omega)] at hheader
    rw [completePacket, hheader, Cut.packet_of_short hshort]
    rfl
  · obtain ⟨hi, lo, kind, body, rfl⟩ := Cut.exists_of_three_le hshort
    have hfour : ([startMarker] ++ (hi :: lo :: kind :: body).take 3) =
        [startMarker, hi, lo, kind] := rfl
    have htotal : field.total [startMarker, hi, lo, kind] = 4 + field.decode hi lo := rfl
    rw [if_pos (by omega), hfour] at hheader
    by_cases hsize : 400 < 4 + field.decode hi lo
    · -- the header is refused before any of the payload is asked for
      have hsize' : maxPacketLength < 4 + field.decode hi lo := hsize
      rw [Cut.packet_of_oversized hsize, completePacket, hheader]
      simp only [htotal, if_pos hsize']
      rfl
    · have hsize' : ¬ maxPacketLength < 4 + field.decode hi lo := hsize
      have hbody : Line.readable (advance l (noise + 1 + 3)) = body := by
        rw [← advance_add, readable_advance, hread]
        rfl
      have hpayload := gather_of_flows .packetPayload (4 + field.decode hi lo)
        [startMarker, hi, lo, kind] (flows_advance (noise + 1 + 3) hl)
      rw [hbody, show 4 + field.decode hi lo - [startMarker, hi, lo, kind].length =
        field.decode hi lo from Nat.add_sub_cancel_left .., advance_add, advance_add] at hpayload
      by_cases hwhole : field.decode hi lo ≤ body.length
      · rw [if_pos hwhole] at hpayload
        rw [Cut.packet_of_whole hsize hwhole, completePacket, hheader]
        simp only [htotal, if_neg hsize', hpayload]
        rfl
      · rw [if_neg hwhole] at hpayload
        rw [Cut.packet_of_incomplete hsize (by omega), completePacket, hheader]
        simp only [htotal, if_neg hsize', hpayload]
        rfl

/-- **A reader cuts the first packet.** On a line that flows once it is prepared, what a reader does
depends on the readable bytes alone. -/
theorem receive_of_flows (r : Reader) {l l₁ : L} (hprepare : Line.prepare l = (.ok (), l₁))
    (hl : Flows l₁) :
    r.receive l =
      ((Cut.first r.lengthField r.timeoutMs (Line.readable l₁)).result,
        { r with held := (Cut.first r.lengthField r.timeoutMs (Line.readable l₁)).held },
        advance l₁ (Cut.first r.lengthField r.timeoutMs (Line.readable l₁)).consumed) := by
  generalize hbytes : Line.readable l₁ = bytes
  have hsplit := List.takeWhile_append_dropWhile (p := (· ≠ startMarker)) (l := bytes)
  rw [receive, hprepare]
  by_cases h : r.timeoutMs = 0 ∧ bytes.takeWhile (· ≠ startMarker) ≠ []
  · -- no time: the first byte of noise ends the search
    obtain ⟨b, bs, hb⟩ := List.exists_cons_of_ne_nil h.2
    have hmem : b ∈ bytes.takeWhile (· ≠ startMarker) := by
      rw [hb]
      exact List.mem_cons_self
    have hcons : Line.readable l₁ = b :: (bs ++ bytes.dropWhile (· ≠ startMarker)) := by
      rw [hbytes, ← List.cons_append, ← hb, hsplit]
    have hcut : Cut.first r.lengthField r.timeoutMs bytes =
        ⟨.error (.timeout "start marker"), [], 1⟩ := by rw [Cut.first, if_pos h]
    simp only [seekMarker_cons hl hcons, if_neg (Cut.noise_of_takeWhile b hmem), if_pos h.1, hcut]
    rfl
  · have htime : 0 < r.timeoutMs ∨ bytes.takeWhile (· ≠ startMarker) = [] := by
      by_cases ht : r.timeoutMs = 0
      · exact .inr (Decidable.byContradiction fun hn => h ⟨ht, hn⟩)
      · exact .inl (by omega)
    cases hd : bytes.dropWhile (· ≠ startMarker) with
    | nil =>
      -- noise alone: the search takes all of it
      rw [hd, List.append_nil] at hsplit
      have hcut : Cut.first r.lengthField r.timeoutMs bytes =
          ⟨.error (.timeout "start marker"), [], bytes.length⟩ := by
        rw [Cut.first, if_neg h, hd]
      have hnoise : Line.readable l₁ = bytes.takeWhile (· ≠ startMarker) := by rw [hbytes, hsplit]
      simp only [seekMarker_of_noise hl Cut.noise_of_takeWhile htime hnoise, hcut, hsplit]
      rfl
    | cons m behind =>
      -- a marker behind the noise: what follows it is a packet, or the beginning of one
      have hm := Cut.head_of_dropWhile hd
      subst hm
      have hcut : Cut.first r.lengthField r.timeoutMs bytes =
          Cut.packet r.lengthField (bytes.takeWhile (· ≠ startMarker)).length behind := by
        rw [Cut.first, if_neg h, hd]
      rw [hd] at hsplit
      have hmarker : Line.readable l₁ =
          bytes.takeWhile (· ≠ startMarker) ++ startMarker :: behind := by rw [hbytes, hsplit]
      have hbehind : Line.readable (advance l₁ ((bytes.takeWhile (· ≠ startMarker)).length + 1)) =
          behind := by
        rw [readable_advance, hmarker, ← List.drop_drop, List.drop_left]
        rfl
      simp only [seekMarker_of_marker hl Cut.noise_of_takeWhile htime hmarker,
        completePacket_of_flows r.lengthField hl hbehind, hcut]

/-- A bench line that fails or is closed gives that fault; otherwise its packet is cut. -/
theorem receive_bench (r : Reader) (l : BenchLine) :
    r.receive l =
      (let prepared := { l with prepareCalls := l.prepareCalls + 1 }
      let cut := Cut.first r.lengthField r.timeoutMs l.incoming
      if l.failPrepare then (.error .noMessage, { r with held := [] }, prepared)
      else if l.isClosed then (.error .closed, { r with held := [] }, prepared)
      else if l.failReads then (.error (.read "mock read failure"), { r with held := [] }, prepared)
      else
        (cut.result, { r with held := cut.held },
          { prepared with incoming := l.incoming.drop cut.consumed })) := by
  have hprepare : Line.prepare l =
      if l.failPrepare then (.error .noMessage, { l with prepareCalls := l.prepareCalls + 1 })
      else (.ok (), { l with prepareCalls := l.prepareCalls + 1 }) := rfl
  by_cases hfail : l.failPrepare = true
  · rw [if_pos hfail] at hprepare
    simp only [receive, hprepare, if_pos hfail]
  · rw [if_neg hfail] at hprepare
    by_cases hclosed : l.isClosed = true
    · -- the search fails with its first read, so no byte is taken
      have hread : Line.read { l with prepareCalls := l.prepareCalls + 1 } 1 =
          (.error .closed, { l with prepareCalls := l.prepareCalls + 1 }) := if_pos hclosed
      simp only [receive, hprepare, seekMarker_of_error hread, if_neg hfail, if_pos hclosed]
    · by_cases hreads : l.failReads = true
      · have hread : Line.read { l with prepareCalls := l.prepareCalls + 1 } 1 =
            (.error (.read "mock read failure"), { l with prepareCalls := l.prepareCalls + 1 }) :=
          (if_neg hclosed).trans (if_pos hreads)
        simp only [receive, hprepare, seekMarker_of_error hread, if_neg hfail, if_neg hclosed,
          if_pos hreads]
      · have hflows : FlowingLine.Flows { l with prepareCalls := l.prepareCalls + 1 } :=
          ⟨by simpa using hclosed, by simpa using hreads⟩
        rw [receive_of_flows r hprepare hflows]
        simp only [if_neg hfail, if_neg hclosed, if_neg hreads]
        rfl

/-- **Receiving is cutting a flat string.** In every state of a bench line the reader prepares it once
and forgets the packet it held. A line whose preparation fails, a closed line and a line whose reads
fail give that fault, and no byte is taken. Otherwise the outcome, the packet held and the number of
bytes taken are those of `Cut.first` on the readable bytes, whatever the size of a read; nothing else
about the line changes. -/
theorem receive_eq_cut (r : Reader) (l : BenchLine) :
    r.receive l =
        (let prepared := { l with prepareCalls := l.prepareCalls + 1 }
        let cut := Cut.first r.lengthField r.timeoutMs l.incoming
        if l.failPrepare then (.error .noMessage, { r with held := [] }, prepared)
        else if l.isClosed then (.error .closed, { r with held := [] }, prepared)
        else if l.failReads then
          (.error (.read "mock read failure"), { r with held := [] }, prepared)
        else
          (cut.result, { r with held := cut.held },
            { prepared with incoming := l.incoming.drop cut.consumed })) ∧
      (Cut.first r.lengthField r.timeoutMs l.incoming).consumed ≤ l.incoming.length :=
  ⟨r.receive_bench l, Cut.first_consumed_le ..⟩

end Reader

end Vocoder
