import Vocoder.Proofs.Cut

/-!
# Streams of packets and noise

Bytes that are a row of packets with noise between them. Noise is any byte that is no start marker, so
the packets can be found again; the bytes inside a packet are free, start markers among them.

* `WirePacket` — bytes that one reader, with its reading of the length field, takes for one packet.
* `Piece.stream`, `Piece.packets` — the bytes of a row of pieces, and the packets in it.
* `Cut.first_of_packets_nil`, `Cut.first_of_packets_cons` — cutting such a stream finds its first packet
  and stops exactly behind it; a stream without packets is used up.
-/

namespace Vocoder

/-- A whole packet: it starts with the marker, it is as long as its header says, and a reader accepts
its length. -/
structure WirePacket (field : LengthField) where
  bytes : List UInt8
  marked : bytes.head? = some startMarker
  length_eq : bytes.length = field.total bytes
  length_le : bytes.length ≤ maxPacketLength

namespace WirePacket

variable {field : LengthField}

/-- A packet is its marker, its header and the body that the header announces. -/
theorem exists_parts (p : WirePacket field) :
    ∃ hi lo kind body, p.bytes = startMarker :: hi :: lo :: kind :: body ∧
      body.length = field.decode hi lo ∧ 4 + field.decode hi lo ≤ 400 := by
  have marked := p.marked
  have length_eq := p.length_eq
  have length_le := p.length_le
  rw [LengthField.total, headerLength] at length_eq
  generalize p.bytes = bytes at marked length_eq length_le ⊢
  rcases bytes with _ | ⟨m, behind⟩
  · cases marked
  · have hm : m = startMarker := by simpa using marked
    -- a header announces at least itself
    have hshort : ¬ behind.length < 3 := by
      rw [List.length_cons] at length_eq
      omega
    obtain ⟨hi, lo, kind, body, rfl⟩ := Cut.exists_of_three_le hshort
    have hlen : body.length = field.decode hi lo := by
      simp only [List.length_cons, List.getD_cons_succ, List.getD_cons_zero] at length_eq
      omega
    have hmax : 4 + body.length ≤ 400 := by
      simp only [List.length_cons, maxPacketLength] at length_le
      omega
    refine ⟨hi, lo, kind, body, by rw [hm], hlen, ?_⟩
    rw [← hlen]
    exact hmax

/-- What a reader says the packet is. -/
def response (p : WirePacket field) : Response :=
  .classify p.bytes

end WirePacket

/-- A payload that fits in a packet declares its length, also where only twelve bits count. -/
theorem LengthField.total_packet (field : LengthField) {kind : UInt8} {payload : List UInt8}
    (h : headerLength + payload.length ≤ maxPacketLength) :
    field.total (packet kind payload) = (packet kind payload).length := by
  rw [headerLength, maxPacketLength] at h
  have hhigh : (UInt8.ofNat (payload.length / 256)).toNat = payload.length / 256 := by
    rw [UInt8.toNat_ofNat']
    omega
  have hlow : (UInt8.ofNat (payload.length % 256)).toNat = payload.length % 256 := by
    rw [UInt8.toNat_ofNat']
    omega
  rw [length_packet]
  show headerLength + field.decode (UInt8.ofNat (payload.length / 256))
    (UInt8.ofNat (payload.length % 256)) = _
  cases field with
  | full =>
    rw [decode, hhigh, hlow]
    omega
  | masked =>
    rw [decode, hhigh, hlow]
    omega

theorem head?_packet (kind : UInt8) (payload : List UInt8) :
    (packet kind payload).head? = some startMarker := rfl

/-- The packet of a type that carries a payload is one on the line, for either reading of lengths. -/
def WirePacket.ofPayload {field : LengthField} (kind : UInt8) (payload : List UInt8)
    (h : headerLength + payload.length ≤ maxPacketLength) : WirePacket field where
  bytes := packet kind payload
  marked := head?_packet kind payload
  length_eq := (field.total_packet h).symm
  length_le := Nat.le_trans (Nat.le_of_eq (length_packet kind payload)) h

inductive Piece (field : LengthField) where
  /-- A byte between packets. -/
  | noise (b : UInt8) (h : b ≠ startMarker)
  | packet (p : WirePacket field)

namespace Piece

variable {field : LengthField}

def bytes : Piece field → List UInt8
  | noise b _ => [b]
  | packet p => p.bytes

def stream (pieces : List (Piece field)) : List UInt8 :=
  pieces.flatMap bytes

def packets : List (Piece field) → List (WirePacket field)
  | [] => []
  | noise _ _ :: later => packets later
  | packet p :: later => p :: packets later

theorem stream_append (a b : List (Piece field)) : stream (a ++ b) = stream a ++ stream b :=
  List.flatMap_append

theorem packets_append (a b : List (Piece field)) : packets (a ++ b) = packets a ++ packets b := by
  induction a with
  | nil => rfl
  | cons piece later ih =>
    cases piece with
    | noise b h => exact ih
    | packet p => exact congrArg (p :: ·) ih

/-- A row without packets is noise. -/
theorem ne_of_mem_stream {pieces : List (Piece field)} (h : packets pieces = []) :
    ∀ b ∈ stream pieces, b ≠ startMarker := by
  induction pieces with
  | nil =>
    intro b hb
    cases hb
  | cons piece later ih =>
    cases piece with
    | noise c hc =>
      intro b hb
      rcases List.mem_cons.mp hb with rfl | hb
      · exact hc
      · exact ih h b hb
    | packet p => cases h

/-- A row with a packet is noise, the packet, and a row with the packets behind it. -/
theorem exists_of_packets_cons {pieces : List (Piece field)} {p : WirePacket field}
    {rest : List (WirePacket field)} (h : packets pieces = p :: rest) :
    ∃ noise later, (∀ b ∈ noise, b ≠ startMarker) ∧
      stream pieces = noise ++ (p.bytes ++ stream later) ∧ packets later = rest := by
  induction pieces with
  | nil => cases h
  | cons piece later ih =>
    cases piece with
    | noise c hc =>
      obtain ⟨noise, later', hnoise, hstream, hrest⟩ := ih h
      refine ⟨c :: noise, later', ?_, congrArg (c :: ·) hstream, hrest⟩
      intro b hb
      rcases List.mem_cons.mp hb with rfl | hb
      · exact hc
      · exact hnoise b hb
    | packet q =>
      cases h
      refine ⟨[], later, ?_, rfl, rfl⟩
      intro b hb
      cases hb

end Piece

/-! ## Cutting a stream -/

namespace Cut

variable {field : LengthField} {timeoutMs : Nat}

/-- Noise is used up, and nothing is held. -/
theorem first_of_noise {noise : List UInt8} (ht : 0 < timeoutMs)
    (hnoise : ∀ b ∈ noise, b ≠ startMarker) :
    first field timeoutMs noise = ⟨.error (.timeout "start marker"), [], noise.length⟩ := by
  have hdrop : noise.dropWhile (· ≠ startMarker) = [] := by
    have happend : (noise ++ []).dropWhile (· ≠ startMarker) = [].dropWhile (· ≠ startMarker) :=
      List.dropWhile_append_of_pos fun b hb => decide_eq_true (hnoise b hb)
    rwa [List.append_nil] at happend
  rw [first, if_neg fun h => Nat.ne_of_gt ht h.1, hdrop]

/-- Noise ahead of a packet is dropped if there is time to, the packet is held whole, and what is behind
it stays. -/
theorem first_of_noise_packet {noise : List UInt8} (ht : 0 < timeoutMs ∨ noise = [])
    (hnoise : ∀ b ∈ noise, b ≠ startMarker) (p : WirePacket field) (behind : List UInt8) :
    first field timeoutMs (noise ++ (p.bytes ++ behind)) =
      ⟨.ok p.response, p.bytes, noise.length + p.bytes.length⟩ := by
  obtain ⟨hi, lo, kind, body, hbytes, hlen, hmax⟩ := p.exists_parts
  -- the header announces just the body, so markers in it do not matter
  have hbody : (body ++ behind).take (field.decode hi lo) = body := by
    rw [← hlen, List.take_left]
  have hresponse : Response.ofParts kind body = p.response := by
    rw [WirePacket.response, hbytes]
    rfl
  have hsize : noise.length + 4 + field.decode hi lo = noise.length + p.bytes.length := by
    rw [hbytes, ← hlen]
    simp only [List.length_cons]
    omega
  have hmarker : noise ++ (p.bytes ++ behind) =
      noise ++ startMarker :: (hi :: lo :: kind :: (body ++ behind)) := by
    rw [hbytes]
    rfl
  rw [hmarker, first_of_marker ht fun h => hnoise _ h rfl,
    packet_of_whole (by omega) (by rw [List.length_append]; omega), hbody, hresponse, hsize,
    ← hbytes]

/-- **A stream without packets is used up.** -/
theorem first_of_packets_nil {pieces : List (Piece field)} (ht : 0 < timeoutMs)
    (h : Piece.packets pieces = []) :
    first field timeoutMs (Piece.stream pieces) =
      ⟨.error (.timeout "start marker"), [], (Piece.stream pieces).length⟩ :=
  first_of_noise ht (Piece.ne_of_mem_stream h)

/-- **The first packet of a stream is cut off exactly.** What is left is a stream with the packets
behind it. -/
theorem first_of_packets_cons {pieces : List (Piece field)} {p : WirePacket field}
    {rest : List (WirePacket field)} (ht : 0 < timeoutMs) (h : Piece.packets pieces = p :: rest) :
    ∃ later, Piece.packets later = rest ∧
      (first field timeoutMs (Piece.stream pieces)).result = .ok p.response ∧
      (first field timeoutMs (Piece.stream pieces)).held = p.bytes ∧
      (Piece.stream pieces).drop (first field timeoutMs (Piece.stream pieces)).consumed =
        Piece.stream later := by
  obtain ⟨noise, later, hnoise, hstream, hrest⟩ := Piece.exists_of_packets_cons h
  have hcut := first_of_noise_packet (.inl ht) hnoise p (Piece.stream later)
  rw [← hstream] at hcut
  refine ⟨later, hrest, by rw [hcut], by rw [hcut], ?_⟩
  rw [hcut, hstream, ← List.append_assoc, ← List.length_append]
  exact List.drop_left

end Cut

end Vocoder
