import Vocoder.Proofs.Alike
import Vocoder.Proofs.Framing
import Vocoder.Proofs.Simulation
import Vocoder.Workbench

/-!
# The packet line

A line whose content is a queue of packets: every accepted write appends the packets of the next reply,
and receiving takes the packet at the head. There are no bytes, so there is no noise either, and no piece
of a packet can be missing.

* `PacketLine.Frames` — a bench line carries the packets of a packet line, with noise anywhere between
  them. Sending, receiving and closing keep this (`send_frames`, `receive_frames`, `close_frames`).
* `PacketLine.simulation` — a session cannot tell a bench line on which nothing fails from the packet line
  it carries.
-/

namespace Vocoder

/-- A line that carries packets. -/
structure PacketLine (field : LengthField) where
  /-- Replies not yet released, the next one first. -/
  replies : List (List (WirePacket field)) := []
  /-- Packets that can be received now. -/
  queue : List (WirePacket field) := []
  /-- Every accepted write, oldest first. -/
  sent : List (List UInt8) := []
  failPrepare : Bool := false
  isClosed : Bool := false

namespace PacketLine

variable {field : LengthField}

/-- Log the bytes and release the next reply. -/
def send (l : PacketLine field) (bytes : List UInt8) : Except Fault Unit × PacketLine field :=
  if l.isClosed then (.error .closed, l)
  else
    (.ok (),
      { l with
        sent := l.sent ++ [bytes]
        queue := l.queue ++ l.replies.head?.getD []
        replies := l.replies.tail })

/-- Take the packet at the head of the queue. -/
def receive (r : Reader) (l : PacketLine field) :
    Except Fault Response × Reader × PacketLine field :=
  if l.failPrepare then (.error .noMessage, { r with held := [] }, l)
  else if l.isClosed then (.error .closed, { r with held := [] }, l)
  else
    match l.queue with
    | [] => (.error (.timeout "start marker"), { r with held := [] }, l)
    | p :: rest => (.ok p.response, { r with held := p.bytes }, { l with queue := rest })

/-- Close the line; what could be received is gone. -/
def close (l : PacketLine field) : PacketLine field :=
  { l with isClosed := true, queue := [] }

instance : Port (PacketLine field) := ⟨send, receive, close⟩

/-! ## Bench lines that carry packets -/

/-- The bytes are a stream of these packets. -/
def Carries (bytes : List UInt8) (queue : List (WirePacket field)) : Prop :=
  ∃ pieces, Piece.stream pieces = bytes ∧ Piece.packets pieces = queue

theorem Carries.nil : Carries [] ([] : List (WirePacket field)) :=
  ⟨[], rfl, rfl⟩

theorem Carries.append {a b : List UInt8} {p q : List (WirePacket field)} (ha : Carries a p)
    (hb : Carries b q) : Carries (a ++ b) (p ++ q) := by
  obtain ⟨pieces, rfl, rfl⟩ := ha
  obtain ⟨more, rfl, rfl⟩ := hb
  exact ⟨pieces ++ more, Piece.stream_append .., Piece.packets_append ..⟩

/-- The bench line fails neither reads nor writes, accepts whole requests, and carries what the packet
line has, both in what can be read and in its replies. -/
structure Frames (l : BenchLine) (m : PacketLine field) : Prop where
  incoming : Carries l.incoming m.queue
  replies : ∃ rows : List (List (Piece field)),
    l.replies = rows.map Piece.stream ∧ m.replies = rows.map Piece.packets
  sent : m.sent = l.sent
  failPrepare : m.failPrepare = l.failPrepare
  isClosed : m.isClosed = l.isClosed
  failReads : l.failReads = false
  failWrites : l.failWrites = false
  acceptLimit : l.acceptLimit = none

variable {l l' : BenchLine} {m : PacketLine field}

/-- A request goes out on both lines or on neither, and releases the same packets. -/
theorem send_frames (h : Frames l m) {bytes : List UInt8} {x : Except Fault Unit}
    (hs : Line.send l bytes = (x, l')) : ∃ m', send m bytes = (x, m') ∧ Frames l' m' := by
  by_cases hclosed : l.isClosed = true
  · have hwrite : Line.write l bytes = (.error .closed, l) := if_pos hclosed
    rw [Line.send, hwrite] at hs
    cases hs
    rw [send, if_pos (h.isClosed.trans hclosed)]
    exact ⟨m, rfl, h⟩
  · have hopen : ¬ m.isClosed = true := by
      rw [h.isClosed]
      exact hclosed
    have hfail : ¬ l.failWrites = true := by
      rw [h.failWrites]
      decide
    have hwrite : Line.write l bytes =
        (.ok bytes.length,
          { l with
            sent := l.sent ++ [bytes]
            incoming := l.incoming ++ l.replies.head?.getD []
            replies := l.replies.tail }) := by
      show BenchLine.write l bytes = _
      rw [BenchLine.write, if_neg hclosed, if_neg hfail, h.acceptLimit]
      rfl
    rw [Line.send, hwrite] at hs
    simp only [if_true] at hs
    cases hs
    rw [send, if_neg hopen]
    obtain ⟨rows, hl, hm⟩ := h.replies
    refine ⟨_, rfl, { h with incoming := ?_, replies := ?_, sent := congrArg (· ++ [bytes]) h.sent }⟩
    · -- the next reply moves up on both lines, or there is none on either
      refine h.incoming.append ?_
      rw [hl, hm]
      cases rows with
      | nil => exact .nil
      | cons row rows => exact ⟨row, rfl, rfl⟩
    · exact ⟨rows.tail, by rw [hl, List.map_tail], by rw [hm, List.map_tail]⟩

/-- A reader with some time gets the packet at the head, or times out on both lines. -/
theorem receive_frames {r r' : Reader} {m : PacketLine r.lengthField} (h : Frames l m)
    (ht : 0 < r.timeoutMs) {x : Except Fault Response} (hs : r.receive l = (x, r', l')) :
    ∃ m', receive r m = (x, r', m') ∧ Frames l' m' := by
  rw [r.receive_bench l] at hs
  rw [receive]
  by_cases hfail : l.failPrepare = true
  · simp only [if_pos hfail] at hs
    cases hs
    rw [if_pos (h.failPrepare.trans hfail)]
    exact ⟨m, rfl, { h with }⟩
  · have hfail' : ¬ m.failPrepare = true := by
      rw [h.failPrepare]
      exact hfail
    by_cases hclosed : l.isClosed = true
    · simp only [if_neg hfail, if_pos hclosed] at hs
      cases hs
      rw [if_neg hfail', if_pos (h.isClosed.trans hclosed)]
      exact ⟨m, rfl, { h with }⟩
    · have hopen : ¬ m.isClosed = true := by
        rw [h.isClosed]
        exact hclosed
      have hreads : ¬ l.failReads = true := by
        rw [h.failReads]
        decide
      obtain ⟨pieces, hstream, hpackets⟩ := h.incoming
      simp only [if_neg hfail, if_neg hclosed, if_neg hreads] at hs
      rw [← hstream] at hs
      rw [if_neg hfail', if_neg hopen]
      cases hq : m.queue with
      | nil =>
        -- noise at most: it is used up, and the queue stays empty
        rw [Cut.first_of_packets_nil ht (hpackets.trans hq)] at hs
        cases hs
        refine ⟨m, rfl, { h with incoming := ?_ }⟩
        rw [List.drop_length, hq]
        exact .nil
      | cons p rest =>
        -- what stays on the line begins right behind the packet at the head
        obtain ⟨later, hlater, hresult, hheld, hdrop⟩ :=
          Cut.first_of_packets_cons ht (hpackets.trans hq)
        rw [hresult, hheld, hdrop] at hs
        cases hs
        exact ⟨{ m with queue := rest }, rfl, { h with incoming := ⟨later, rfl, hlater⟩ }⟩

theorem close_frames (h : Frames l m) : Frames l.close m.close :=
  { h with incoming := .nil, isClosed := rfl }

/-! ## A bench line on the workbench -/

/-- Sending on a bench line with a number is sending on the bench line. -/
theorem send_numbered (number : Nat) (l : BenchLine) (bytes : List UInt8) :
    Line.send (⟨number, .bench l⟩ : Numbered) bytes =
      ((Line.send l bytes).1, ⟨number, .bench (Line.send l bytes).2⟩) := by
  have hwrite : Line.write (⟨number, .bench l⟩ : Numbered) bytes =
      ((Line.write l bytes).1, ⟨number, .bench (Line.write l bytes).2⟩) := rfl
  rw [Line.send, Line.send, hwrite]
  rcases Line.write l bytes with ⟨_ | n, l'⟩
  · rfl
  · show (if n = bytes.length then _ else _) = _
    by_cases hn : n = bytes.length
    · simp only [if_pos hn]
    · simp only [if_neg hn]

/-- A reader cannot see the number of a bench line. -/
theorem alike_numbered (number : Nat) :
    Line.Alike fun (l : BenchLine) (n : Numbered) => n = ⟨number, .bench l⟩ where
  prepare := by
    rintro l l' _ x rfl h
    have hnumbered : Line.prepare (⟨number, .bench l⟩ : Numbered) =
        ((Line.prepare l).1, ⟨number, .bench (Line.prepare l).2⟩) := rfl
    exact ⟨⟨number, .bench l'⟩, by rw [hnumbered, h], rfl⟩
  read := by
    rintro l l' _ n x rfl h
    have hnumbered : Line.read (⟨number, .bench l⟩ : Numbered) n =
        ((Line.read l n).1, ⟨number, .bench (Line.read l n).2⟩) := rfl
    exact ⟨⟨number, .bench l'⟩, by rw [hnumbered, h], rfl⟩

/-! ## The simulation -/

/-- The first bench line of a workbench, carrying what a packet line has. -/
def Mirrors (n : Numbered) (m : PacketLine field) : Prop :=
  ∃ l, n = ⟨0, .bench l⟩ ∧ Frames l m

theorem send_mirrors {n n' : Numbered} (h : Mirrors n m) {bytes : List UInt8}
    {x : Except Fault Unit} (hs : Port.send n bytes = (x, n')) :
    ∃ m', Port.send m bytes = (x, m') ∧ Mirrors n' m' := by
  obtain ⟨l, rfl, hl⟩ := h
  rcases hbench : Line.send l bytes with ⟨y, l'⟩
  obtain ⟨m', hsend, hl'⟩ := send_frames hl hbench
  have hs : Line.send (⟨0, .bench l⟩ : Numbered) bytes = (x, n') := hs
  rw [send_numbered, hbench] at hs
  cases hs
  exact ⟨m', hsend, l', rfl, hl'⟩

theorem receive_mirrors {n n' : Numbered} {r r' : Reader} {m : PacketLine r.lengthField}
    (h : Mirrors n m) (ht : 0 < r.timeoutMs) {x : Except Fault Response}
    (hs : Port.receive r n = (x, r', n')) :
    ∃ m', Port.receive r m = (x, r', m') ∧ Mirrors n' m' := by
  obtain ⟨l, rfl, hl⟩ := h
  have hs : r.receive (⟨0, .bench l⟩ : Numbered) = (x, r', n') := hs
  rcases hbench : r.receive l with ⟨y, r'', l'⟩
  obtain ⟨n'', hn, rfl⟩ := Reader.receive_alike (alike_numbered 0) rfl hbench
  rw [hn] at hs
  cases hs
  obtain ⟨m', hreceive, hl'⟩ := receive_frames hl ht hbench
  exact ⟨m', hreceive, l', rfl, hl'⟩

/-- **Packets on bytes.** A session of a configuration with some time cannot tell a bench line from the
packet line whose packets it carries. -/
def simulation {c : SessionConfig} (ht : 0 < c.responseTimeoutMs) :
    Port.Simulation Numbered (PacketLine c.lengthField) c where
  Rel := Mirrors
  Asked := Mirrors
  rename := id
  rename_of_session := Port.Simulation.id_of_session
  asked_of_rel h := h
  send_ok h _ hs := send_mirrors h hs
  send_error h _ hs := send_mirrors h hs
  receive {n _ m r _ _} h hr hs := by
    have hfits := Reader.fits_receive hr hs
    obtain ⟨field, timeoutMs, held⟩ := r
    obtain ⟨rfl, rfl⟩ := hr
    obtain ⟨m', hm, h'⟩ := receive_mirrors h ht hs
    exact ⟨m', by rw [hm, mapError_id], hfits, h'⟩
  close h := by
    obtain ⟨l, rfl, hl⟩ := h
    exact ⟨l.close, rfl, close_frames hl⟩

end PacketLine

end Vocoder
