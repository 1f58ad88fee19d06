import Vocoder.Device
import Vocoder.Proofs.Framing
import Vocoder.Proofs.Simulation

/-!
# Scripted devices

What one request and one receive do to a scripted device, behind a serial line and behind a datagram
line.

* `IsRequest.exists_packet`, `splitPackets_request` — a request is one packet, and the far end of a serial
  line cuts it out as such.
* `SerialDevice.send_request`, `SerialDevice.receive_eq` — the reply to a request is appended to what can
  be read, and a reader cuts the first packet off that.
* `DatagramDevice.send_eq`, `DatagramDevice.receive_of_nil`, `DatagramDevice.receive_of_cons` — the reply to
  a request is a message that waits, unless it is silence. A reader forgets what is left of the message
  before and cuts the first packet off the next one, as far as that fits the staging buffer.
-/

namespace Vocoder

/-! ## Requests are packets -/

theorem IsRequest.exists_packet {bytes : List UInt8} (h : IsRequest bytes) :
    ∃ kind payload, bytes = packet kind payload ∧ headerLength + payload.length ≤ maxPacketLength := by
  cases h with
  | identify => exact ⟨controlType, [productSubtype], rfl, by decide⟩
  | rate h =>
    rw [Rate.request?] at h
    obtain ⟨words, hwords, rfl⟩ := Option.map_eq_some_iff.mp h
    refine ⟨_, _, rfl, ?_⟩
    rw [List.length_cons, Rate.length_controlWords hwords]
    decide
  | gain gainIn gainOut => exact ⟨_, _, gainRequest_eq gainIn gainOut, by simp [headerLength, maxPacketLength]⟩
  | audio block =>
    refine ⟨_, _, audioPacket_eq block, ?_⟩
    simp [length_encodeSamples, block.length_samples, blockSamples, headerLength, maxPacketLength]
  | @voice voice rate bytes h =>
    have hfits : rate.voiceBytes ≤ voice.length := by
      refine Nat.le_of_not_lt fun hsmall => ?_
      rw [voicePacket, if_pos hsmall] at h
      cases h
    rw [voicePacket_host hfits] at h
    cases h
    have := rate.voiceBytes_le
    rw [Rate.maxVoiceBytes] at this
    refine ⟨_, _, rfl, ?_⟩
    simp only [List.length_cons, List.length_take, headerLength, maxPacketLength]
    omega

theorem splitPackets_request {bytes : List UInt8} (h : IsRequest bytes) :
    splitPackets bytes = ([bytes], []) := by
  obtain ⟨kind, payload, rfl, hmax⟩ := h.exists_packet
  have hheader : ¬ (packet kind payload).length < headerLength := by
    rw [length_packet]
    omega
  have htotal : LengthField.full.total (packet kind payload) = (packet kind payload).length :=
    LengthField.full.total_packet hmax
  -- it is as long as it declares, so nothing is left over
  have hempty : splitPackets [] = ([], []) := by
    rw [splitPackets, if_pos (by decide)]
  rw [splitPackets, if_neg hheader, htotal, if_neg (Nat.lt_irrefl _), List.drop_length, hempty,
    List.take_length]

/-! ## Behind a serial line -/

namespace SerialDevice

def advance (d : SerialDevice) (k : Nat) : SerialDevice :=
  { d with line := { d.line with incoming := d.line.incoming.drop k } }

instance : FlowingLine SerialDevice where
  Flows d := d.line.isOpen = true ∧ d.line.hungUp = false
  advance := advance
  advance_zero _ := rfl
  advance_add d i j := by
    rw [advance, advance, advance, List.drop_drop]
  readable_advance _ _ := rfl
  flows_advance _ h := h
  read_of_flows := by
    intro d n h hn
    refine ⟨min n d.line.incoming.length, by omega, Nat.min_le_right .., ?_, ?_⟩
    · intro hne
      have hpos : 0 < d.line.incoming.length := List.length_pos_iff.mpr hne
      omega
    · -- a read takes what there is, up to the number asked for
      have hread : d.line.read n =
          (.ok (d.line.incoming.take n), { d.line with incoming := d.line.incoming.drop n }) := by
        rw [SerialLine.read, if_neg (by simp [h.1]), if_neg (by simp [h.2])]
      have htake : d.line.incoming.take (min n d.line.incoming.length) = d.line.incoming.take n := by
        rw [← List.take_take, List.take_length]
      have hdrop : d.line.incoming.drop (min n d.line.incoming.length) = d.line.incoming.drop n := by
        rcases Nat.le_total n d.line.incoming.length with hle | hle
        · rw [Nat.min_eq_left hle]
        · rw [Nat.min_eq_right hle, List.drop_length, List.drop_eq_nil_of_le hle]
      show (_, _) = (Except.ok (d.line.incoming.take _), advance d _)
      rw [hread, htake, advance, hdrop]

/-- The device hears what is sent, and is not in the middle of a request. -/
structure Hears (d : SerialDevice) : Prop where
  isOpen : d.line.isOpen = true
  hungUp : d.line.hungUp = false
  unfinished : d.unfinished = []

/-- The device after a request: the next reply of the script has arrived. -/
def answered (d : SerialDevice) (request : List UInt8) : SerialDevice where
  line :=
    { d.line with
      incoming := d.line.incoming ++ d.script.replies.head?.getD []
      outgoing := d.line.outgoing ++ request }
  script := { replies := d.script.replies.tail, requests := d.script.requests ++ [request] }
  unfinished := []

theorem hears_answered {d : SerialDevice} (h : d.Hears) (request : List UInt8) :
    (d.answered request).Hears :=
  ⟨h.isOpen, h.hungUp, rfl⟩

theorem send_request {d : SerialDevice} (h : d.Hears) {request : List UInt8} (hq : IsRequest request) :
    Line.send d request = (.ok (), d.answered request) := by
  have hline : d.line.write request =
      (.ok request.length, { d.line with outgoing := d.line.outgoing ++ request }) := by
    rw [SerialLine.write, if_neg (by simp [h.isOpen]), if_neg (by simp [h.hungUp])]
  have hwrite : Line.write d request = (.ok request.length, d.answered request) := by
    show d.write request = _
    rw [write, hline, h.unfinished]
    dsimp only
    -- nothing of an earlier request is unfinished, so this one is answered by itself
    rw [List.nil_append, splitPackets_request hq]
    simp only [Script.answerAll, Script.answer, List.append_nil]
    rfl
  rw [Line.send, hwrite]
  exact if_pos rfl

/-- A reader cuts the first packet off what has arrived. -/
theorem receive_eq {d : SerialDevice} (h : d.Hears) (r : Reader) :
    r.receive d =
      (let cut := Cut.first r.lengthField r.timeoutMs d.line.incoming
      (cut.result, { r with held := cut.held }, d.advance cut.consumed)) :=
  r.receive_of_flows rfl (show FlowingLine.Flows d from ⟨h.isOpen, h.hungUp⟩)

theorem send_of_closed {d : SerialDevice} (h : d.line.isOpen = false) (bytes : List UInt8) :
    Line.send d bytes = (.error .closed, d) := by
  have hwrite : Line.write d bytes = (.error .closed, d) := by
    show d.write bytes = _
    rw [write, SerialLine.write, if_pos (by simp [h])]
  rw [Line.send, hwrite]

theorem receive_of_closed {d : SerialDevice} (h : d.line.isOpen = false) (r : Reader) :
    r.receive d = (.error .closed, { r with held := [] }, d) := by
  have hread : Line.read d 1 = (.error .closed, d) := by
    show ((d.line.read 1).1, ({ d with line := (d.line.read 1).2 } : SerialDevice)) = _
    rw [SerialLine.read, if_pos (by simp [h])]
  have hprepare : Line.prepare d = (.ok (), d) := rfl
  rw [Reader.receive, hprepare]
  dsimp only
  rw [Reader.seekMarker_of_error hread]

end SerialDevice

/-! ## Behind a datagram line -/

namespace DatagramDevice

def advance (d : DatagramDevice) (k : Nat) : DatagramDevice :=
  { d with line := { d.line with position := d.line.position + k } }

instance : FlowingLine DatagramDevice where
  Flows d := d.line.isOpen = true
  advance := advance
  advance_zero _ := rfl
  advance_add d i j := by
    rw [advance, advance, advance, Nat.add_assoc]
  readable_advance d k := by
    show d.line.staged.drop (d.line.position + k) = (d.line.staged.drop d.line.position).drop k
    rw [List.drop_drop]
  flows_advance _ h := h
  read_of_flows := by
    intro d n h hn
    have hlength : (d.line.rest.take n).length = min n d.line.rest.length := List.length_take ..
    refine ⟨min n d.line.rest.length, by omega, Nat.min_le_right .., ?_, ?_⟩
    · intro hne
      have hpos : 0 < d.line.rest.length := List.length_pos_iff.mpr hne
      omega
    · have hread : d.line.read n =
          (.ok (d.line.rest.take n),
            { d.line with position := d.line.position + (d.line.rest.take n).length }) := by
        rw [DatagramLine.read, if_pos h]
      have htake : d.line.rest.take (min n d.line.rest.length) = d.line.rest.take n := by
        rw [← List.take_take, List.take_length]
      show (_, _) = (Except.ok (d.line.rest.take _), advance d _)
      rw [hread, htake, advance, hlength]

/-- The device hears what is sent. -/
structure Hears (d : DatagramDevice) : Prop where
  isOpen : d.line.isOpen = true
  route : d.line.route = .up

/-- What arrives with a reply: one message, or none if the reply is silence. -/
def messages (reply : List UInt8) : List (List UInt8) :=
  if reply = [] then [] else [reply]

/-- The device after a request: the next reply of the script has arrived. -/
def answered (d : DatagramDevice) (request : List UInt8) : DatagramDevice where
  line :=
    { d.line with
      inbox := d.line.inbox ++ messages (d.script.replies.head?.getD [])
      outbox := d.line.outbox ++ [request] }
  script := { replies := d.script.replies.tail, requests := d.script.requests ++ [request] }

theorem hears_answered {d : DatagramDevice} (h : d.Hears) (request : List UInt8) :
    (d.answered request).Hears :=
  ⟨h.isOpen, h.route⟩

theorem send_eq {d : DatagramDevice} (h : d.Hears) (request : List UInt8) :
    Line.send d request = (.ok (), d.answered request) := by
  have hline : d.line.write request =
      (.ok request.length, { d.line with outbox := d.line.outbox ++ [request] }) := by
    simp only [DatagramLine.write, if_pos h.isOpen, h.route]
  have hwrite : Line.write d request = (.ok request.length, d.answered request) := by
    show d.write request = _
    rw [write, hline]
    -- an empty reply is silence, and sends no message
    cases hreply : d.script.replies.head?.getD [] with
    | nil => simp only [Script.answer, hreply, answered, messages, if_true, List.append_nil]
    | cons b bs =>
      simp only [Script.answer, hreply, answered, messages, DatagramLine.deliver?, h.route, h.isOpen,
        if_true, Option.getD_some, reduceCtorEq, if_false]
  rw [Line.send, hwrite]
  exact if_pos rfl

/-- The device with no message staged. -/
def unstaged (d : DatagramDevice) : DatagramDevice :=
  { d with line := { d.line with staged := [], position := 0 } }

/-- The device with a message taken from its inbox, and so many bytes of it read. -/
def staged (d : DatagramDevice) (message : List UInt8) (later : List (List UInt8)) (k : Nat) :
    DatagramDevice :=
  { d with line := { d.line with staged := message.take stagingSize, inbox := later, position := k } }

/-- Without a message nothing is received, whatever is left of the message before. -/
theorem receive_of_nil {d : DatagramDevice} (h : d.line.isOpen = true) (hinbox : d.line.inbox = [])
    (r : Reader) : r.receive d = (.error .noMessage, { r with held := [] }, d.unstaged) := by
  have hprepare : Line.prepare d = (.error .noMessage, d.unstaged) := by
    have hline : d.line.prepare = (.error .noMessage, { d.line with staged := [], position := 0 }) := by
      simp only [DatagramLine.prepare, if_pos h, hinbox]
    show (d.line.prepare.1, ({ d with line := d.line.prepare.2 } : DatagramDevice)) = _
    rw [hline]
    rfl
  rw [Reader.receive, hprepare]

/-- A reader cuts the first packet off the next message, as much of it as can be staged. -/
theorem receive_of_cons {d : DatagramDevice} (h : d.line.isOpen = true) {message : List UInt8}
    {later : List (List UInt8)} (hinbox : d.line.inbox = message :: later) (hne : message ≠ [])
    (r : Reader) :
    r.receive d =
      (let cut := Cut.first r.lengthField r.timeoutMs (message.take stagingSize)
      (cut.result, { r with held := cut.held }, d.staged message later cut.consumed)) := by
  obtain ⟨b, bs, rfl⟩ := List.exists_cons_of_ne_nil hne
  have hprepare : Line.prepare d = (.ok (), d.staged (b :: bs) later 0) := by
    have hline : d.line.prepare =
        (.ok (), { d.line with staged := (b :: bs).take stagingSize, position := 0, inbox := later }) := by
      simp only [DatagramLine.prepare, if_pos h, hinbox]
    show (d.line.prepare.1, ({ d with line := d.line.prepare.2 } : DatagramDevice)) = _
    rw [hline]
    rfl
  -- what is staged flows like any other line
  rw [r.receive_of_flows hprepare (show FlowingLine.Flows (d.staged (b :: bs) later 0) from h)]
  have hadvance : ∀ k, FlowingLine.advance (d.staged (b :: bs) later 0) k =
      d.staged (b :: bs) later k := by
    intro k
    show advance _ k = _
    rw [advance, staged]
    dsimp only
    rw [Nat.zero_add]
    rfl
  rw [hadvance]
  rfl

theorem send_of_closed {d : DatagramDevice} (h : d.line.isOpen = false) (bytes : List UInt8) :
    Line.send d bytes = (.error .closed, d) := by
  have hwrite : Line.write d bytes = (.error .closed, d) := by
    show d.write bytes = _
    rw [write, DatagramLine.write, if_neg (by simp [h])]
  rw [Line.send, hwrite]

theorem receive_of_closed {d : DatagramDevice} (h : d.line.isOpen = false) (r : Reader) :
    r.receive d = (.error .closed, { r with held := [] }, d.unstaged) := by
  have hprepare : Line.prepare d = (.error .closed, d.unstaged) := by
    have hline : d.line.prepare = (.error .closed, { d.line with staged := [], position := 0 }) := by
      rw [DatagramLine.prepare, if_neg (by simp [h])]
    show (d.line.prepare.1, ({ d with line := d.line.prepare.2 } : DatagramDevice)) = _
    rw [hline]
    rfl
  rw [Reader.receive, hprepare]

end DatagramDevice

end Vocoder
