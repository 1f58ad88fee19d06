import Mathlib
import Vocoder.Proofs.Devices
import Vocoder.Proofs.PacketBench

/-!
# Serial lines and datagrams

The same device behind a serial line and behind a datagram line. As long as every reply is a packet with
noise ahead of it, noise alone, or silence, both lines have delivered everything after one receive, and a
session behaves alike over both. Silence has two names: a datagram line has no message, and on a serial
line the wait for a start marker times out.

* `PlainReply` — such a reply; `PlainReply.first_bytes` says that a reader uses it up.
* `Twins` — two devices that heard the same, with the same reply waiting on both lines.
* `twins` — a session cannot tell twins apart, but for the name of silence.
* `Venue.run_seen_eq` — so whole runs cannot be told apart, over all the devices that are opened.
-/

namespace Vocoder

open Workbench (Outcome)

/-! ## Replies -/

/-- A reply that one receive uses up: noise, and at most one packet behind it. -/
structure PlainReply (field : LengthField) where
  noise : List UInt8
  packet? : Option (WirePacket field)
  noise_ne : ∀ b ∈ noise, b ≠ startMarker
  length_le : (noise ++ (packet?.map WirePacket.bytes).getD []).length ≤ stagingSize

namespace PlainReply

variable {field : LengthField}

def bytes (p : PlainReply field) : List UInt8 :=
  p.noise ++ (p.packet?.map WirePacket.bytes).getD []

def silent : PlainReply field where
  noise := []
  packet? := none
  noise_ne := by simp
  length_le := Nat.zero_le _

/-- A reader finds the packet or times out, and uses up the whole reply. -/
theorem first_bytes (p : PlainReply field) {timeoutMs : Nat} (ht : 0 < timeoutMs) :
    (Cut.first field timeoutMs p.bytes).consumed = p.bytes.length ∧
      ∀ f, (Cut.first field timeoutMs p.bytes).result = .error f → f = .timeout "start marker" := by
  rw [bytes]
  cases p.packet? with
  | none =>
    rw [Option.map_none, Option.getD_none, List.append_nil, Cut.first_of_noise ht p.noise_ne]
    refine ⟨rfl, ?_⟩
    rintro f ⟨⟩
    rfl
  | some q =>
    have hcut := Cut.first_of_noise_packet (.inl ht) p.noise_ne q []
    rw [List.append_nil] at hcut
    rw [Option.map_some, Option.getD_some, hcut]
    exact ⟨List.length_append.symm, nofun⟩

end PlainReply

/-! ## Twins -/

/-- What a fault of a datagram line is called on a serial line. -/
def serialName : Fault → Fault
  | .noMessage => .timeout "start marker"
  | f => f

/-- The device behind the datagram line and the one behind the serial line heard the same and have the same
to say. While the lines are open, the same reply waits on both. -/
structure Twins {field : LengthField} (waiting : PlainReply field) (d : DatagramDevice)
    (e : SerialDevice) : Prop where
  isOpen : e.line.isOpen = d.line.isOpen
  route : d.line.route = .up
  hungUp : e.line.hungUp = false
  unfinished : e.unfinished = []
  script : e.script = d.script
  replies : ∃ rows : List (PlainReply field), d.script.replies = rows.map PlainReply.bytes
  inbox : d.line.isOpen = true → d.line.inbox = DatagramDevice.messages waiting.bytes
  incoming : d.line.isOpen = true → e.line.incoming = waiting.bytes

namespace Twins

variable {field : LengthField} {waiting : PlainReply field} {d : DatagramDevice} {e : SerialDevice}

theorem hears (h : Twins waiting d e) (hopen : d.line.isOpen = true) : d.Hears ∧ e.Hears :=
  ⟨⟨hopen, h.route⟩, ⟨h.isOpen.trans hopen, h.hungUp, h.unfinished⟩⟩

theorem answered (h : Twins (.silent : PlainReply field) d e) (request : List UInt8) :
    ∃ waiting : PlainReply field, Twins waiting (d.answered request) (e.answered request) := by
  obtain ⟨rows, hrows⟩ := h.replies
  -- the next reply of the script; behind its end there is silence
  have hnext : d.script.replies.head?.getD [] = ((rows.head?).getD .silent).bytes := by
    rw [hrows]
    cases rows with
    | nil => rfl
    | cons row rows => rfl
  refine ⟨(rows.head?).getD .silent, h.isOpen, h.route, h.hungUp, rfl, ?_, ?_, ?_, ?_⟩
  · simp only [SerialDevice.answered, DatagramDevice.answered, h.script]
  · exact ⟨rows.tail, by simp only [DatagramDevice.answered, hrows, List.map_tail]⟩
  · intro hopen
    show d.line.inbox ++ DatagramDevice.messages (d.script.replies.head?.getD []) = _
    rw [h.inbox hopen, hnext]
    rfl
  · intro hopen
    show e.line.incoming ++ e.script.replies.head?.getD [] = _
    rw [h.incoming hopen, h.script, hnext]
    rfl

theorem close (h : Twins waiting d e) : Twins (.silent : PlainReply field) (Line.close d) (Line.close e) where
  isOpen := rfl
  route := h.route
  hungUp := h.hungUp
  unfinished := h.unfinished
  script := h.script
  replies := h.replies
  inbox hopen := by cases hopen
  incoming hopen := by cases hopen

theorem unstaged (h : Twins waiting d e) (hclosed : d.line.isOpen = false) :
    Twins (.silent : PlainReply field) d.unstaged e where
  isOpen := h.isOpen
  route := h.route
  hungUp := h.hungUp
  unfinished := h.unfinished
  script := h.script
  replies := h.replies
  -- nothing can wait on a line that is closed
  inbox hopen := nomatch hclosed.symm.trans hopen
  incoming hopen := nomatch hclosed.symm.trans hopen

/-- What waited is gone from both lines. -/
theorem used (h : Twins waiting d e) (hopen : d.line.isOpen = true) {d' : DatagramDevice}
    (hears : d'.Hears) (hinbox : d'.line.inbox = []) (hscript : d'.script = d.script) :
    Twins (.silent : PlainReply field) d' (e.advance waiting.bytes.length) where
  isOpen := h.isOpen.trans (hopen.trans hears.isOpen.symm)
  route := hears.route
  hungUp := h.hungUp
  unfinished := h.unfinished
  script := h.script.trans hscript.symm
  replies := by
    rw [hscript]
    exact h.replies
  inbox _ := hinbox
  incoming _ := by
    show e.line.incoming.drop waiting.bytes.length = []
    rw [h.incoming hopen, List.drop_length]

/-- One receive uses up what waits, and comes to the same, but for the name of silence. -/
theorem receive {c : SessionConfig} {waiting : PlainReply c.lengthField} (h : Twins waiting d e)
    (ht : 0 < c.responseTimeoutMs) {r r' : Reader} (hr : r.Fits c) {d' : DatagramDevice}
    {x : Except Fault Response} (hs : r.receive d = (x, r', d')) :
    ∃ e', r.receive e = (x.mapError serialName, r', e') ∧
      Twins (.silent : PlainReply c.lengthField) d' e' := by
  obtain ⟨field, timeoutMs, held⟩ := r
  obtain ⟨rfl, rfl⟩ := hr
  cases hopen : d.line.isOpen with
  | false =>
    rw [DatagramDevice.receive_of_closed hopen] at hs
    cases hs
    exact ⟨e, SerialDevice.receive_of_closed (h.isOpen.trans hopen) _, h.unstaged hopen⟩
  | true =>
    obtain ⟨hears, hears'⟩ := h.hears hopen
    obtain ⟨hconsumed, htimeout⟩ := waiting.first_bytes ht
    have hreceive := SerialDevice.receive_eq hears' ⟨c.lengthField, c.responseTimeoutMs, held⟩
    rw [h.incoming hopen] at hreceive
    dsimp only at hreceive
    have hinbox := h.inbox hopen
    rw [hconsumed] at hreceive
    by_cases hbytes : waiting.bytes = []
    · -- silence is a missing message there, and a wait in vain here
      rw [DatagramDevice.messages, if_pos hbytes] at hinbox
      have hcut : Cut.first c.lengthField c.responseTimeoutMs waiting.bytes =
          ⟨.error (.timeout "start marker"), [], 0⟩ := by
        rw [hbytes]
        exact Cut.first_of_noise ht (by simp)
      rw [hcut] at hreceive
      rw [DatagramDevice.receive_of_nil hopen hinbox] at hs
      cases hs
      exact ⟨_, hreceive, h.used hopen ⟨hopen, h.route⟩ hinbox rfl⟩
    · rw [DatagramDevice.messages, if_neg hbytes] at hinbox
      have hstaged : waiting.bytes.take stagingSize = waiting.bytes :=
        List.take_of_length_le waiting.length_le
      rw [DatagramDevice.receive_of_cons hopen hinbox hbytes, hstaged] at hs
      cases hs
      refine ⟨_, ?_, h.used hopen ⟨hopen, h.route⟩ rfl rfl⟩
      rw [hreceive]
      cases hresult : (Cut.first c.lengthField c.responseTimeoutMs waiting.bytes).result with
      | error f =>
        rw [htimeout f hresult]
        rfl
      | ok got => rfl

end Twins

/-- **A session cannot tell twins apart**, but for the name of silence. -/
def twins {c : SessionConfig} (ht : 0 < c.responseTimeoutMs) :
    Port.Simulation DatagramDevice SerialDevice c where
  Rel := Twins (.silent : PlainReply c.lengthField)
  Asked d e := ∃ waiting : PlainReply c.lengthField, Twins waiting d e
  rename := serialName
  rename_of_session f hf := by
    cases f
    case noMessage => exact hf.elim
    all_goals rfl
  asked_of_rel h := ⟨.silent, h⟩
  send_ok {d d' e bytes} h hq hs := by
    replace hs : Line.send d bytes = (.ok (), d') := hs
    cases hopen : d.line.isOpen with
    | false =>
      rw [DatagramDevice.send_of_closed hopen] at hs
      cases hs
    | true =>
      obtain ⟨hears, hears'⟩ := h.hears hopen
      rw [DatagramDevice.send_eq hears] at hs
      cases hs
      exact ⟨_, SerialDevice.send_request hears' hq, h.answered bytes⟩
  send_error {d d' e bytes f} h hq hs := by
    replace hs : Line.send d bytes = (.error f, d') := hs
    cases hopen : d.line.isOpen with
    | false =>
      rw [DatagramDevice.send_of_closed hopen] at hs
      cases hs
      exact ⟨e, SerialDevice.send_of_closed (h.isOpen.trans hopen) bytes, h⟩
    | true =>
      rw [DatagramDevice.send_eq (h.hears hopen).1] at hs
      cases hs
  receive {d d' e r r' x} h hr hs := by
    obtain ⟨waiting, h⟩ := h
    obtain ⟨e', hreceive, h'⟩ := h.receive ht hr hs
    exact ⟨e', hreceive, Reader.fits_receive hr hs, h'⟩
  close h := by
    obtain ⟨waiting, h⟩ := h
    exact h.close

/-! ## Sessions over corresponding ports, once more -/

theorem forall₂_toList {α β : Type} {R : α → β → Prop} {a : Option α} {b : Option β}
    (h : Option.Rel R a b) : List.Forall₂ R a.toList b.toList := by
  cases h with
  | none => exact .nil
  | some hR => exact .cons hR .nil

namespace Port.Simulation.Similar

variable {L M : Type} [Port L] [Port M] {c : SessionConfig} {S : Port.Simulation L M c}
  {s s' : Session L} {t : Session M}

/-- Opening corresponding ports: what is handed back corresponds, too. -/
theorem openLine (h : S.Similar s t) {l : L} {m : M} (hR : S.Rel l m) {x : Except Fault Unit}
    {released : List L} (hs : s.openLine (.ok l) = (x, s', released)) :
    ∃ t' released', t.openLine (.ok m) = (x.mapError S.rename, t', released') ∧ S.Similar s' t' ∧
      List.Forall₂ S.Rel released released' := by
  obtain ⟨hclosed, hold⟩ := h.close
  rcases hattach : s.close.1.attach l with ⟨y, s₁, new⟩
  obtain ⟨t₁, new', hattach', h₁, hnew⟩ := hclosed.attach rfl hR hattach
  have hopen : s.openLine (.ok l) = (y, s₁, s.close.2.toList ++ new) := by
    rw [Session.openLine.eq_def]
    simp only [hattach]
  have hopen' : t.openLine (.ok m) = (y.mapError S.rename, t₁, t.close.2.toList ++ new') := by
    rw [Session.openLine.eq_def]
    simp only [hattach']
  rw [hopen] at hs
  cases hs
  refine ⟨t₁, _, hopen', h₁, List.rel_append (forall₂_toList hold) ?_⟩
  rcases hnew with ⟨rfl, rfl, -⟩ | ⟨-, l', m', rfl, rfl, hR'⟩
  · exact .nil
  · exact .cons hR' .nil

theorem withoutLine_eq (h : S.Similar s t) : t.withoutLine = s.withoutLine := by
  have hline : (t.line.map fun _ => ()) = s.line.map fun _ => () := by
    rcases h.ports with ⟨hs, ht⟩ | ⟨l, m, hs, ht, -⟩
    · rw [hs, ht]
      rfl
    · rw [hs, ht]
      rfl
  simp only [Session.withoutLine, h.config_left, h.config_right, h.held, h.settings, h.productName,
    h.stats, hline]

end Port.Simulation.Similar

/-! ## Runs with scripted devices -/

/-- A kind of line to a scripted device. -/
class DeviceLine (L : Type) [Line L] where
  /-- A fresh line to a device with these replies. -/
  device : List (List UInt8) → L
  /-- The requests that the device has received, oldest first. -/
  requests : L → List (List UInt8)

instance : DeviceLine DatagramDevice where
  device replies := { script := { replies := replies } }
  requests d := d.script.requests

instance : DeviceLine SerialDevice where
  device replies := { script := { replies := replies } }
  requests d := d.script.requests

/-- A session and the lines it has let go of. -/
structure Venue (L : Type) where
  session : Session L
  released : List L

/-- One step of a session that is given scripted devices. -/
inductive VenueStep (field : LengthField) where
  /-- Open a fresh device with these replies. -/
  | openDevice (replies : List (PlainReply field))
  | close
  | call (c : Call)

namespace Venue

def start (L : Type) (c : SessionConfig) : Venue L where
  session := { config := c }
  released := []

variable {L : Type} [Line L] [DeviceLine L] {field : LengthField}

def step (v : Venue L) : VenueStep field → Outcome × Venue L
  | .openDevice replies =>
    match v.session.openLine (.ok (DeviceLine.device (replies.map PlainReply.bytes))) with
    | (result, s, released) => (.finished result, ⟨s, v.released ++ released⟩)
  | .close =>
    match v.session.close with
    | (s, released) => (.done, ⟨s, v.released ++ released.toList⟩)
  | .call c =>
    match c.run v.session with
    | (outcome, s) => (outcome, ⟨s, v.released⟩)

def run (v : Venue L) : List (VenueStep field) → List (Outcome × Venue L)
  | [] => []
  | s :: later =>
    let next := v.step s
    next :: next.2.run later

/-- Everything about the session but its line, and the requests that each device has received: those of the
lines let go of, and of the one held. -/
def seen (v : Venue L) : Session Unit × List (List (List UInt8)) :=
  (v.session.withoutLine, (v.released ++ v.session.line.toList).map DeviceLine.requests)

/-! ### The two kinds of lines -/

variable {c : SessionConfig} {ht : 0 < c.responseTimeoutMs} {v : Venue DatagramDevice}
  {w : Venue SerialDevice}

/-- The same session, over twins. -/
structure Paired (ht : 0 < c.responseTimeoutMs) (v : Venue DatagramDevice) (w : Venue SerialDevice) :
    Prop where
  similar : (twins ht).Similar v.session w.session
  released : List.Forall₂ (twins ht).Rel v.released w.released

namespace Paired

theorem seen_eq (h : Paired ht v w) : w.seen = v.seen := by
  have hlines : List.Forall₂ (twins ht).Rel (v.released ++ v.session.line.toList)
      (w.released ++ w.session.line.toList) :=
    List.rel_append h.released (forall₂_toList h.similar.line)
  have hrequests : (w.released ++ w.session.line.toList).map DeviceLine.requests =
      (v.released ++ v.session.line.toList).map DeviceLine.requests := by
    generalize v.released ++ v.session.line.toList = ds at hlines ⊢
    generalize w.released ++ w.session.line.toList = es at hlines ⊢
    induction hlines with
    | nil => rfl
    | cons hR _ ih =>
      have hscript := congrArg Script.requests (Twins.script hR)
      exact congrArg₂ List.cons hscript ih
  rw [seen, seen, h.similar.withoutLine_eq, hrequests]

theorem step (h : Paired ht v w) (s : VenueStep c.lengthField) :
    (w.step s).1 = (v.step s).1.mapFault serialName ∧ Paired ht (v.step s).2 (w.step s).2 := by
  cases s with
  | openDevice replies =>
    have hfresh : (twins ht).Rel (DeviceLine.device (replies.map PlainReply.bytes))
        (DeviceLine.device (replies.map PlainReply.bytes)) :=
      ⟨rfl, rfl, rfl, rfl, rfl, ⟨replies, rfl⟩, fun _ => rfl, fun _ => rfl⟩
    rcases hs : v.session.openLine (.ok (DeviceLine.device (replies.map PlainReply.bytes))) with
      ⟨x, s', released⟩
    obtain ⟨t', released', ht', h', hreleased⟩ := h.similar.openLine hfresh hs
    simp only [Venue.step, hs, ht']
    exact ⟨rfl, h', List.rel_append h.released hreleased⟩
  | close =>
    obtain ⟨h', hline⟩ := h.similar.close
    exact ⟨rfl, h', List.rel_append h.released (forall₂_toList hline)⟩
  | call call =>
    obtain ⟨t', ht', h'⟩ := h.similar.call call
    simp only [Venue.step, ht']
    exact ⟨rfl, h', h.released⟩

theorem run (h : Paired ht v w) (steps : List (VenueStep c.lengthField)) :
    (w.run steps).map (fun r => (r.1, r.2.seen)) =
      (v.run steps).map fun r => (r.1.mapFault serialName, r.2.seen) := by
  -- on the steps, for every pair of venues that are paired
  induction steps generalizing v w with
  | nil => rfl
  | cons s later ih =>
    obtain ⟨houtcome, h'⟩ := h.step s
    rw [Venue.run, Venue.run, List.map_cons, List.map_cons, houtcome, h'.seen_eq, ih h']

end Paired

/-- **The two kinds of lines give the same session.** For every configuration that leaves some time, every
run of a session over scripted devices whose replies are plain looks the same over serial lines and over
datagram lines: the outcome of every step with the caller's buffers, everything about the session, and the
requests that every device has received. Only silence has another name. -/
theorem run_seen_eq (c : SessionConfig) (ht : 0 < c.responseTimeoutMs)
    (steps : List (VenueStep c.lengthField)) :
    ((start SerialDevice c).run steps).map (fun r => (r.1, r.2.seen)) =
      ((start DatagramDevice c).run steps).map fun r => (r.1.mapFault serialName, r.2.seen) := by
  have hstart : Paired ht (start DatagramDevice c) (start SerialDevice c) :=
    ⟨{ config_left := rfl, config_right := rfl, line := .none, held := rfl, settings := rfl,
       productName := rfl, stats := rfl }, .nil⟩
  exact hstart.run steps

/-- A chip that masks lengths: the identification comes behind noise, a rate is acknowledged, and then the
device falls silent. -/
def plainSteps : List (VenueStep .masked) :=
  [ .openDevice
      [ { noise := [0x00, 0xff]
          packet? := some ⟨[0x61, 0xf0, 0x02, 0x00, 0x30, 0x41], by decide, by decide, by decide⟩
          noise_ne := by simp [startMarker]
          length_le := by decide },
        { noise := []
          packet? := some (.ofPayload controlType [0x0a, 0x00] (by decide))
          noise_ne := by simp [startMarker]
          length_le := by decide } ],
    .call (.setRate .r2450),
    .call (.setGain 3 (-3)),
    .close,
    .openDevice [] ]

theorem run_seen_eq_plainSteps :
    0 < ({ lengthField := .masked } : SessionConfig).responseTimeoutMs ∧
      ((start SerialDevice { lengthField := .masked }).run plainSteps).map
          (fun r => (r.1, r.2.seen)) =
        ((start DatagramDevice { lengthField := .masked }).run plainSteps).map
          (fun r => (r.1.mapFault serialName, r.2.seen)) ∧
      ((start DatagramDevice { lengthField := .masked }).run plainSteps).map (fun r => r.1) =
        [ .finished (.ok ()), .finished (.ok ()), .finished (.error .noMessage), .done,
          .finished (.error .noMessage) ] ∧
      ((start SerialDevice { lengthField := .masked }).run plainSteps).map
          (fun r => r.2.seen.2.map List.length) = [[1], [2], [3], [3], [3, 1]] := by
  refine ⟨by decide, run_seen_eq { lengthField := .masked } (by decide) plainSteps, ?_, ?_⟩
  · cbv
  · cbv

end Venue

end Vocoder
