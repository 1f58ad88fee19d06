import Mathlib.Data.List.Forall2
import Vocoder.Line.WireStep
import Vocoder.Proofs.Buffered
import Vocoder.Proofs.History

/-!
# Messages are staged once and in order

A datagram line stages one message at a time, and reads drain the one that is staged. Whatever else happens
in between, messages are taken in the order in which they were delivered, and what is read between one
preparation and the next comes from the front of the one message that was taken there.

* `StagedLine` — the line with its staging buffer as it is kept: one block of fixed size that is never
  cleared, a length and a position. `StagedLine.reachedBy` says that it does what the line does, and that no
  read ever reaches outside the message.
* **`DatagramLine.does_of_step?`** — all that an open line can do in one step.
* **`DatagramLine.Traced`** — what a history tells about the line it leads to, kept by every step.
* **`DatagramLine.staged_in_order`** — every run: what preparations and reads come to, message by message.
-/

namespace Vocoder

/-! ## The staging buffer -/

/-- What asking a socket for a message comes to. -/
inductive Received where
  | message (bytes : List UInt8)
  /-- None came in time. -/
  | nothing
  | failed (cause : String)
  deriving DecidableEq, Repr

/-- As much of it as can be staged. -/
def Received.kept : Received → List UInt8
  | .message bytes => bytes.take stagingSize
  | .nothing | .failed _ => []

/-- Room for a message, how many bytes of it belong to the message staged last, and how many of these have
been read. Behind the message stand bytes of earlier ones. -/
structure StagingBuffer where
  cells : Vector UInt8 stagingSize := Vector.replicate stagingSize 0
  length : Nat := 0
  position : Nat := 0

namespace StagingBuffer

structure InBounds (b : StagingBuffer) : Prop where
  position_le : b.position ≤ b.length
  length_le : b.length ≤ stagingSize

def staged (b : StagingBuffer) : List UInt8 :=
  b.cells.toList.take b.length

/-- The bytes from the position up to the length, if these are places of the buffer in this order. -/
def remaining? (b : StagingBuffer) : Option (List UInt8) :=
  if b.position ≤ b.length ∧ b.length ≤ stagingSize then some (b.staged.drop b.position) else none

/-- Forget the message; its bytes stay where they are. -/
def reset (b : StagingBuffer) : StagingBuffer :=
  { b with length := 0, position := 0 }

/-- Stage what was received. Of a message that is too long only the front is kept. -/
def stage (b : StagingBuffer) : Received → Except Fault Unit × StagingBuffer
  | .nothing => (.error .noMessage, b.reset)
  | .failed cause => (.error (.read cause), b.reset)
  | .message bytes =>
    let kept := bytes.take stagingSize
    let filled := { b.reset with cells := store b.cells 0 kept }
    if 0 < kept.length then (.ok (), { filled with length := kept.length })
    else (.error .noMessage, filled)

def read? (b : StagingBuffer) (n : Nat) : Option (List UInt8 × StagingBuffer) :=
  b.remaining?.map fun remaining =>
    (remaining.take n, { b with position := b.position + min remaining.length n })

theorem inBounds_reset (b : StagingBuffer) : b.reset.InBounds :=
  ⟨Nat.le_refl 0, Nat.zero_le stagingSize⟩

theorem staged_reset (b : StagingBuffer) : b.reset.staged = [] :=
  List.take_zero

theorem length_staged {b : StagingBuffer} (h : b.InBounds) : b.staged.length = b.length := by
  have hroom := h.length_le
  simp [staged, hroom]

theorem remaining?_eq {b : StagingBuffer} (h : b.InBounds) : b.remaining? = some (b.staged.drop b.position) :=
  if_pos ⟨h.position_le, h.length_le⟩

/-- So a read never fails, and takes its bytes off the front of what is left. -/
theorem read?_eq {b : StagingBuffer} (h : b.InBounds) (n : Nat) :
    ∃ b', b.read? n = some ((b.staged.drop b.position).take n, b') ∧ b'.InBounds ∧ b'.staged = b.staged ∧
      b'.position = b.position + ((b.staged.drop b.position).take n).length := by
  refine ⟨{ b with position := b.position + min (b.staged.drop b.position).length n }, ?_, ?_, rfl, ?_⟩
  · rw [read?, remaining?_eq h]
    rfl
  · refine ⟨?_, h.length_le⟩
    have hposition := h.position_le
    show b.position + min (b.staged.drop b.position).length n ≤ b.length
    rw [List.length_drop, length_staged h]
    omega
  · rw [List.length_take, Nat.min_comm]

/-- Whatever is received, what is staged then is the front of the message, and nothing without one. -/
theorem stage_spec (b : StagingBuffer) (received : Received) :
    (b.stage received).2.InBounds ∧ (b.stage received).2.position = 0 ∧
      (b.stage received).2.staged = received.kept := by
  cases received with
  | nothing => exact ⟨b.inBounds_reset, rfl, b.staged_reset⟩
  | failed cause => exact ⟨b.inBounds_reset, rfl, b.staged_reset⟩
  | message bytes =>
    have hroom : (bytes.take stagingSize).length ≤ stagingSize := List.length_take_le ..
    simp only [stage]
    by_cases hpos : 0 < (bytes.take stagingSize).length
    · rw [if_pos hpos]
      refine ⟨⟨Nat.zero_le _, hroom⟩, rfl, ?_⟩
      have hfront : (store b.cells 0 (bytes.take stagingSize)).toList.take
          (0 + (bytes.take stagingSize).length) = b.cells.toList.take 0 ++ bytes.take stagingSize :=
        take_store (by omega)
      rw [Nat.zero_add, List.take_zero, List.nil_append] at hfront
      exact hfront
    · rw [if_neg hpos]
      have hnil : bytes.take stagingSize = [] := List.length_eq_zero_iff.mp (by omega)
      refine ⟨⟨Nat.le_refl 0, Nat.zero_le _⟩, rfl, ?_⟩
      show List.take 0 _ = bytes.take stagingSize
      rw [hnil, List.take_zero]

theorem stage_nil (b : StagingBuffer) : (b.stage (.message [])).1 = .error .noMessage := by
  rw [stage]
  rfl

theorem stage_cons (b : StagingBuffer) (x : UInt8) (bytes : List UInt8) :
    (b.stage (.message (x :: bytes))).1 = .ok () := by
  have hpos : 0 < ((x :: bytes).take stagingSize).length := by
    rw [List.length_take, List.length_cons, stagingSize]
    omega
  simp only [stage]
  rw [if_pos hpos]

/-- When nothing could be staged, reads give nothing. -/
theorem remaining?_of_stage_error {b b' : StagingBuffer} {received : Received} {f : Fault}
    (h : b.stage received = (.error f, b')) : b'.remaining? = some [] := by
  obtain ⟨hbounds, hposition, hstaged⟩ := b.stage_spec received
  rw [h] at hbounds hposition hstaged
  rw [remaining?_eq hbounds, hstaged, hposition, List.drop_zero]
  cases received with
  | nothing => rfl
  | failed cause => rfl
  | message bytes =>
    -- only an empty message is refused
    simp only [stage] at h
    split at h
    · cases h
    · rename_i hpos
      have hnil : bytes.take stagingSize = [] := List.length_eq_zero_iff.mp (by omega)
      exact congrArg some hnil

end StagingBuffer

/-- A datagram line with its staging buffer. The socket is a line whose own staging is not used. -/
structure StagedLine where
  socket : DatagramLine := {}
  buffer : StagingBuffer := {}

namespace StagedLine

/-- The line as it shows: what is staged, and how much of it has been read. -/
def line (b : StagedLine) : DatagramLine :=
  { b.socket with staged := b.buffer.staged, position := b.buffer.position }

/-- Ask the socket for the next message. -/
def receive (b : StagedLine) : Received × DatagramLine :=
  match b.socket.inbox with
  | [] => (.nothing, b.socket)
  | bytes :: later => (.message bytes, { b.socket with inbox := later })

def prepare (b : StagedLine) : Except Fault Unit × StagedLine :=
  if b.socket.isOpen then
    ((b.buffer.stage b.receive.1).1, ⟨b.receive.2, (b.buffer.stage b.receive.1).2⟩)
  else (.error .closed, { b with buffer := b.buffer.reset })

/-- There is no result where a read would reach outside the buffer. -/
def read? (b : StagedLine) (n : Nat) : Option (Except Fault (List UInt8) × StagedLine) :=
  if b.socket.isOpen then
    (b.buffer.read? n).map fun (bytes, buffer) => (.ok bytes, { b with buffer := buffer })
  else some (.error .closed, b)

/-- Carry out a step. -/
def step? (b : StagedLine) : WireStep → Option (WireOutcome × StagedLine)
  | .deliver message => (b.socket.deliver? message).map fun socket => (.done, { b with socket := socket })
  | .hangUp => none
  | .prepare =>
    some (match b.prepare with
      | (.ok (), b') => (.prepared, b')
      | (.error f, b') => (.failed f, b'))
  | .read n =>
    (b.read? n).map fun
      | (.ok bytes, b') => (.got bytes, b')
      | (.error f, b') => (.failed f, b')
  | .write message =>
    some (match b.socket.write message with
      | (.ok n, socket) =>
        (.accepted n (socket.outbox.drop b.socket.outbox.length).flatten, { b with socket := socket })
      | (.error f, socket) => (.failed f, { b with socket := socket }))
  | .close => some (.done, { b with socket := b.socket.close })

variable {b : StagedLine}

theorem prepare_spec (b : StagedLine) :
    b.line.prepare = (b.prepare.1, b.prepare.2.line) ∧ b.prepare.2.buffer.InBounds := by
  obtain ⟨⟨route, isOpen, inbox, unused, unread, outbox⟩, buffer⟩ := b
  cases isOpen with
  | false =>
    refine ⟨?_, buffer.inBounds_reset⟩
    simp [prepare, DatagramLine.prepare, line, StagingBuffer.reset, StagingBuffer.staged]
  | true =>
    cases inbox with
    | nil =>
      refine ⟨?_, buffer.inBounds_reset⟩
      simp [prepare, receive, DatagramLine.prepare, line, StagingBuffer.stage, StagingBuffer.reset,
        StagingBuffer.staged]
    | cons message later =>
      obtain ⟨hbounds, hposition, hstaged⟩ := buffer.stage_spec (.message message)
      have hline : (prepare ⟨⟨route, true, message :: later, unused, unread, outbox⟩, buffer⟩).2.line =
          ⟨route, true, later, message.take stagingSize, 0, outbox⟩ := by
        show DatagramLine.mk route true later (buffer.stage (.message message)).2.staged
          (buffer.stage (.message message)).2.position outbox = _
        rw [hstaged, hposition]
        rfl
      refine ⟨?_, hbounds⟩
      rw [hline]
      show _ = ((buffer.stage (.message message)).1, _)
      cases message with
      | nil =>
        rw [buffer.stage_nil]
        rfl
      | cons x bytes =>
        rw [buffer.stage_cons]
        rfl

theorem read?_spec (hb : b.buffer.InBounds) (n : Nat) :
    ∃ b', b.read? n = some ((b.line.read n).1, b') ∧ b'.line = (b.line.read n).2 ∧ b'.buffer.InBounds := by
  obtain ⟨⟨route, isOpen, inbox, unused, unread, outbox⟩, buffer⟩ := b
  cases isOpen with
  | false => exact ⟨_, rfl, rfl, hb⟩
  | true =>
    obtain ⟨buffer', hread, hbounds, hstaged, hposition⟩ := StagingBuffer.read?_eq hb n
    refine ⟨⟨⟨route, true, inbox, unused, unread, outbox⟩, buffer'⟩, ?_, ?_, hbounds⟩
    · rw [read?, hread]
      rfl
    · show DatagramLine.mk route true inbox buffer'.staged buffer'.position outbox = _
      rw [hstaged, hposition]
      rfl

/-- **The line shows through its buffer.** A step that the line can do, the line with its buffer can do too, and
comes to the same; in particular no read reaches outside the buffer. -/
theorem step?_of_step? {s : WireStep} {x : WireOutcome} {l' : DatagramLine} (hb : b.buffer.InBounds)
    (h : b.line.step? s = some (x, l')) :
    ∃ b', b.step? s = some (x, b') ∧ b'.line = l' ∧ b'.buffer.InBounds := by
  cases s with
  | deliver message =>
    obtain ⟨⟨route, isOpen, inbox, unused, unread, outbox⟩, buffer⟩ := b
    cases route with
    | down => cases h
    | up =>
      cases isOpen with
      | false | true =>
        cases h
        exact ⟨_, rfl, rfl, hb⟩
  | hangUp => cases h
  | prepare =>
    obtain ⟨hprepare, hbounds⟩ := b.prepare_spec
    rw [DatagramLine.step?, hprepare] at h
    rw [step?]
    rcases hresult : b.prepare with ⟨f | _, b'⟩
    all_goals
      rw [hresult] at h hbounds
      cases h
      exact ⟨b', rfl, rfl, hbounds⟩
  | read n =>
    obtain ⟨b', hread, hline, hbounds⟩ := read?_spec hb n
    rw [DatagramLine.step?] at h
    rw [step?, hread]
    rcases hresult : b.line.read n with ⟨f | bytes, l⟩
    all_goals
      rw [hresult] at h hline
      cases h
      exact ⟨b', rfl, hline, hbounds⟩
  | write message =>
    obtain ⟨⟨route, isOpen, inbox, unused, unread, outbox⟩, buffer⟩ := b
    cases isOpen with
    | false =>
      cases h
      exact ⟨_, rfl, rfl, hb⟩
    | true =>
      cases route with
      | up | down =>
        cases h
        exact ⟨_, rfl, rfl, hb⟩
  | close =>
    cases h
    exact ⟨_, rfl, rfl, hb⟩

/-- So it has the histories of the line, and stays within its buffer in all of them. -/
theorem reachedBy {route : Route} {history : List (WireStep × WireOutcome)} {l : DatagramLine}
    (h : ReachedBy DatagramLine.step? { route := route } history l) :
    ∃ b, ReachedBy step? { socket := { route := route } } history b ∧ b.line = l ∧ b.buffer.InBounds := by
  induction h with
  | start => exact ⟨{ socket := { route := route } }, .start, rfl, StagingBuffer.inBounds_reset {}⟩
  | step _ hstep ih =>
    obtain ⟨b, hreached, hline, hbounds⟩ := ih
    rw [← hline] at hstep
    obtain ⟨b', hstep', hline', hbounds'⟩ := step?_of_step? hbounds hstep
    exact ⟨b', hreached.step hstep', hline', hbounds'⟩

end StagedLine

/-! ## What a history tells -/

/-- The steps on a datagram line and what they came to, the latest one first. -/
abbrev WireHistory := List (WireStep × WireOutcome)

namespace WireHistory

def IsOpen (h : WireHistory) : Prop :=
  .close ∉ h.map Prod.fst

/-- Messages are put into a queue where they arrive, and every preparation is a turn to take one. -/
def event? : WireStep → Option (QueueEvent (List UInt8))
  | .deliver message => some (.put message)
  | .prepare => some .take
  | .hangUp | .read _ | .write _ | .close => none

def events (h : WireHistory) : List (QueueEvent (List UInt8)) :=
  h.filterMap fun e => event? e.1

/-- The message that a preparation finds now. -/
def next? (h : WireHistory) : Option (List UInt8) :=
  QueueEvent.front? (events h)

/-- As much of the message found at the latest preparation as can be staged. -/
def staged : WireHistory → List UInt8
  | [] => []
  | (.prepare, _) :: earlier => ((next? earlier).getD []).take stagingSize
  | _ :: earlier => staged earlier

/-- The bytes that a step gave. -/
def bytesOf : WireOutcome → List UInt8
  | .got bytes => bytes
  | .done | .prepared | .accepted _ _ | .failed _ => []

/-- What reads gave since the latest preparation. -/
def readSince : WireHistory → List UInt8
  | [] => []
  | (.prepare, _) :: _ => []
  | (_, x) :: earlier => readSince earlier ++ bytesOf x

/-- What all reads gave. -/
def readEver : WireHistory → List UInt8
  | [] => []
  | (_, x) :: earlier => readEver earlier ++ bytesOf x

/-- What a preparation says that finds this message, or none. An empty one is as good as none. -/
def told : Option (List UInt8) → WireOutcome
  | none | some [] => .failed .noMessage
  | some (_ :: _) => .prepared

/-- The bytes are made of one piece of each message, in their order, from the front of what can be staged of
it. -/
def Pieces (bytes : List UInt8) (messages : List (List UInt8)) : Prop :=
  ∃ pieces : List (List UInt8), bytes = pieces.flatten ∧
    List.Forall₂ (fun piece message => piece <+: message.take stagingSize) pieces messages

/-- The history of a line that stages every message once and in order. -/
structure InOrder (history : WireHistory) : Prop where
  /-- The `j`-th preparation that finds a message takes the `j`-th one delivered. -/
  prepare : ∀ {later earlier x}, history = later ++ (.prepare, x) :: earlier → IsOpen earlier →
    x = told (next? earlier)
  /-- A read gives as many bytes as are asked for or as are left, and those that come next. -/
  read : ∀ {later earlier n x}, history = later ++ (.read n, x) :: earlier → IsOpen earlier →
    ∃ bytes, x = .got bytes ∧
      bytes.length = min n ((staged earlier).length - (readSince earlier).length) ∧
      readSince earlier ++ bytes <+: staged earlier
  /-- All reads together give one piece of each message that was taken. -/
  once : ∀ {later earlier}, history = later ++ earlier → IsOpen earlier →
    Pieces (readEver earlier) (QueueEvent.taken (events earlier))
  /-- After the line is closed nothing works. -/
  closed : ∀ {later earlier s x}, history = later ++ (s, x) :: earlier → ¬ IsOpen earlier →
    (s = .prepare ∨ (∃ n, s = .read n) ∨ ∃ message, s = .write message) → x = .failed .closed

theorem bytesOf_told (message : Option (List UInt8)) : bytesOf (told message) = [] := by
  rcases message with _ | _ | ⟨b, bytes⟩
  all_goals rfl

/-- A step that gives no bytes leaves what all reads gave as it was. -/
theorem readEver_silent {s : WireStep} {x : WireOutcome} (hx : bytesOf x = []) (h : WireHistory) :
    readEver ((s, x) :: h) = readEver h := by
  rw [readEver, hx, List.append_nil]

theorem readSince_cons {s : WireStep} (hs : s ≠ .prepare) (x : WireOutcome) (h : WireHistory) :
    readSince ((s, x) :: h) = readSince h ++ bytesOf x := by
  cases s with
  | prepare => exact absurd rfl hs
  | deliver | hangUp | read | write | close => rfl

theorem readSince_silent {s : WireStep} {x : WireOutcome} (hs : s ≠ .prepare) (hx : bytesOf x = [])
    (h : WireHistory) : readSince ((s, x) :: h) = readSince h := by
  rw [readSince_cons hs, hx, List.append_nil]

theorem Pieces.concat {bytes piece message : List UInt8} {messages : List (List UInt8)}
    (h : Pieces bytes messages) (hpiece : piece <+: message.take stagingSize) :
    Pieces (bytes ++ piece) (messages ++ [message]) := by
  obtain ⟨pieces, hbytes, hpieces⟩ := h
  refine ⟨pieces ++ [piece], ?_, List.rel_append hpieces (.cons hpiece .nil)⟩
  rw [hbytes, List.flatten_append, List.flatten_singleton]

end WireHistory

/-! ## The line behind a history -/

namespace DatagramLine

open WireHistory

/-- What an open line can do in one step, and what it leaves. -/
inductive Does (l : DatagramLine) : WireStep → WireOutcome → DatagramLine → Prop where
  | deliver (message : List UInt8) :
      Does l (.deliver message) .done { l with inbox := l.inbox ++ [message] }
  | prepare :
      Does l .prepare (told l.inbox.head?)
        { l with staged := (l.inbox.head?.getD []).take stagingSize, position := 0, inbox := l.inbox.tail }
  | read (n : Nat) :
      Does l (.read n) (.got (l.rest.take n)) { l with position := l.position + (l.rest.take n).length }
  | write (message : List UInt8) (x : WireOutcome) (outbox : List (List UInt8))
      (hx : bytesOf x = []) : Does l (.write message) x { l with outbox := outbox }

theorem does_of_step? {l l' : DatagramLine} {s : WireStep} {x : WireOutcome} (hopen : l.isOpen = true)
    (hs : s ≠ .close) (h : l.step? s = some (x, l')) : l.Does s x l' := by
  obtain ⟨route, isOpen, inbox, staged, position, outbox⟩ := l
  subst hopen
  cases s with
  | deliver message =>
    cases route with
    | down => cases h
    | up =>
      cases h
      exact .deliver message
  | hangUp => cases h
  | prepare =>
    rcases inbox with _ | ⟨_ | ⟨b, bytes⟩, later⟩
    all_goals
      cases h
      exact .prepare
  | read n =>
    cases h
    exact .read n
  | write message =>
    cases route with
    | up | down =>
      cases h
      exact .write message _ _ rfl
  | close => exact absurd rfl hs

/-- What the history of an open line tells about it. -/
structure Traced (h : WireHistory) (l : DatagramLine) : Prop where
  isOpen : l.isOpen = true
  inbox : l.inbox = QueueEvent.waiting (events h)
  staged : l.staged = WireHistory.staged h
  position : l.position = (readSince h).length
  /-- What was read of the message and what is left of it are the message. -/
  conserved : readSince h ++ l.rest = WireHistory.staged h
  /-- The piece of the message taken last can still grow by what is left of it. -/
  pieces : ∀ more, more <+: l.rest → Pieces (readEver h ++ more) (QueueEvent.taken (events h))

namespace Traced

variable {h : WireHistory} {l l' : DatagramLine} {s : WireStep} {x : WireOutcome}

theorem start (route : Route) : Traced [] { route := route } where
  isOpen := rfl
  inbox := rfl
  staged := rfl
  position := rfl
  conserved := rfl
  pieces more hmore := by
    have hnil : more = [] := List.prefix_nil.mp hmore
    subst hnil
    exact ⟨[], rfl, .nil⟩

theorem head?_inbox (ht : Traced h l) : l.inbox.head? = next? h := by
  rw [ht.inbox, next?, QueueEvent.front?_eq_head?]

/-- **Every step keeps it.** -/
theorem step (ht : Traced h l) (hdoes : l.Does s x l') : Traced ((s, x) :: h) l' := by
  cases hdoes with
  | deliver message =>
    have hsince : readSince ((.deliver message, .done) :: h) = readSince h := readSince_silent (by nofun) rfl h
    refine ⟨ht.isOpen, ?_, ht.staged, ?_, ?_, ?_⟩
    · show l.inbox ++ [message] = QueueEvent.waiting (.put message :: events h)
      rw [QueueEvent.waiting_put, ht.inbox]
    · rw [hsince]
      exact ht.position
    · rw [hsince]
      exact ht.conserved
    · intro more hmore
      show Pieces _ (QueueEvent.taken (.put message :: events h))
      rw [readEver_silent rfl, QueueEvent.taken_put]
      exact ht.pieces more hmore
  | prepare =>
    have hstaged : (l.inbox.head?.getD []).take stagingSize = ((next? h).getD []).take stagingSize := by
      rw [ht.head?_inbox]
    refine ⟨ht.isOpen, ?_, hstaged, rfl, hstaged, ?_⟩
    · show l.inbox.tail = QueueEvent.waiting (.take :: events h)
      rw [QueueEvent.waiting_take, ht.inbox]
    · intro more hmore
      have hpiece : more <+: ((next? h).getD []).take stagingSize := by
        rw [← hstaged]
        exact hmore
      have hdone : Pieces (readEver h ++ []) (QueueEvent.taken (events h)) :=
        ht.pieces [] List.nil_prefix
      rw [List.append_nil] at hdone
      show Pieces _ (QueueEvent.taken (.take :: events h))
      rw [readEver_silent (bytesOf_told _), QueueEvent.taken_take, ← next?]
      -- a message that is found starts a piece; where none is found nothing can be read
      cases hnext : next? h with
      | none =>
        rw [hnext] at hpiece
        have hnil : more = [] := List.prefix_nil.mp hpiece
        rw [hnil, List.append_nil, Option.toList_none, List.append_nil]
        exact hdone
      | some message =>
        rw [hnext] at hpiece
        exact hdone.concat hpiece
  | read n =>
    have hread : l.read n =
        (.ok (l.rest.take n), { l with position := l.position + (l.rest.take n).length }) := by
      rw [DatagramLine.read, if_pos ht.isOpen]
    have hsplit := (read_ok hread).1
    refine ⟨ht.isOpen, ht.inbox, ht.staged, ?_, ?_, ?_⟩
    · show l.position + (l.rest.take n).length = (readSince h ++ l.rest.take n).length
      rw [List.length_append, ht.position]
    · show readSince h ++ l.rest.take n ++ _ = WireHistory.staged h
      rw [List.append_assoc, ← hsplit, ht.conserved]
    · intro more hmore
      show Pieces (readEver h ++ l.rest.take n ++ more) _
      rw [List.append_assoc]
      refine ht.pieces (l.rest.take n ++ more) ?_
      obtain ⟨tail, htail⟩ := hmore
      exact ⟨tail, by rw [List.append_assoc, htail, ← hsplit]⟩
  | write message x outbox hx =>
    have hsince : readSince ((.write message, x) :: h) = readSince h := readSince_silent (by nofun) hx h
    refine ⟨ht.isOpen, ht.inbox, ht.staged, ?_, ?_, ?_⟩
    · rw [hsince]
      exact ht.position
    · rw [hsince]
      exact ht.conserved
    · rw [readEver_silent hx]
      exact ht.pieces

end Traced

/-- An open line is what its history tells. -/
theorem traced {route : Route} {h : WireHistory} {l : DatagramLine}
    (hreached : ReachedBy step? { route := route } h l) (hopen : IsOpen h) : Traced h l :=
  hreached.of_not_taken (.start route)
    (fun ht hs hstep => ht.step (does_of_step? ht.isOpen hs hstep)) hopen

/-! ### Closed lines -/

theorem step?_of_closed {l l' : DatagramLine} {s : WireStep} {x : WireOutcome} (hclosed : l.isOpen = false)
    (h : l.step? s = some (x, l')) :
    l'.isOpen = false ∧
      ((s = .prepare ∨ (∃ n, s = .read n) ∨ ∃ message, s = .write message) → x = .failed .closed) := by
  obtain ⟨route, isOpen, inbox, staged, position, outbox⟩ := l
  subst hclosed
  cases s with
  | deliver message =>
    cases route with
    | down => cases h
    | up =>
      cases h
      exact ⟨rfl, by simp⟩
  | hangUp => cases h
  | prepare | read | write =>
    cases h
    exact ⟨rfl, fun _ => rfl⟩
  | close =>
    cases h
    exact ⟨rfl, by simp⟩

theorem closed_of_reachedBy {route : Route} {h : WireHistory} {l : DatagramLine}
    (hreached : ReachedBy step? { route := route } h l) (hclosed : ¬ IsOpen h) : l.isOpen = false := by
  have hclose : ∀ {l x l'}, step? l .close = some (x, l') → l'.isOpen = false := by
    intro l x l' hstep
    cases hstep
    rfl
  exact hreached.of_taken (P := fun l => l.isOpen = false) hclose
    (fun h hstep => (step?_of_closed h hstep).1) (Classical.not_not.mp hclosed)

/-! ### Every run -/

theorem inOrder {route : Route} {history : WireHistory} {l : DatagramLine}
    (h : ReachedBy step? { route := route } history l) : InOrder history where
  prepare {later earlier x} heq hopen := by
    subst heq
    obtain ⟨l₁, l₂, hreached, hstep⟩ := h.split
    have ht := traced hreached hopen
    have hdoes := does_of_step? ht.isOpen (by nofun) hstep
    cases hdoes
    rw [ht.head?_inbox]
  read {later earlier n x} heq hopen := by
    subst heq
    obtain ⟨l₁, l₂, hreached, hstep⟩ := h.split
    have ht := traced hreached hopen
    have hdoes := does_of_step? ht.isOpen (by nofun) hstep
    have hlength := congrArg List.length ht.conserved
    rw [List.length_append] at hlength
    cases hdoes
    refine ⟨l₁.rest.take n, rfl, ?_, ?_⟩
    · rw [List.length_take]
      omega
    · rw [← ht.conserved]
      exact (List.prefix_append_right_inj _).mpr (List.take_prefix ..)
  once {later earlier} heq hopen := by
    subst heq
    obtain ⟨l₁, hreached⟩ := h.of_append
    have hpieces := (traced hreached hopen).pieces [] List.nil_prefix
    rw [List.append_nil] at hpieces
    exact hpieces
  closed {later earlier s x} heq hclosed hs := by
    subst heq
    obtain ⟨l₁, l₂, hreached, hstep⟩ := h.split
    exact (step?_of_closed (closed_of_reachedBy hreached hclosed) hstep).2 hs

/-- The outcomes that a run gives are those of its history. -/
theorem run?_of_reachedBy {l₀ l : DatagramLine} {history : WireHistory} (h : ReachedBy step? l₀ history l)
    (more : List WireStep) :
    l₀.run? ((history.map Prod.fst).reverse ++ more) =
      (l.run? more).map ((history.map Prod.snd).reverse ++ ·) := by
  induction h generalizing more with
  | start => simp
  | @step earlier l l' s x _ hstep ih =>
    have hnext : l.run? (s :: more) = (l'.run? more).map (x :: ·) := by
      rw [run?, hstep]
    rw [List.map_cons, List.reverse_cons, List.append_assoc, List.singleton_append, ih, hnext, Option.map_map]
    simp [Function.comp_def]

/-- The step can be taken where there is such a route: without one the far end cannot send, and it has nothing
to hang up. -/
def CanTake (route : Route) : WireStep → Prop
  | .deliver _ => route = .up
  | .hangUp => False
  | .prepare | .read _ | .write _ | .close => True

theorem exists_step? {l : DatagramLine} {s : WireStep} (hs : CanTake l.route s) :
    ∃ x l', l.step? s = some (x, l') ∧ l'.route = l.route := by
  obtain ⟨route, isOpen, inbox, staged, position, outbox⟩ := l
  cases s with
  | deliver message =>
    cases route with
    | down => cases hs
    | up => cases isOpen <;> exact ⟨_, _, rfl, rfl⟩
  | hangUp => exact hs.elim
  | prepare =>
    cases isOpen with
    | false => exact ⟨_, _, rfl, rfl⟩
    | true => rcases inbox with _ | ⟨_ | ⟨b, bytes⟩, later⟩ <;> exact ⟨_, _, rfl, rfl⟩
  | read n => cases isOpen <;> exact ⟨_, _, rfl, rfl⟩
  | write message =>
    cases isOpen with
    | false => exact ⟨_, _, rfl, rfl⟩
    | true => cases route <;> exact ⟨_, _, rfl, rfl⟩
  | close => exact ⟨_, _, rfl, rfl⟩

/-- **Messages are staged once and in order.** Whatever is delivered, prepared, read, written and closed on a
fresh line, in whatever order, comes to results, and they are those of a line that stages every message once
and in order. With its staging buffer the line does the same and stays within the buffer, and whatever its
socket gives next, a preparation that fails leaves nothing to read. -/
theorem staged_in_order (route : Route) {steps : List WireStep} (hsteps : ∀ s ∈ steps, CanTake route s) :
    ∃ (history : WireHistory) (l : DatagramLine) (b : StagedLine),
      history.map Prod.fst = steps.reverse ∧ ReachedBy step? { route := route } history l ∧
      ({ route := route } : DatagramLine).run? steps = some (history.map Prod.snd).reverse ∧
      InOrder history ∧
      ReachedBy StagedLine.step? { socket := { route := route } } history b ∧ b.line = l ∧
      b.buffer.position ≤ b.buffer.length ∧ b.buffer.length ≤ stagingSize ∧
      ∀ received f buffer, b.buffer.stage received = (.error f, buffer) → buffer.remaining? = some [] := by
  have hstep : ∀ {l : DatagramLine} {s}, l.route = route → s ∈ steps.reverse →
      ∃ x l', l.step? s = some (x, l') ∧ l'.route = route := by
    intro l s hroute hs
    subst hroute
    exact exists_step? (hsteps s (List.mem_reverse.mp hs))
  obtain ⟨history, l, hreached, hhistory, -⟩ :=
    ReachedBy.exists_of step? { route := route } (fun l => l.route = route) steps.reverse rfl hstep
  obtain ⟨b, hbuffered, hline, hbounds⟩ := StagedLine.reachedBy hreached
  have hrun := run?_of_reachedBy hreached []
  rw [hhistory, List.reverse_reverse, List.append_nil] at hrun
  have houtcomes : ({ route := route } : DatagramLine).run? steps = some (history.map Prod.snd).reverse := by
    rw [hrun, run?, Option.map_some, List.append_nil]
  exact ⟨history, l, b, hhistory, hreached, houtcomes, inOrder hreached, hbuffered, hline, hbounds.position_le,
    hbounds.length_le, fun _ _ _ => StagingBuffer.remaining?_of_stage_error⟩

/-- A message is left half read when the next one is prepared for, which is empty; a write goes between the
reads of the last. -/
def eventful : List WireStep :=
  [.deliver [1, 2, 3], .deliver [], .read 4, .prepare, .read 2, .deliver [4, 5], .prepare, .read 4, .prepare,
    .read 1, .write [9], .read 4, .read 4, .prepare, .read 4, .close, .read 4, .prepare]

theorem staged_in_order_eventful :
    (∀ s ∈ eventful, CanTake .up s) ∧
      ∃ history : WireHistory, history.map Prod.fst = eventful.reverse ∧ InOrder history ∧
        (history.map Prod.snd).reverse =
          [.done, .done, .got [], .prepared, .got [1, 2], .done, .failed .noMessage, .got [], .prepared,
            .got [4], .accepted 1 [9], .got [5], .got [], .failed .noMessage, .got [], .done,
            .failed .closed, .failed .closed] := by
  have hsteps : ∀ s ∈ eventful, CanTake .up s := by
    simp [eventful, CanTake]
  obtain ⟨history, l, b, hhistory, -, hrun, hinOrder, -⟩ := staged_in_order .up hsteps
  exact ⟨hsteps, history, hhistory, hinOrder, (Option.some.inj hrun).symm⟩

end DatagramLine

end Vocoder
