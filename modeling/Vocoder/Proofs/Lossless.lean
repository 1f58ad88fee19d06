import Vocoder.Line.BenchStep
import Vocoder.Proofs.Buffered
import Vocoder.Proofs.History

/-!
# A bench line loses nothing

Bytes come to a bench line in two ways: they are put there directly, or an accepted write releases the reply
at the head of a queue. They leave it in one way, by being read. Whatever is done to the line while it is
open, what has been read and what can still be read is what came, in the order in which it came.

* **`BenchLine.read_cases`**, **`BenchLine.write_cases`** — all that a read or a write can do.
* **`BenchLine.Traced`** — what a history tells about the line it leads to, kept by every step.
* `BenchLine.readInto` — reading into a caller's buffer, of which the rest stays as it was.
* **`BenchLine.lossless`** — every run: bytes, replies and the log of writes, and what is refused.
-/

namespace Vocoder

/-! ## What a history tells -/

/-- The steps on a bench line and what they came to, the latest one first. -/
abbrev BenchHistory := List (BenchStep × BenchOutcome)

namespace BenchHistory

def IsOpen (h : BenchHistory) : Prop :=
  .close ∉ h.map Prod.fst

/-- Replies are put into a queue, and every accepted write is a turn to take one. -/
def event? : BenchStep × BenchOutcome → Option (QueueEvent (List UInt8))
  | (.reply bytes, _) => some (.put bytes)
  | (.write _, .accepted _) => some .take
  | _ => none

def events (h : BenchHistory) : List (QueueEvent (List UInt8)) :=
  h.filterMap event?

/-- The reply that an accepted write releases now. -/
def next? (h : BenchHistory) : Option (List UInt8) :=
  QueueEvent.front? (events h)

/-- What has come to be readable, string by string: what was put there and the replies that were released. -/
def arrivals : BenchHistory → List (List UInt8)
  | [] => []
  | (.inject bytes, _) :: earlier => arrivals earlier ++ [bytes]
  | (.write _, .accepted _) :: earlier => arrivals earlier ++ (next? earlier).toList
  | _ :: earlier => arrivals earlier

/-- What all reads gave. -/
def readEver : BenchHistory → List UInt8
  | [] => []
  | (_, .got bytes) :: earlier => readEver earlier ++ bytes
  | _ :: earlier => readEver earlier

/-- The writes that were accepted since the log was cleared. -/
def written : BenchHistory → List (List UInt8)
  | [] => []
  | (.clearSent, _) :: _ => []
  | (.write bytes, .accepted _) :: earlier => written earlier ++ [bytes]
  | _ :: earlier => written earlier

theorem event?_eq_take {e : BenchStep × BenchOutcome} (h : event? e = some .take) :
    ∃ bytes n, e = (.write bytes, .accepted n) := by
  unfold event? at h
  split at h
  · cases h
  · exact ⟨_, _, rfl⟩
  · cases h

/-- Nothing but an accepted write takes the reply at the head away. -/
theorem next?_append {between earlier : BenchHistory} {reply : List UInt8}
    (hbetween : ∀ bytes n, (.write bytes, .accepted n) ∉ between) (hnext : next? earlier = some reply) :
    next? (between ++ earlier) = some reply := by
  induction between with
  | nil => exact hnext
  | cons e between ih =>
    have hrest := ih fun bytes n hmem => hbetween bytes n (List.mem_cons_of_mem e hmem)
    show QueueEvent.front? ((e :: (between ++ earlier)).filterMap event?) = some reply
    rw [List.filterMap_cons]
    cases hevent : event? e with
    | none => exact hrest
    | some event =>
      -- a reply put in stands behind, and a turn to take is an accepted write
      cases event with
      | put bytes => exact QueueEvent.front?_put hrest
      | take =>
        obtain ⟨bytes, n, rfl⟩ := event?_eq_take hevent
        exact absurd List.mem_cons_self (hbetween bytes n)

/-- Each reply that was released was released by a write of its own. -/
theorem exists_of_lt_found {h : BenchHistory} {i : Nat} (hi : i < QueueEvent.found (events h)) :
    ∃ later bytes n earlier, h = later ++ (.write bytes, .accepted n) :: earlier ∧
      QueueEvent.found (events earlier) = i ∧ next? earlier = (QueueEvent.puts (events h))[i]? := by
  obtain ⟨laterEvents, earlierEvents, hevents, hfound, hfront⟩ := QueueEvent.exists_of_lt_found hi
  -- the turn that found it stands in the queue's events, so a step of the history stands behind it
  obtain ⟨later, rest, rfl, -, hrest⟩ := List.filterMap_eq_append_iff.mp hevents
  obtain ⟨quiet, e, earlier, rfl, -, he, rfl⟩ := List.filterMap_eq_cons_iff.mp hrest
  obtain ⟨bytes, n, rfl⟩ := event?_eq_take he
  exact ⟨later ++ quiet, bytes, n, earlier, (List.append_assoc ..).symm, hfound, hfront⟩

end BenchHistory

/-! ## What a step does -/

namespace BenchLine

open BenchHistory

/-- One step of a machine that always has a result. -/
def step? (l : BenchLine) (s : BenchStep) : Option (BenchOutcome × BenchLine) :=
  some (s.run l)

theorem prepare_cases (l : BenchLine) :
    l.prepare = (.error .noMessage, { l with prepareCalls := l.prepareCalls + 1 }) ∨
      l.prepare = (.ok (), { l with prepareCalls := l.prepareCalls + 1 }) := by
  unfold prepare
  split
  · exact .inl rfl
  · exact .inr rfl

/-- A read is refused, and then the line stays as it is, or it takes bytes off the front. -/
theorem read_cases (l : BenchLine) (n : Nat) :
    ((l.isClosed = true ∨ l.failReads = true) ∧ ∃ f, l.read n = (.error f, l)) ∨
      l.isClosed = false ∧ l.failReads = false ∧
        l.read n = (.ok (l.incoming.take (l.readCount n)),
          { l with incoming := l.incoming.drop (l.readCount n) }) := by
  unfold read
  cases hclosed : l.isClosed with
  | true => exact .inl ⟨.inl rfl, _, rfl⟩
  | false =>
    cases hfail : l.failReads with
    | true => exact .inl ⟨.inr rfl, _, rfl⟩
    | false => exact .inr ⟨rfl, rfl, rfl⟩

/-- A write is refused, and then the line stays as it is, or it is logged and releases a reply if one waits. -/
theorem write_cases (l : BenchLine) (bytes : List UInt8) :
    ((l.isClosed = true ∨ l.failWrites = true) ∧ ∃ f, l.write bytes = (.error f, l)) ∨
      l.isClosed = false ∧ l.failWrites = false ∧
        l.write bytes = (.ok (l.acceptLimit.elim bytes.length (min bytes.length)),
          { l with
            sent := l.sent ++ [bytes]
            incoming := l.incoming ++ l.replies.head?.getD []
            replies := l.replies.tail }) := by
  unfold write
  cases hclosed : l.isClosed with
  | true => exact .inl ⟨.inl rfl, _, rfl⟩
  | false =>
    cases hfail : l.failWrites with
    | true => exact .inl ⟨.inr rfl, _, rfl⟩
    | false => exact .inr ⟨rfl, rfl, rfl⟩

/-- **What is refused changes nothing**, but that a preparation is counted. -/
theorem eq_of_failed {l l' : BenchLine} {s : BenchStep} {f : Fault} (h : s.run l = (.failed f, l')) :
    l' = { l with prepareCalls := l'.prepareCalls } ∧ (s ≠ .prepare → l' = l) := by
  cases s with
  | prepare =>
    rcases l.prepare_cases with hprepare | hprepare
    all_goals rw [BenchStep.run, hprepare] at h
    · cases h
      exact ⟨rfl, fun hs => absurd rfl hs⟩
    · cases h
  | read n =>
    rcases l.read_cases n with ⟨-, f', hread⟩ | ⟨-, -, hread⟩
    all_goals rw [BenchStep.run, hread] at h
    · cases h
      exact ⟨rfl, fun _ => rfl⟩
    · cases h
  | write bytes =>
    rcases l.write_cases bytes with ⟨-, f', hwrite⟩ | ⟨-, -, hwrite⟩
    all_goals rw [BenchStep.run, hwrite] at h
    · cases h
      exact ⟨rfl, fun _ => rfl⟩
    · cases h
  | reply | inject | readChunk | failReads | failWrites | failPrepare | acceptLimit | clearSent | close =>
    cases h

/-! ## The line behind a history -/

/-- What the history of an open line tells about it. -/
structure Traced (h : BenchHistory) (l : BenchLine) : Prop where
  isOpen : l.isClosed = false
  conserved : readEver h ++ l.incoming = (arrivals h).flatten
  replies : l.replies = QueueEvent.waiting (events h)
  sent : l.sent = written h

namespace Traced

variable {h : BenchHistory} {l l' : BenchLine} {s : BenchStep} {x : BenchOutcome}

theorem head?_replies (ht : Traced h l) : l.replies.head? = next? h := by
  rw [ht.replies, next?, QueueEvent.front?_eq_head?]

/-- **Every step keeps it**, but closing. -/
theorem step (ht : Traced h l) (hs : s ≠ .close) (hrun : s.run l = (x, l')) : Traced ((s, x) :: h) l' := by
  cases s with
  | reply bytes =>
    cases hrun
    refine ⟨ht.isOpen, ht.conserved, ?_, ht.sent⟩
    show l.replies ++ [bytes] = QueueEvent.waiting (.put bytes :: events h)
    rw [QueueEvent.waiting_put, ht.replies]
  | inject bytes =>
    cases hrun
    refine ⟨ht.isOpen, ?_, ht.replies, ht.sent⟩
    show readEver h ++ (l.incoming ++ bytes) = (arrivals h ++ [bytes]).flatten
    rw [← List.append_assoc, ht.conserved, List.flatten_append, List.flatten_singleton]
  | readChunk | failReads | failWrites | failPrepare | acceptLimit =>
    cases hrun
    exact ⟨ht.isOpen, ht.conserved, ht.replies, ht.sent⟩
  | clearSent =>
    cases hrun
    exact ⟨ht.isOpen, ht.conserved, ht.replies, rfl⟩
  | prepare =>
    rcases l.prepare_cases with hprepare | hprepare
    all_goals
      rw [BenchStep.run, hprepare] at hrun
      cases hrun
      exact ⟨ht.isOpen, ht.conserved, ht.replies, ht.sent⟩
  | read n =>
    rcases l.read_cases n with ⟨-, f, hread⟩ | ⟨-, -, hread⟩
    all_goals
      rw [BenchStep.run, hread] at hrun
      cases hrun
    · exact ⟨ht.isOpen, ht.conserved, ht.replies, ht.sent⟩
    · refine ⟨ht.isOpen, ?_, ht.replies, ht.sent⟩
      show readEver h ++ l.incoming.take (l.readCount n) ++ l.incoming.drop (l.readCount n) = _
      rw [List.append_assoc, List.take_append_drop]
      exact ht.conserved
  | write bytes =>
    rcases l.write_cases bytes with ⟨-, f, hwrite⟩ | ⟨-, -, hwrite⟩
    all_goals
      rw [BenchStep.run, hwrite] at hrun
      cases hrun
    · exact ⟨ht.isOpen, ht.conserved, ht.replies, ht.sent⟩
    · have hhead := ht.head?_replies
      refine ⟨ht.isOpen, ?_, ?_, ?_⟩
      · show readEver h ++ (l.incoming ++ l.replies.head?.getD []) = (arrivals h ++ (next? h).toList).flatten
        rw [← List.append_assoc, ht.conserved, hhead, List.flatten_append]
        cases next? h with
        | none => rfl
        | some reply => simp
      · show l.replies.tail = QueueEvent.waiting (.take :: events h)
        rw [QueueEvent.waiting_take, ht.replies]
      · show l.sent ++ [bytes] = written h ++ [bytes]
        rw [ht.sent]
  | close => exact absurd rfl hs

end Traced

/-- An open line is what its history tells. -/
theorem traced {h : BenchHistory} {l : BenchLine} (hreached : ReachedBy step? {} h l) (hopen : IsOpen h) :
    Traced h l :=
  hreached.of_not_taken ⟨rfl, rfl, rfl, rfl⟩ (fun ht hs hstep => ht.step hs (Option.some.inj hstep)) hopen

/-! ### Closed lines -/

theorem isClosed_run {l : BenchLine} (h : l.isClosed = true) (s : BenchStep) : (s.run l).2.isClosed = true := by
  cases s with
  | prepare =>
    rcases l.prepare_cases with hprepare | hprepare
    all_goals
      rw [BenchStep.run, hprepare]
      exact h
  | read n =>
    rw [BenchStep.run, BenchLine.read, if_pos h]
    exact h
  | write bytes =>
    rw [BenchStep.run, BenchLine.write, if_pos h]
    exact h
  | reply | inject | readChunk | failReads | failWrites | failPrepare | acceptLimit | clearSent => exact h
  | close => rfl

theorem closed_of_reachedBy {h : BenchHistory} {l : BenchLine} (hreached : ReachedBy step? {} h l)
    (hclosed : ¬ IsOpen h) : l.isClosed = true := by
  have hclose : ∀ {l x l'}, step? l .close = some (x, l') → l'.isClosed = true := by
    intro l x l' hstep
    cases hstep
    rfl
  have hstays : ∀ {l s x l'}, l.isClosed = true → step? l s = some (x, l') → l'.isClosed = true := by
    intro l s x l' h hstep
    have hstill := isClosed_run h s
    rw [Option.some.inj hstep] at hstill
    exact hstill
  exact hreached.of_taken (P := fun l => l.isClosed = true) hclose hstays (Classical.not_not.mp hclosed)

/-! ## Reading into a buffer -/

/-- Read as much as the buffer holds, and write it into its front. -/
def readInto {size : Nat} (l : BenchLine) (buffer : Vector UInt8 size) :
    Except Fault Nat × Vector UInt8 size × BenchLine :=
  match l.read size with
  | (.ok bytes, l') => (.ok bytes.length, store buffer 0 bytes, l')
  | (.error f, l') => (.error f, buffer, l')

/-- How many bytes a read gives: as many as there is room for, as there are, and as it may take at a time. -/
theorem length_take_readCount (l : BenchLine) (n : Nat) :
    (l.incoming.take (l.readCount n)).length =
      min (min n l.incoming.length) (if 0 < l.readChunk then l.readChunk else n) := by
  have hle := l.readCount_le n
  rw [List.length_take, Nat.min_eq_left (by omega), readCount]
  by_cases hchunk : l.readChunk = 0
  · rw [if_pos hchunk, if_neg (by omega)]
    omega
  · rw [if_neg hchunk, if_pos (by omega)]

theorem readInto_of_read {size : Nat} {l l' : BenchLine} {bytes : List UInt8} (buffer : Vector UInt8 size)
    (h : l.read size = (.ok bytes, l')) :
    ∃ buffer', l.readInto buffer = (.ok bytes.length, buffer', l') ∧
      buffer'.toList = bytes ++ buffer.toList.drop bytes.length := by
  refine ⟨store buffer 0 bytes, by rw [readInto, h], ?_⟩
  have hroom : 0 + bytes.length ≤ size := by
    have := (read_ok h).2
    omega
  have hfront : (store buffer 0 bytes).toList.take (0 + bytes.length) = buffer.toList.take 0 ++ bytes :=
    take_store hroom
  have hbehind := drop_store buffer 0 bytes
  rw [Nat.zero_add] at hfront hbehind
  rw [← List.take_append_drop bytes.length (store buffer 0 bytes).toList, hfront, hbehind, List.take_zero,
    List.nil_append]

theorem readInto_of_error {size : Nat} {l l' : BenchLine} {buffer buffer' : Vector UInt8 size} {f : Fault}
    (h : l.readInto buffer = (.error f, buffer', l')) : buffer' = buffer ∧ l' = l := by
  rw [readInto] at h
  rcases l.read_cases size with ⟨-, f', hread⟩ | ⟨-, -, hread⟩
  all_goals rw [hread] at h
  · cases h
    exact ⟨rfl, rfl⟩
  · cases h

/-! ## Every run -/

/-- The line after this history has lost nothing, and what it does next will lose nothing. -/
structure Lossless (history : BenchHistory) (l : BenchLine) : Prop where
  /-- What was read and what can be read is what came. -/
  conserved : IsOpen history → readEver history ++ l.incoming = (arrivals history).flatten
  /-- The replies that were released and those that wait are all that were queued. -/
  replies : IsOpen history →
    QueueEvent.taken (events history) ++ l.replies = QueueEvent.puts (events history)
  sent : IsOpen history → l.sent = written history
  /-- A write is accepted unless writes are made to fail. -/
  accepts : IsOpen history → l.failWrites = false →
    ∀ bytes, ∃ n l', (BenchStep.write bytes).run l = (.accepted n, l') ∧
      (l.acceptLimit = none → n = bytes.length)
  /-- It releases the reply at the head of the queue, and no other. -/
  write : IsOpen history → ∀ {bytes n l'}, (BenchStep.write bytes).run l = (.accepted n, l') →
    l.replies.head? = next? history ∧
      l' = { l with
        sent := l.sent ++ [bytes]
        incoming := l.incoming ++ (next? history).getD []
        replies := l.replies.tail }
  /-- A reply stays at the head until a write is accepted. -/
  head : ∀ {between earlier reply}, history = between ++ earlier →
    (∀ bytes n, (.write bytes, .accepted n) ∉ between) → next? earlier = some reply →
    next? history = some reply
  /-- Replies are released in the order in which they were queued, each by a write of its own. -/
  released : ∀ {i}, i < QueueEvent.found (events history) → ∃ later bytes n earlier,
    history = later ++ (.write bytes, .accepted n) :: earlier ∧ QueueEvent.found (events earlier) = i ∧
      next? earlier = (QueueEvent.puts (events history))[i]?
  /-- A read gives what is in front, and the rest of the caller's buffer stays. -/
  read : IsOpen history → l.failReads = false → ∀ {size} (buffer : Vector UInt8 size),
    ∃ bytes l' buffer', (BenchStep.read size).run l = (.got bytes, l') ∧
      l.incoming = bytes ++ l'.incoming ∧ l' = { l with incoming := l'.incoming } ∧
      bytes.length = min (min size l.incoming.length) (if 0 < l.readChunk then l.readChunk else size) ∧
      l.readInto buffer = (.ok bytes.length, buffer', l') ∧
      buffer'.toList = bytes ++ buffer.toList.drop bytes.length
  /-- What is refused changes nothing, but that a preparation is counted. -/
  rejected : ∀ {s f l'}, BenchStep.run s l = (.failed f, l') →
    l' = { l with prepareCalls := l'.prepareCalls } ∧ (s ≠ .prepare → l' = l)
  rejectedBuffer : ∀ {size} {buffer buffer' : Vector UInt8 size} {f l'},
    l.readInto buffer = (.error f, buffer', l') → buffer' = buffer ∧ l' = l
  /-- A closed line refuses every read and write. -/
  closed : ¬ IsOpen history → (∀ n, (BenchStep.read n).run l = (.failed .closed, l)) ∧
    ∀ bytes, (BenchStep.write bytes).run l = (.failed .closed, l)

theorem lossless_of_reachedBy {history : BenchHistory} {l : BenchLine}
    (hreached : ReachedBy step? {} history l) : Lossless history l where
  conserved hopen := (traced hreached hopen).conserved
  replies hopen := by
    rw [(traced hreached hopen).replies]
    exact QueueEvent.taken_append_waiting _
  sent hopen := (traced hreached hopen).sent
  accepts hopen haccept bytes := by
    rcases l.write_cases bytes with ⟨hrefused, -⟩ | ⟨-, -, hwrite⟩
    · rw [(traced hreached hopen).isOpen, haccept] at hrefused
      rcases hrefused with h | h <;> cases h
    · rw [BenchStep.run, hwrite]
      exact ⟨_, _, rfl, fun hlimit => by rw [hlimit]; rfl⟩
  write hopen {bytes n l'} hrun := by
    have hhead := (traced hreached hopen).head?_replies
    rcases l.write_cases bytes with ⟨-, f, hwrite⟩ | ⟨-, -, hwrite⟩
    all_goals
      rw [BenchStep.run, hwrite] at hrun
      cases hrun
    rw [← hhead]
    exact ⟨rfl, rfl⟩
  head heq hbetween hnext := by
    rw [heq]
    exact next?_append hbetween hnext
  released := exists_of_lt_found
  read hopen hfail {size} buffer := by
    rcases l.read_cases size with ⟨hrefused, -⟩ | ⟨-, -, hread⟩
    · rw [(traced hreached hopen).isOpen, hfail] at hrefused
      rcases hrefused with h | h <;> cases h
    · obtain ⟨buffer', hinto, hbuffer⟩ := readInto_of_read buffer hread
      refine ⟨_, _, buffer', ?_, (read_ok hread).1, rfl, l.length_take_readCount size, hinto, hbuffer⟩
      rw [BenchStep.run, hread]
  rejected := eq_of_failed
  rejectedBuffer := readInto_of_error
  closed hclosed := by
    have h := closed_of_reachedBy hreached hclosed
    refine ⟨fun n => ?_, fun bytes => ?_⟩
    · rw [BenchStep.run, BenchLine.read, if_pos h]
    · rw [BenchStep.run, BenchLine.write, if_pos h]

/-- **A bench line loses nothing.** Whatever is done to a fresh line, in whatever order, comes to results, and
at every point of the run the line has lost nothing. -/
theorem lossless (steps : List BenchStep) :
    ∃ (history : BenchHistory) (l : BenchLine),
      history.map Prod.fst = steps.reverse ∧ ReachedBy step? {} history l ∧
      ∀ later earlier, history = later ++ earlier →
        ∃ l₁, ReachedBy step? {} earlier l₁ ∧ Lossless earlier l₁ := by
  obtain ⟨history, l, hreached, hhistory, -⟩ :=
    ReachedBy.exists_of step? {} (fun _ => True) steps.reverse trivial fun _ _ => ⟨_, _, rfl, trivial⟩
  refine ⟨history, l, hhistory, hreached, fun later earlier heq => ?_⟩
  subst heq
  obtain ⟨l₁, hearlier⟩ := hreached.of_append
  exact ⟨l₁, hearlier, lossless_of_reachedBy hearlier⟩

end BenchLine

end Vocoder
