import Vocoder.Line

/-!
# The datagram line

A line to a vocoder server that sends and receives whole messages. Preparing the line throws away what
is left of the message read last and stages the next one that has arrived; reads drain the staged
message. A message that is longer than the staging buffer is cut.

Whether the host can reach the server is a fact about the network, the line's `route`. Without a route
nothing can be sent either way.
-/

namespace Vocoder

/-- Whether host and server can reach each other. -/
inductive Route where
  | up
  | down
  deriving DecidableEq, Repr

/-- How the operating system names the absence of a route. -/
def Route.unreachable : String := "Network is unreachable (os error 101)"

/-- The size of the staging buffer in bytes. -/
def stagingSize : Nat := 2000

/-- The state of a datagram line. -/
structure DatagramLine where
  route : Route := .up
  isOpen : Bool := true
  /-- Messages that have arrived and are not staged yet, oldest first. -/
  inbox : List (List UInt8) := []
  /-- The message being read. -/
  staged : List UInt8 := []
  /-- How much of the staged message has been read. -/
  position : Nat := 0
  /-- Messages that have reached the far end, oldest first. -/
  outbox : List (List UInt8) := []
  deriving DecidableEq, Repr

namespace DatagramLine

/-- What can still be read of the staged message. -/
def rest (l : DatagramLine) : List UInt8 :=
  l.staged.drop l.position

/-- How many bytes have arrived and can still be read. -/
def supply (l : DatagramLine) : Nat :=
  l.rest.length + l.inbox.flatten.length

/-- Let a message arrive from the far end. Without a route it cannot be sent; a closed line loses
it. -/
def deliver? (l : DatagramLine) (message : List UInt8) : Option DatagramLine :=
  match l.route with
  | .down => none
  | .up => some (if l.isOpen then { l with inbox := l.inbox ++ [message] } else l)

/-- Stage the next message. An empty one is taken, but is as good as none. -/
def prepare (l : DatagramLine) : Except Fault Unit × DatagramLine :=
  let l' := { l with staged := [], position := 0 }
  if l.isOpen then
    match l.inbox with
    | [] => (.error .noMessage, l')
    | [] :: later => (.error .noMessage, { l' with inbox := later })
    | message :: later =>
      (.ok (), { l' with staged := message.take stagingSize, inbox := later })
  else (.error .closed, l')

/-- Drain the staged message. -/
def read (l : DatagramLine) (n : Nat) : Except Fault (List UInt8) × DatagramLine :=
  if l.isOpen then
    (.ok (l.rest.take n), { l with position := l.position + (l.rest.take n).length })
  else (.error .closed, l)

/-- Send one message, empty or not. -/
def write (l : DatagramLine) (message : List UInt8) : Except Fault Nat × DatagramLine :=
  if l.isOpen then
    match l.route with
    | .up => (.ok message.length, { l with outbox := l.outbox ++ [message] })
    | .down => (.error (.write Route.unreachable), l)
  else (.error .closed, l)

/-- Close the line; messages not staged yet are lost. -/
def close (l : DatagramLine) : DatagramLine :=
  { l with isOpen := false, inbox := [] }

theorem read_ok {l : DatagramLine} {n : Nat} {bytes : List UInt8} {l' : DatagramLine}
    (h : l.read n = (.ok bytes, l')) : l.rest = bytes ++ l'.rest ∧ bytes.length ≤ n := by
  simp only [read] at h
  split at h
  · obtain ⟨hb, hl⟩ := Prod.mk.inj h
    have hb := Except.ok.inj hb
    subst hb hl
    have hrest : l.staged.drop (l.position + (l.rest.take n).length) = l.rest.drop n := by
      simp only [rest, List.length_take, List.length_drop, ← List.drop_drop]
      by_cases hn : n ≤ l.staged.length - l.position
      · rw [Nat.min_eq_left hn]
      · rw [Nat.min_eq_right (by omega), List.drop_eq_nil_of_le (by simp),
          List.drop_eq_nil_of_le (by simp; omega)]
    refine ⟨?_, List.length_take_le ..⟩
    show l.rest = l.rest.take n ++ l.staged.drop (l.position + (l.rest.take n).length)
    rw [hrest, List.take_append_drop]
  · simp at h

instance : Line DatagramLine where
  prepare := prepare
  read := read
  write := write
  close := close
  readable := rest
  read_ok := read_ok

end DatagramLine

end Vocoder
