import Vocoder.Line.BenchStep
import Vocoder.Link
import Vocoder.Session

/-!
# The workbench

One session and all the lines it is ever given. A line is either held by the session or lies on the
shelf; it carries a number, so that it stays the same line on its way between the two. One of the bench
lines is the current one: steps on a bench line go to it, attached or not.

The workbench is where ownership can be seen: every line that leaves the session returns to the shelf.
-/

namespace Vocoder

/-- A line with a number of its own. -/
structure Numbered where
  number : Nat
  link : Link
  deriving DecidableEq, Repr

instance : Line Numbered where
  prepare l := ((Line.prepare l.link).1, { l with link := (Line.prepare l.link).2 })
  read l n := ((Line.read l.link n).1, { l with link := (Line.read l.link n).2 })
  write l bytes := ((Line.write l.link bytes).1, { l with link := (Line.write l.link bytes).2 })
  close l := { l with link := Line.close l.link }
  readable l := Line.readable l.link
  read_ok h := by
    obtain ⟨hr, hl⟩ := Prod.mk.inj h
    subst hl
    exact Line.read_ok (Prod.ext hr rfl)

/-- One session, the lines that are not in it, and the number of the current bench line. -/
structure Workbench where
  session : Session Numbered := {}
  shelf : List Numbered := [⟨0, .bench {}⟩]
  current : Nat := 0
  /-- The number of the next line. -/
  fresh : Nat := 1
  deriving DecidableEq, Repr

namespace Workbench

/-- A closed session and one fresh bench line. -/
def start (config : SessionConfig) : Workbench :=
  { session := { config := config } }

/-- Every line there is. -/
def lines (w : Workbench) : List Numbered :=
  w.session.line.toList ++ w.shelf

/-- The line of a number. -/
def line? (w : Workbench) (number : Nat) : Option Link :=
  (w.lines.find? (·.number = number)).map (·.link)

/-- The state of the current bench line. -/
def currentLine (w : Workbench) : BenchLine :=
  match w.line? w.current with
  | some (.bench l) => l
  | _ => {}

/-- Change the current line, wherever it is. -/
def updateCurrent (w : Workbench) (f : Link → Link) : Workbench :=
  let update (l : Numbered) : Numbered :=
    if l.number = w.current then { l with link := f l.link } else l
  { w with
    session := { w.session with line := w.session.line.map update }
    shelf := w.shelf.map update }

/-- Put lines back on the shelf. -/
def putBack (w : Workbench) (released : List Numbered) : Workbench :=
  { w with shelf := w.shelf ++ released }

/-- Take the line of a number off the shelf. -/
def takeDown (w : Workbench) (number : Nat) : Option (Numbered × Workbench) :=
  (w.shelf.find? (·.number = number)).map fun l =>
    (l, { w with shelf := w.shelf.filter (·.number ≠ number) })

/-- The requests that scripted devices received, device by device in the order of their numbers. -/
def requests (w : Workbench) : List (List (List UInt8)) :=
  (List.range w.fresh).filterMap fun number => (w.line? number).bind Link.requests?

/-! ### Steps -/

/-- One step at the workbench. -/
inductive Step where
  /-- Start over with a fresh bench line; the session keeps the line it holds. -/
  | freshLine
  /-- A step on the current bench line. -/
  | onLine (step : BenchStep)
  /-- Attach the current bench line. -/
  | attach
  /-- Open a line and attach it. -/
  | openLine (opened : Except Fault Link)
  | close
  | setRate (rate : Rate)
  | setGain (gainIn gainOut : Int)
  | encode (audio : AudioBlock) (buffer : List UInt8) (rate : Rate) (gain : Int)
  | decode (voice : List UInt8) (audio : AudioBlock) (rate : Rate) (gain : Int)

/-- What a step comes to. -/
inductive Outcome where
  | onLine (outcome : BenchOutcome)
  | done
  /-- An operation without a value. -/
  | finished (result : Except Fault Unit)
  /-- The width of the frame and the caller's buffer. -/
  | encoded (result : Except Fault Nat) (buffer : List UInt8)
  /-- The caller's block. -/
  | decoded (result : Except Fault Unit) (audio : AudioBlock)

/-- Close the session and put its line back. -/
def release (w : Workbench) : Workbench :=
  match w.session.close with
  | (s, released) => { w with session := s }.putBack released.toList

/-- Attach the current bench line. The session lets go of its line first, which may be the current
one: then it is attached closed. -/
def attach (w : Workbench) : Except Fault Unit × Workbench :=
  let w := w.release
  match w.takeDown w.current with
  | none => (.error .closed, w)
  | some (l, w) =>
    match w.session.attach l with
    | (result, s, released) => (result, { w with session := s }.putBack released)

/-- Carry out a step. -/
def step (w : Workbench) : Step → Outcome × Workbench
  | .freshLine =>
    (.done,
      { w with
        shelf := w.shelf ++ [⟨w.fresh, .bench {}⟩]
        current := w.fresh
        fresh := w.fresh + 1 })
  | .onLine s =>
    match s.run w.currentLine with
    | (outcome, l) => (.onLine outcome, w.updateCurrent fun _ => .bench l)
  | .attach =>
    match w.attach with
    | (result, w) => (.finished result, w)
  | .openLine opened =>
    match w.session.openLine (opened.map (⟨w.fresh, ·⟩)) with
    | (result, s, released) =>
      (.finished result, { w with session := s, fresh := w.fresh + 1 }.putBack released)
  | .close => (.done, w.release)
  | .setRate rate =>
    match w.session.setRate rate with
    | (result, s) => (.finished result, { w with session := s })
  | .setGain gainIn gainOut =>
    match w.session.setGain gainIn gainOut with
    | (result, s) => (.finished result, { w with session := s })
  | .encode audio buffer rate gain =>
    match w.session.encode audio buffer rate gain with
    | (result, buffer, s) => (.encoded result buffer, { w with session := s })
  | .decode voice audio rate gain =>
    match w.session.decode voice audio rate gain with
    | (result, audio, s) => (.decoded result audio, { w with session := s })

/-- Carry out steps, with the workbench after each of them. -/
def run (w : Workbench) : List Step → List (Outcome × Workbench)
  | [] => []
  | s :: later =>
    let next := w.step s
    next :: next.2.run later

end Workbench

end Vocoder
