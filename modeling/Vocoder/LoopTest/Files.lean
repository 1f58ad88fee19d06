import Vocoder.Text.Fields

/-!
# Files

What the loop test sees of a file system: nodes under their paths. A text names a path by the steps that
lead there, each of them out of a directory. Opening a directory for input succeeds and only reading it
fails; a file is created empty, and what was in it before is gone at once. The standard streams are
nodes too, so that audio and settings can come and go under their names.

`Files.put` and `Files.node?` are the two sides of the store: what is put under a path is found there,
and the directories on the way to it are there too.
-/

namespace Vocoder.LoopTest

/-! ### Paths -/

/-- The steps down to a node, from the root or from the working directory or from a directory above
that. -/
structure Path where
  absolute : Bool := false
  /-- How far above the working directory a path that is not absolute begins. -/
  above : Nat := 0
  steps : List String := []
  deriving DecidableEq, Repr

/-- The longest name a file can have, in bytes. -/
def nameLimit : Nat := 255

/-- The longest text that can name a path, in bytes. -/
def pathLimit : Nat := 4095

namespace Path

/-- The path of some steps from the root. -/
def fromRoot (steps : List String) : Path :=
  { absolute := true, steps := steps }

/-- The path of the standard input. -/
def standardInput : Path :=
  fromRoot ["proc", "self", "fd", "0"]

/-- Whether a step stays where it is. -/
def idle (step : String) : Bool :=
  step.isEmpty || step = "."

/-- The directory a path lies in. The root lies in itself. -/
def parent (p : Path) : Path :=
  if !p.steps.isEmpty then { p with steps := p.steps.dropLast }
  else if p.absolute then p
  else { p with above := p.above + 1 }

/-- The path a step leads to. A name that is too long leads nowhere. -/
def next? (p : Path) (step : String) : Option Path :=
  if idle step then some p
  else if step = ".." then some p.parent
  else if nameLimit < step.utf8ByteSize then none
  else some { p with steps := p.steps ++ [step] }

/-- Where the steps of a text begin. -/
def start (name : String) : Path :=
  { absolute := name.toList.head? = some '/' }

/-- The steps between the slashes of a text. -/
def stepsOf (name : String) : List String :=
  (fields '/' name.toList).map String.ofList

/-- The paths that steps lead through, if they all lead somewhere. -/
def through (p : Path) : List String → List Path
  | [] => [p]
  | step :: later => p :: ((p.next? step).map (through · later)).getD []

/-- The path as a text. -/
def text (p : Path) : String :=
  (if p.absolute then "/" else "./" ++ String.join (List.replicate p.above "../")) ++
    "/".intercalate p.steps

/-- Whether a path goes on below another. -/
def isBelow (p q : Path) : Bool :=
  p.absolute == q.absolute && p.above == q.above && q.steps.isPrefixOf p.steps &&
    q.steps.length < p.steps.length

end Path

/-! ### Nodes -/

/-- What can be wrong with a file. -/
inductive FileProblem where
  | missing
  | isDirectory
  | noRoom
  /-- The whole of an endless file was wanted. -/
  | endless
  deriving DecidableEq, Repr

/-- How the operating system names a problem. -/
def FileProblem.text : FileProblem → String
  | missing => "No such file or directory (os error 2)"
  | isDirectory => "Is a directory (os error 21)"
  | noRoom => "No space left on device (os error 28)"
  | endless => "out of memory"

/-- What a path leads to. -/
inductive Node where
  | regular (bytes : List UInt8)
  | directory
  /-- A directory in which no file can be made. -/
  | listing
  /-- A device that takes everything and holds nothing. -/
  | null
  /-- A device that takes everything and gives zeros without end. -/
  | zero
  /-- A device on which there is never room and which gives zeros without end. -/
  | full
  /-- Bytes that can be read once, such as those on the standard input. -/
  | stream (bytes : List UInt8)
  | standardOutput
  | standardError
  /-- Another name for a path that is no link itself. -/
  | link (target : Path)
  deriving DecidableEq, Repr

/-- Whether steps can lead on from a node. -/
def Node.isDirectory : Node → Bool
  | directory | listing => true
  | _ => false

/-- What can be read. -/
inductive Supply where
  | finite (bytes : List UInt8)
  /-- Zeros without end. -/
  | zeros
  deriving DecidableEq, Repr

/-- All bytes of a supply, if it ends. -/
def Supply.whole : Supply → Except FileProblem (List UInt8)
  | .finite bytes => .ok bytes
  | .zeros => .error .endless

/-- What can be read from a node. A link itself holds nothing. -/
def Node.supply : Node → Except FileProblem Supply
  | regular bytes | stream bytes => .ok (.finite bytes)
  | directory | listing => .error .isDirectory
  | null | standardOutput | standardError => .ok (.finite [])
  | zero | full => .ok .zeros
  | link _ => .error .missing

/-- Nodes under their paths. -/
structure Files where
  nodes : List (Path × Node) := []
  deriving DecidableEq, Repr

namespace Files

/-- Put a node under a path, in place of the one that was there. -/
def put (f : Files) (p : Path) (n : Node) : Files :=
  ⟨(p, n) :: f.nodes⟩

/-- The node of a path. The root, the working directory and those above it are always there, and so is
every directory in which something lies. -/
def node? (f : Files) (p : Path) : Option Node :=
  match f.nodes.lookup p with
  | some n => some n
  | none =>
    if p.steps.isEmpty || f.nodes.any (·.1.isBelow p) then some .directory else none

theorem node?_put_self (f : Files) (p : Path) (n : Node) : (f.put p n).node? p = some n := by
  simp [node?, put]

/-- The path itself, or the one it is another name for. -/
def follow (f : Files) (p : Path) : Path :=
  match f.node? p with
  | some (.link target) => target
  | _ => p

/-- The path a step out of a directory leads to. -/
def step? (f : Files) (p : Path) (step : String) : Option Path :=
  if (f.node? p).any Node.isDirectory then (p.next? step).map f.follow else none

/-- The path of a text, if every step of it leads out of a directory. The empty text has none, nor has
one that is too long. -/
def path? (f : Files) (name : String) : Option Path :=
  if name.isEmpty || pathLimit < name.utf8ByteSize then none
  else (Path.stepsOf name).foldlM f.step? (Path.start name)

/-- The node a text names, with its path. -/
def find? (f : Files) (name : String) : Option (Path × Node) :=
  (f.path? name).bind fun p => (f.node? p).map (p, ·)

/-- What can be read under a path now. -/
def supplyAt (f : Files) (p : Path) : Except FileProblem Supply :=
  match f.node? p with
  | none => .error .missing
  | some n => n.supply

/-- All bytes in the file of a name. -/
def read (f : Files) (name : String) : Except FileProblem (List UInt8) :=
  match f.find? name with
  | none => .error .missing
  | some (_, n) => n.supply.bind Supply.whole

/-- The files after everything in the file of a name was read: a stream has nothing left. -/
def drain (f : Files) (name : String) : Files :=
  match f.find? name with
  | some (p, .stream _) => f.put p (.stream [])
  | _ => f

/-- Make the file of a name ready for output: a new file, if it lies in a directory that takes files, or
an emptied one, or a device as it is. -/
def create (f : Files) (name : String) : Except FileProblem (Path × Node × Files) :=
  match f.path? name with
  | none => .error .missing
  | some p =>
    match f.node? p with
    | none =>
      if f.node? p.parent = some .directory then .ok (p, .regular [], f.put p (.regular []))
      else .error .missing
    | some (.regular _) => .ok (p, .regular [], f.put p (.regular []))
    | some .directory | some .listing => .error .isDirectory
    | some device => .ok (p, device, f)

/-- The devices and standard streams every file system has, with nothing on the standard input. The
streams are numbered, and the device directory has names for them. -/
def devices : Files where
  nodes :=
    [(.fromRoot ["dev", "null"], .null),
      (.fromRoot ["dev", "zero"], .zero),
      (.fromRoot ["dev", "full"], .full),
      (.fromRoot ["dev", "fd"], .link (.fromRoot ["proc", "self", "fd"])),
      (.fromRoot ["dev", "stdin"], .link .standardInput),
      (.fromRoot ["dev", "stdout"], .link (.fromRoot ["proc", "self", "fd", "1"])),
      (.fromRoot ["dev", "stderr"], .link (.fromRoot ["proc", "self", "fd", "2"])),
      (.fromRoot ["proc"], .listing),
      (.fromRoot ["proc", "self"], .listing),
      (.fromRoot ["proc", "self", "cwd"], .link {}),
      (.fromRoot ["proc", "self", "root"], .link (.fromRoot [])),
      (.fromRoot ["proc", "self", "fd"], .listing),
      (.standardInput, .stream []),
      (.fromRoot ["proc", "self", "fd", "1"], .standardOutput),
      (.fromRoot ["proc", "self", "fd", "2"], .standardError)]

end Files

end Vocoder.LoopTest
