import Vocoder.CommandLine
import Vocoder.Config
import Vocoder.Link
import Vocoder.LoopTest.Blocks
import Vocoder.Number.Decibel

/-!
# The loop test

The program takes audio through a vocoder and back: options and configuration say which device, input,
output, rate and gain. Everything it needs of the world is a value, the `World` before it runs, and
everything it does to the world is in its `Report`.

What goes wrong first ends the run. Once the blocks are through, an output that cannot be flushed is
reported before a frame that failed.
-/

namespace Vocoder.LoopTest

/-- What a run finds. -/
structure World where
  /-- The files, the standard input among them. -/
  files : Files := .devices
  host : Host := {}
  /-- The logarithm of the platform. -/
  logarithm : Decibel.Logarithm := .nearest
  /-- The library that reads the configuration. -/
  toml : Toml.Library := .standard

/-- What a run comes to. -/
structure Report where
  exitCode : Nat
  stdout : List UInt8 := []
  /-- What went to the standard error, in order. -/
  notices : List Notice := []
  /-- The files as they are left behind. -/
  files : Files
  /-- The lines that were opened, all of them closed. -/
  lines : List Link := []

/-- The bytes on the standard error. -/
def Report.stderr (r : Report) : List UInt8 :=
  r.notices.flatMap Notice.bytes

/-! ### Settings -/

/-- What options and configuration come to. -/
structure Plan where
  address : String
  speed : LineSpeed
  session : SessionConfig
  rate : Rate
  gain : Int
  deriving DecidableEq, Repr

/-- The configuration the options name; the default one if they name none. -/
def configOf (w : World) (o : Options) : Except Fault Config :=
  match o.config with
  | none => .ok {}
  | some path => Config.load path ((w.files.read path).mapError FileProblem.text) w.toml

/-- Bring options and configuration together. A device option overrides the configured address, and
half the speed is taken if either asks for it. -/
def planOf (w : World) (o : Options) : Except Fault Plan :=
  match configOf w o with
  | .error f => .error f
  | .ok config =>
    let address := o.device.getD config.device.address
    if address.isEmpty then .error (.configValidation "device" "no DV device specified")
    else
      .ok
        { address := address
          speed := .ofHalfSpeed (o.halfSpeed || config.device.halfSpeed)
          session := config.session
          rate := o.format
          gain := Decibel.ofLinear o.gain w.logarithm }

/-! ### Input and output -/

/-- The files once the configuration is read. -/
def afterConfig (files : Files) (o : Options) : Files :=
  (o.config.map files.drain).getD files

/-- Open the input. -/
def openInput (files : Files) (name : String) : Except Fault Path :=
  if name = "-" then .ok .standardInput
  else
    match files.find? name with
    | none => .error (.file name FileProblem.missing.text)
    | some (p, _) => .ok p

/-- Where audio goes to. -/
inductive Channel where
  | standardOutput
  | standardError
  | path (p : Path)
  deriving DecidableEq, Repr

/-- Open the output: a file is created at once. Standard output holds nothing back, unless it goes by
the name of its device. -/
def openOutput (files : Files) (name : String) : Except Fault (Channel × Sink × Files) :=
  if name = "-" then .ok (.standardOutput, { capacity := 0 }, files)
  else
    match files.create name with
    | .error problem => .error (.file name problem.text)
    | .ok (_, .standardOutput, files) => .ok (.standardOutput, {}, files)
    | .ok (_, .standardError, files) => .ok (.standardError, {}, files)
    | .ok (p, n, files) => .ok (.path p, { hasRoom := n ≠ .full }, files)

/-- The files with what has been passed on to the output. Only a regular file keeps it. -/
def store (files : Files) (bytes : List UInt8) : Channel → Files
  | .standardOutput | .standardError => files
  | .path p =>
    match files.node? p with
    | some (.regular _) => files.put p (.regular bytes)
    | _ => files

/-- What an output put on standard output. -/
def printed (bytes : List UInt8) : Channel → List UInt8
  | .standardOutput => bytes
  | _ => []

/-- What an output put between the notices. -/
def interspersed (bytes : List UInt8) : Channel → List Notice
  | .standardError => [.audio bytes]
  | _ => []

/-! ### The run -/

/-- The report of a run that ends with a fault. -/
def aborted (files : Files) (notices : List Notice) (f : Fault) (lines : List Link) : Report :=
  { exitCode := 1, notices := notices ++ [.aborting f], files := files, lines := lines }

/-- Why a run fails whose blocks are through. -/
def finalFault? (output : String) (failure : Option Fault) :
    Except FileProblem Unit → Option Fault
  | .ok () => failure
  | .error problem => some (.file output problem.text)

/-- Flush the output, let go of the line and say how it went. -/
def conclude (o : Options) (files : Files) (output : Channel) (notices : List Notice)
    (p : Processed Link) : Report :=
  match p.sink.flush with
  | (flushed, sink) =>
    let fault? := finalFault? o.output p.failure flushed
    { exitCode := if fault?.isSome then 1 else 0
      stdout := printed sink.passed output
      notices :=
        notices ++ interspersed p.sink.passed output ++ p.notices ++
          [.finished, .counts p.session.stats] ++
          interspersed (sink.passed.drop p.sink.passed.length) output ++
          fault?.toList.map .aborting
      files := store files sink.passed output
      lines := p.session.close.2.toList }

/-- A number of blocks that a session cannot take through the codec, because every frame takes bytes
off the line. -/
def blockBound (s : Session Link) : Nat :=
  (s.line.map Link.supply).getD 0 + 1

/-- Run with an open session. An endless input lasts longer than what can come over the line. -/
def runSession (o : Options) (plan : Plan) (input : Path) (output : Channel) (sink : Sink)
    (files : Files) (notices : List Notice) (s : Session Link) : Report :=
  match files.supplyAt input with
  | .error problem => aborted files notices (.file o.input problem.text) s.close.2.toList
  | .ok supply =>
    conclude o files output notices
      (processSupply plan.rate plan.gain (blockBound s) s sink supply)

/-- Run with an open input and an open output. -/
def runOpened (w : World) (o : Options) (plan : Plan) (input : Path) (output : Channel)
    (sink : Sink) (files : Files) : Report :=
  let opened := [.openedInput o.input, .openedOutput o.output]
  match ({ config := plan.session } : Session Link).openLine
      (Link.ofAddress w.host plan.address plan.speed) with
  | (.error f, _, released) => aborted files opened f released
  | (.ok (), s, _) =>
    runSession o plan input output sink files (opened ++ [.openedDevice plan.address, .started]) s

/-- Run with options. -/
def runOptions (w : World) (o : Options) : Report :=
  match planOf w o with
  | .error f => aborted w.files [] f []
  | .ok plan =>
    let files := afterConfig w.files o
    match openInput files o.input with
    | .error f => aborted files [] f []
    | .ok input =>
      match openOutput files o.output with
      | .error f => aborted files [.openedInput o.input] f []
      | .ok (output, sink, files) => runOpened w o plan input output sink files

/-- Run with the arguments of the command line. -/
def run (w : World) (args : List String) : Report :=
  match CommandLine.parse args with
  | .ok o => runOptions w o
  | .error .displayHelp =>
    { exitCode := 0, stdout := Utf8.encode CommandLine.helpText.toList, files := w.files }
  | .error .displayVersion =>
    { exitCode := 0, stdout := Utf8.encode CommandLine.versionText.toList, files := w.files }
  | .error _ => { exitCode := 2, notices := [.usage], files := w.files }

end Vocoder.LoopTest
