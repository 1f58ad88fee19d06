import Vocoder.LoopTest.Program

/-!
# The program on a real file system

The files that the options name are looked at first, then the run is computed, and then its report is
carried out. No drivers are bound here: a server can be addressed but not reached, and there are no
serial devices.
-/

namespace Vocoder.LoopTest

/-- What is under a path, if it can be looked at. -/
def look (p : Path) : IO (Option Node) := do
  match Files.devices.nodes.lookup p with
  | some n => return some n
  | none =>
    let .ok place ← (IO.FS.realPath p.text).toBaseIO | return none
    if ← place.isDir then return some .directory
    let .ok bytes ← (IO.FS.readBinFile place).toBaseIO | return none
    return some (.regular bytes.data.toList)

/-- Look at what lies on the way to a file. -/
def visit (files : Files) (name : String) : IO Files := do
  let (files, _) ← (Path.stepsOf name).foldlM
    (fun (files, place?) step => do
      match place?.bind fun (p : Path) => p.next? step with
      | none => return (files, none)
      | some p =>
        match ← look p with
        | none => return (files, some p)
        | some n =>
          let files := files.put p n
          return (files, some (files.follow p)))
    (files, some (Path.start name))
  return files

/-- Everything on standard input. -/
partial def readStandard (input : IO.FS.Stream) (before : ByteArray) : IO ByteArray := do
  let more ← input.read 65536
  if more.isEmpty then return before
  readStandard input (before ++ more)

/-- Whether a name leads to the standard input. -/
def namesStandardInput (files : Files) (name : String) : Bool :=
  name = "-" || files.path? name = some .standardInput

/-- The world for a run with options. -/
def worldOf (o : Options) : IO World := do
  let files ← (o.config.toList ++ [o.input, o.output]).foldlM visit Files.devices
  let stdin ←
    if (o.config.toList ++ [o.input]).any (namesStandardInput files) then
      readStandard (← IO.getStdin) .empty
    else pure .empty
  return {
    files := files.put .standardInput (.stream stdin.data.toList)
    host := { route := .down } }

/-- Write the output file of a run that has opened it. -/
def writeBack (o : Options) (r : Report) : IO Unit := do
  if .openedOutput o.output ∈ r.notices then
    if let some (p, .regular bytes) := r.files.find? o.output then
      IO.FS.writeBinFile p.text ⟨bytes.toArray⟩

/-- Carry out what a report says but for the files. -/
def present (r : Report) : IO UInt32 := do
  let output ← IO.getStdout
  output.write ⟨r.stdout.toArray⟩
  output.flush
  let errors ← IO.getStderr
  errors.write ⟨r.stderr.toArray⟩
  errors.flush
  return UInt32.ofNat r.exitCode

end Vocoder.LoopTest

open Vocoder LoopTest in
def main (args : List String) : IO UInt32 := do
  match CommandLine.parse args with
  | .error _ => present (run {} args)
  | .ok o =>
    let report := run (← worldOf o) args
    writeBack o report
    present report
