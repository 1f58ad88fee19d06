import Vocoder.Fault
import Vocoder.Session
import Vocoder.Text.Utf8

/-!
# Notices

What the loop test tells its user on the way, one line for each notice. A failure is logged before it is
told. Audio that is sent where the notices go comes between them and has no line of its own.
-/

namespace Vocoder.LoopTest

/-- What the loop test puts on the standard error. -/
inductive Notice where
  | openedInput (name : String)
  | openedOutput (name : String)
  | openedDevice (address : String)
  | started
  /-- The input ended behind a whole block. -/
  | inputEnded
  /-- The input ended within a block. -/
  | incompleteBlock
  | encodingFailed
  | decodingFailed
  /-- A decoded block was lost. -/
  | writingFailed (cause : String)
  | finished
  | counts (stats : Stats)
  /-- The last line of a run that failed. -/
  | aborting (f : Fault)
  /-- The arguments make no sense. -/
  | usage
  /-- Audio, where the standard error is the output. -/
  | audio (bytes : List UInt8)
  deriving DecidableEq, Repr

/-- The text of a notice. -/
def Notice.text : Notice → String
  | openedInput name => s!"Opened {name} for input."
  | openedOutput name => s!"Opened {name} for output."
  | openedDevice address => s!"Opened DV device at {address}"
  | started => "Start of process"
  | inputEnded => "No more input. Terminating"
  | incompleteBlock => "Incomplete audio frame. Terminating"
  | encodingFailed => "Encoding failure. Terminating"
  | decodingFailed => "Decoding failure. Terminating"
  | writingFailed cause => s!"Error writing to output: {cause}"
  | finished => "End of process"
  | counts stats =>
    s!"Frames: {stats.framesEncoded} encoded, {stats.framesDecoded} decoded, " ++
    s!"{stats.failedExchanges} failed " ++
    s!"({stats.rateRequests} rate / {stats.gainRequests} gain requests)"
  | aborting f => f.message ++ ". Aborting"
  | usage => "For more information, try '--help'."
  | audio bytes => String.ofList (Utf8.decodeLossy bytes)

/-- What the log says before a notice. -/
def Notice.log : Notice → List String
  | encodingFailed => ["WARN Vocoder encode failed"]
  | decodingFailed => ["WARN Vocoder decode failed"]
  | aborting f => ["ERROR " ++ f.message]
  | _ => []

/-- The bytes of a notice: whole lines, or audio as it is. -/
def Notice.bytes : Notice → List UInt8
  | audio bytes => bytes
  | n => (n.log ++ [n.text]).flatMap fun line => Utf8.encode (line.toList ++ ['\n'])

end Vocoder.LoopTest
