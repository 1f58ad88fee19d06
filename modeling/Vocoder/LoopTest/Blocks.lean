import Vocoder.LoopTest.Notice
import Vocoder.LoopTest.Sink

/-!
# Blocks through the codec

The middle of the loop test. The bytes of the input are cut into blocks of audio; every block is
encoded, the voice frame is decoded, and the audio that comes back is written. The first frame that
fails ends the process; a block that cannot be written is only reported.
-/

namespace Vocoder.LoopTest

/-- The whole blocks of some bytes, samples low byte first, and the bytes behind them. -/
def blocksOf (bytes : List UInt8) : List AudioBlock × List UInt8 :=
  if (bytes.take blockBytes).length < blockBytes then ([], bytes)
  else
    match blocksOf (bytes.drop blockBytes) with
    | (blocks, rest) =>
      (AudioBlock.ofSamples (decodeSamplesLow (bytes.take blockBytes)) :: blocks, rest)
termination_by bytes.length
decreasing_by
  simp only [List.length_take, List.length_drop, blockBytes, blockSamples] at *
  omega

/-- What is left when the blocks are through. -/
structure Processed (L : Type) where
  session : Session L
  sink : Sink
  /-- Notices on the way, in order. -/
  notices : List Notice := []
  /-- Why a frame failed, if one did. -/
  failure : Option Fault := none

variable {L : Type} [Line L]

/-- The buffer for one voice frame. -/
def voiceBuffer : List UInt8 :=
  List.replicate Rate.maxVoiceBytes 0

/-- Encode a block without gain and decode the voice frame with one. A failure comes with its
notice. -/
def roundTrip (rate : Rate) (gain : Int) (s : Session L) (block : AudioBlock) :
    Except (Notice × Fault) AudioBlock × Session L :=
  match s.encode block voiceBuffer rate 0 with
  | (.error f, _, s₁) => (.error (.encodingFailed, f), s₁)
  | (.ok n, voice, s₁) =>
    match s₁.decode (voice.take n) block rate gain with
    | (.error f, _, s₂) => (.error (.decodingFailed, f), s₂)
    | (.ok (), decoded, s₂) => (.ok decoded, s₂)

/-- The notices of a write: none if it succeeded. -/
def writeNotices : Except FileProblem Unit → List Notice
  | .ok () => []
  | .error problem => [.writingFailed problem.text]

/-- Take blocks through the codec. The notice `last` is given when they are all through. -/
def process (rate : Rate) (gain : Int) (last : Notice) (s : Session L) (sink : Sink) :
    List AudioBlock → Processed L
  | [] => ⟨s, sink, [last], none⟩
  | block :: later =>
    match roundTrip rate gain s block with
    | (.error (notice, f), s₁) => ⟨s₁, sink, [notice], some f⟩
    | (.ok decoded, s₁) =>
      match sink.write (encodeSamplesLow decoded.samples) with
      | (written, sink₁) =>
        let rest := process rate gain last s₁ sink₁ later
        { rest with notices := writeNotices written ++ rest.notices }

/-- Take the bytes of an input through the codec. -/
def processBytes (rate : Rate) (gain : Int) (s : Session L) (sink : Sink) (bytes : List UInt8) :
    Processed L :=
  match blocksOf bytes with
  | (blocks, rest) =>
    process rate gain (if rest.isEmpty then .inputEnded else .incompleteBlock) s sink blocks

/-- Take an input through the codec. An endless input counts as `bound` silent blocks. -/
def processSupply (rate : Rate) (gain : Int) (bound : Nat) (s : Session L) (sink : Sink) :
    Supply → Processed L
  | .finite bytes => processBytes rate gain s sink bytes
  | .zeros => process rate gain .inputEnded s sink (List.replicate bound (AudioBlock.fill 0))

end Vocoder.LoopTest
