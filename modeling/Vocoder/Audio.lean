import Vocoder.Packet

/-!
# Audio

A block of audio is 160 samples, 20 ms at 8000 samples a second. On the line a sample travels high
byte first; in a sample file it is stored low byte first. `AudioBlock.overwrite` is what a decoded
frame does to a block: whole words of the data replace samples from the start.
-/

namespace Vocoder

/-- Samples in one block. -/
def blockSamples : Nat := 160

/-- Bytes in one block. -/
def blockBytes : Nat := 2 * blockSamples

/-! ### Samples as bytes -/

/-- A sample, high byte first. -/
def sampleBytes (s : Int16) : List UInt8 :=
  bigEndian16 s.toUInt16.toNat

/-- The sample of two bytes, high byte first. -/
def sampleOfBytes (hi lo : UInt8) : Int16 :=
  (UInt16.ofNat (hi.toNat * 256 + lo.toNat)).toInt16

/-- Samples, high byte first. -/
def encodeSamples (samples : List Int16) : List UInt8 :=
  samples.flatMap sampleBytes

/-- The whole words of some bytes as samples, high byte first; an odd last byte is no word. -/
def decodeSamples : List UInt8 → List Int16
  | hi :: lo :: rest => sampleOfBytes hi lo :: decodeSamples rest
  | _ => []

/-- Samples, low byte first. -/
def encodeSamplesLow (samples : List Int16) : List UInt8 :=
  samples.flatMap fun s => (sampleBytes s).reverse

/-- The whole words of some bytes as samples, low byte first. -/
def decodeSamplesLow : List UInt8 → List Int16
  | lo :: hi :: rest => sampleOfBytes hi lo :: decodeSamplesLow rest
  | _ => []

theorem sampleOfBytes_bigEndian (s : Int16) :
    sampleOfBytes (UInt8.ofNat (s.toUInt16.toNat / 256)) (UInt8.ofNat (s.toUInt16.toNat % 256)) = s := by
  have h := s.toUInt16.toNat_lt
  have hn : s.toUInt16.toNat / 256 % 256 * 256 + s.toUInt16.toNat % 256 % 256 = s.toUInt16.toNat := by
    omega
  simp only [sampleOfBytes, UInt8.toNat_ofNat', Nat.reducePow, hn]
  simp

theorem decodeSamples_encodeSamples (samples : List Int16) :
    decodeSamples (encodeSamples samples) = samples := by
  induction samples with
  | nil => rfl
  | cons s rest ih =>
    show decodeSamples (sampleBytes s ++ encodeSamples rest) = _
    simp [sampleBytes, bigEndian16, decodeSamples, ih, sampleOfBytes_bigEndian]

theorem length_encodeSamples (samples : List Int16) :
    (encodeSamples samples).length = 2 * samples.length := by
  induction samples with
  | nil => rfl
  | cons s rest ih =>
    show (sampleBytes s ++ encodeSamples rest).length = _
    simp [sampleBytes, bigEndian16, ih]
    omega

theorem length_decodeSamples (bytes : List UInt8) :
    (decodeSamples bytes).length = bytes.length / 2 := by
  induction bytes using decodeSamples.induct with
  | case1 hi lo rest ih => simp [decodeSamples, ih]; omega
  | case2 bytes h =>
    match bytes, h with
    | [], _ => rfl
    | [_], _ => simp [decodeSamples]
    | a :: b :: rest, h => exact (h a b rest rfl).elim

/-! ### Blocks -/

/-- One block of samples. -/
@[ext]
structure AudioBlock where
  samples : List Int16
  length_samples : samples.length = blockSamples
  deriving DecidableEq

namespace AudioBlock

/-- A block of equal samples. -/
def fill (s : Int16) : AudioBlock :=
  ⟨List.replicate blockSamples s, by simp⟩

/-- The block that starts with the given samples, at most 160 of them, and goes on as `base`. -/
def startingWith (samples : List Int16) (base : AudioBlock) : AudioBlock :=
  ⟨(samples ++ base.samples.drop samples.length).take blockSamples, by
    simp [base.length_samples]; omega⟩

/-- The block whose first samples are the given ones and whose others are zero. -/
def ofSamples (samples : List Int16) : AudioBlock :=
  startingWith samples (fill 0)

/-- Replace samples from the start by the whole words of `data`, high byte first. -/
def overwrite (data : List UInt8) (base : AudioBlock) : AudioBlock :=
  startingWith (decodeSamples data) base

/-- A whole block of data replaces every sample. -/
theorem overwrite_encodeSamples (block base : AudioBlock) :
    base.overwrite (encodeSamples block.samples) = block := by
  ext1
  simp [overwrite, startingWith, decodeSamples_encodeSamples, block.length_samples]

end AudioBlock

end Vocoder
