import Vocoder.Audio
import Vocoder.Fault
import Vocoder.Rate

/-!
# Requests

The packets the host sends; the chip answers each of them by one packet. Gains are clamped to what
the chip accepts before they are sent. `gainRequest_eq`, `audioPacket_eq` and `voicePacket_host` say
that every request is a packet in the sense of `packet`, with a length that covers its payload.

The length of a voice packet is composed through the byte order the session believes its host to
have: on the little-endian machines the driver runs on, the order `little` puts the length on the
line high byte first, as every other packet does.
-/

namespace Vocoder

/-! ### Gain -/

/-- The chip accepts gains from `-maxGain` to `maxGain` decibels. -/
def maxGain : Int := 90

/-- The nearest gain the chip accepts. -/
def clampGain (db : Int) : Int :=
  max (-maxGain) (min maxGain db)

/-- A clamped gain as a signed byte. -/
def gainByte (db : Int) : UInt8 :=
  UInt8.ofNat (clampGain db % 256).toNat

/-- The signed value of a byte. -/
def signedByte (b : UInt8) : Int :=
  if b.toNat < 128 then b.toNat else (b.toNat : Int) - 256

theorem signedByte_gainByte (db : Int) : signedByte (gainByte db) = clampGain db := by
  have h : -90 ≤ clampGain db ∧ clampGain db ≤ 90 := by simp only [clampGain, maxGain]; omega
  simp only [signedByte, gainByte, UInt8.toNat_ofNat', Nat.reducePow]
  split <;> omega

/-! ### Byte order of the host -/

/-- The order in which the host stores a number in memory, as far as the session knows. -/
inductive ByteOrder where
  | little
  | big
  deriving DecidableEq, Repr

/-- The order of the machines the driver runs on. -/
def ByteOrder.host : ByteOrder := .little

/-- The length of a voice packet on the line. A session that takes its host for big-endian leaves
the number unswapped, and a little-endian machine then sends the low byte first. -/
def ByteOrder.lengthBytes : ByteOrder → Nat → List UInt8
  | little, n => bigEndian16 n
  | big, n => (bigEndian16 n).reverse

/-! ### Packets to send -/

/-- Asks the chip for its product identification. -/
def productQuery : List UInt8 :=
  packet controlType [productSubtype]

/-- What a gain request starts with; the input and the output gain follow. -/
def gainHeader : List UInt8 :=
  startMarker :: bigEndian16 3 ++ [controlType, gainSubtype]

/-- Sets the input and the output gain, each clamped. -/
def gainRequest (gainIn gainOut : Int) : List UInt8 :=
  gainHeader ++ [gainByte gainIn, gainByte gainOut]

/-- Puts the chip into a rate; there is nothing to send for the rate `none`. -/
def Rate.request? (r : Rate) : Option (List UInt8) :=
  r.controlWords?.map fun ws => packet controlType (rateSubtype :: ws)

/-- What an audio packet starts with: its length, the speech field and the number of samples. -/
def audioHeader : List UInt8 :=
  startMarker :: bigEndian16 (2 + blockBytes) ++
    [audioType, speechField, UInt8.ofNat blockSamples]

/-- Carries one block of samples. -/
def audioPacket (block : AudioBlock) : List UInt8 :=
  audioHeader ++ encodeSamples block.samples

/-- What a voice packet starts with; its length and its number of bits follow the rate. -/
def voiceHeader (length : List UInt8) (bits : Nat) : List UInt8 :=
  startMarker :: length ++ [voiceType, channelField, UInt8.ofNat bits]

/-- Carries one voice frame at a rate: the first bytes of `voice`, as many as the rate's frame has.
A `voice` narrower than the frame is refused. -/
def voicePacket (voice : List UInt8) (rate : Rate) (order : ByteOrder) :
    Except Fault (List UInt8) :=
  if voice.length < rate.voiceBytes then
    .error (.bufferTooSmall rate.voiceBytes voice.length)
  else
    .ok (voiceHeader (order.lengthBytes (2 + rate.voiceBytes)) rate.voiceBits ++
      voice.take rate.voiceBytes)

theorem gainRequest_eq (gainIn gainOut : Int) :
    gainRequest gainIn gainOut =
      packet controlType [gainSubtype, gainByte gainIn, gainByte gainOut] := rfl

theorem audioPacket_eq (block : AudioBlock) :
    audioPacket block =
      packet audioType (speechField :: UInt8.ofNat blockSamples :: encodeSamples block.samples) := by
  simp [audioPacket, audioHeader, packet, length_encodeSamples, block.length_samples, blockBytes]
  congr 1

theorem voicePacket_host {voice : List UInt8} {rate : Rate} (h : rate.voiceBytes ≤ voice.length) :
    voicePacket voice rate .host =
      .ok (packet voiceType
        (channelField :: UInt8.ofNat rate.voiceBits :: voice.take rate.voiceBytes)) := by
  have hn : ¬ voice.length < rate.voiceBytes := by omega
  simp [voicePacket, hn, voiceHeader, packet, ByteOrder.host, ByteOrder.lengthBytes,
    Nat.min_eq_left h]
  congr 1
  omega

end Vocoder
