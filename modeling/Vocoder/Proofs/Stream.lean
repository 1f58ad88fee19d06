import Vocoder.Proofs.Devices

/-!
# Byte streams

A line is a byte stream if preparing it for a packet leaves its bytes alone. What one receive leaves
behind, the next one finds.

* **`StreamLine`** — the kinds of lines that are byte streams: bench lines, and devices behind a serial
  line.
* **`Reader.receive_of_streams`** — a receive cuts the first packet off a stream and leaves the rest.
* **`Cut.packet_ne_timeout_of_room`** — where there is room for a whole packet, whatever a marker stands for
  does not run into a timeout.
-/

namespace Vocoder

open FlowingLine

/-- A kind of line on which preparing for a packet is nothing to the bytes. -/
class StreamLine (L : Type) [Line L] extends FlowingLine L where
  /-- Nothing fails on the line when a packet is received from it. -/
  Streams : L → Prop
  prepare_of_streams : ∀ {l}, Streams l →
    ∃ l', Line.prepare l = (.ok (), l') ∧ Flows l' ∧ Streams l' ∧ Line.readable l' = Line.readable l
  streams_advance : ∀ {l} k, Streams l → Streams (advance l k)

open StreamLine

instance : StreamLine BenchLine where
  Streams l := l.Flows ∧ l.failPrepare = false
  prepare_of_streams := by
    rintro l ⟨hflows, hprepare⟩
    refine ⟨{ l with prepareCalls := l.prepareCalls + 1 }, ?_, hflows, ⟨hflows, hprepare⟩, rfl⟩
    show l.prepare = _
    simp [BenchLine.prepare, hprepare]
  streams_advance _ h := h

instance : StreamLine SerialDevice where
  Streams d := d.line.isOpen = true ∧ d.line.hungUp = false
  prepare_of_streams {d} h := ⟨d, rfl, h, h, rfl⟩
  streams_advance _ h := h

namespace Reader

variable {L : Type} [Line L] [StreamLine L]

/-- **A receive cuts the first packet off a stream** and leaves what is behind it. -/
theorem receive_of_streams (r : Reader) {l : L} (hl : Streams l) :
    ∃ l', r.receive l =
        ((Cut.first r.lengthField r.timeoutMs (Line.readable l)).result,
          { r with held := (Cut.first r.lengthField r.timeoutMs (Line.readable l)).held }, l') ∧
      Streams l' ∧
      Line.readable l' =
        (Line.readable l).drop (Cut.first r.lengthField r.timeoutMs (Line.readable l)).consumed := by
  obtain ⟨l₁, hprepare, hflows, hstreams, hreadable⟩ := prepare_of_streams hl
  have hreceive := r.receive_of_flows hprepare hflows
  rw [hreadable] at hreceive
  refine ⟨_, hreceive, streams_advance _ hstreams, ?_⟩
  rw [readable_advance, hreadable]

end Reader

namespace Cut

variable {field : LengthField} {noise behind : List UInt8}

/-- A packet that does not run into a timeout takes its header off the line at least, and no more than a
packet may have. -/
theorem packet_consumed_of_ne_timeout
    (h : ∀ stage, (packet field noise.length behind).result ≠ .error (.timeout stage)) :
    noise.length + headerLength ≤ (packet field noise.length behind).consumed ∧
      (packet field noise.length behind).consumed ≤ noise.length + maxPacketLength := by
  have hends := ends_packet field noise.length behind
  generalize packet field noise.length behind = cut at h hends
  rw [headerLength, maxPacketLength]
  cases hends with
  | inHeader _ | inPayload _ _ => exact absurd rfl (h _)
  | refused _ =>
    dsimp only
    omega
  | whole _ _ =>
    dsimp only
    omega

/-- Where there is room for a whole packet behind a marker, whatever the marker starts does not run into a
timeout. -/
theorem packet_ne_timeout_of_room (hroom : maxPacketLength ≤ behind.length + 1) (stage : String) :
    (packet field noise.length behind).result ≠ .error (.timeout stage) := by
  intro h
  rw [maxPacketLength] at hroom
  have hends := ends_packet field noise.length behind
  generalize packet field noise.length behind = cut at h hends
  cases hends with
  | inHeader _ => omega
  | inPayload _ _ =>
    simp only [List.length_cons] at hroom
    omega
  | refused _ | whole _ _ => cases h

end Cut

end Vocoder
