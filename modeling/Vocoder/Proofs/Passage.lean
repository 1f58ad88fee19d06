import Mathlib
import Vocoder.LoopTest.Blocks

/-!
# Blocks on their way through the codec

The blocks of an input are encoded and decoded one after the other, and the first frame that fails stops
them.

* **`blocksOf_eq`** — the blocks are those of the whole chunks of the bytes, and the rest is behind them.
* **`Passage`** — what the encodings and decodings of some blocks come to, call by call.
* **`process_eq_of_passage`**, **`process_of_passage`** — the loop does what its passage says, and a sink with
  room loses nothing.
-/

namespace Vocoder

/-! ## Samples, low byte first -/

theorem sampleBytes_sampleOfBytes (hi lo : UInt8) : sampleBytes (sampleOfBytes hi lo) = [hi, lo] := by
  have hhi := hi.toNat_lt
  have hlo := lo.toNat_lt
  have hword : (sampleOfBytes hi lo).toUInt16.toNat = hi.toNat * 256 + lo.toNat := by
    unfold sampleOfBytes
    rw [UInt16.toUInt16_toInt16, UInt16.toNat_ofNat']
    omega
  have hdiv : (hi.toNat * 256 + lo.toNat) / 256 = hi.toNat := by omega
  have hrem : (hi.toNat * 256 + lo.toNat) % 256 = lo.toNat := by omega
  rw [sampleBytes, hword, bigEndian16, hdiv, hrem, UInt8.ofNat_toNat, UInt8.ofNat_toNat]

/-- A sample, its low byte first. -/
def lowFirst (s : Int16) : List UInt8 :=
  [UInt8.ofNat (s.toUInt16.toNat % 256), UInt8.ofNat (s.toUInt16.toNat / 256)]

theorem encodeSamplesLow_eq (samples : List Int16) : encodeSamplesLow samples = samples.flatMap lowFirst := rfl

/-- The two bytes of every word in the other order. An odd last byte is no word. -/
def swapped : List UInt8 → List UInt8
  | lo :: hi :: rest => hi :: lo :: swapped rest
  | _ => []

/-- Samples that are read low byte first are sent high byte first. -/
theorem encodeSamples_decodeSamplesLow (bytes : List UInt8) :
    encodeSamples (decodeSamplesLow bytes) = swapped bytes := by
  induction bytes using decodeSamplesLow.induct with
  | case1 lo hi rest ih =>
    show sampleBytes (sampleOfBytes hi lo) ++ encodeSamples (decodeSamplesLow rest) = _
    rw [sampleBytes_sampleOfBytes, ih]
    rfl
  | case2 bytes hshort =>
    rcases bytes with _ | ⟨a, _ | ⟨b, rest⟩⟩
    · rfl
    · rfl
    · exact (hshort a b rest rfl).elim

theorem encodeSamplesLow_decodeSamplesLow {bytes : List UInt8} (h : bytes.length % 2 = 0) :
    encodeSamplesLow (decodeSamplesLow bytes) = bytes := by
  induction bytes using decodeSamplesLow.induct with
  | case1 lo hi rest ih =>
    have hrest : rest.length % 2 = 0 := by
      simp only [List.length_cons] at h
      omega
    show (sampleBytes (sampleOfBytes hi lo)).reverse ++ encodeSamplesLow (decodeSamplesLow rest) = _
    rw [sampleBytes_sampleOfBytes, ih hrest]
    rfl
  | case2 bytes hshort =>
    match bytes, hshort with
    | [], _ => rfl
    | [_], _ => simp at h
    | a :: b :: rest, hshort => exact (hshort a b rest rfl).elim

theorem length_encodeSamplesLow (samples : List Int16) :
    (encodeSamplesLow samples).length = 2 * samples.length := by
  induction samples with
  | nil => rfl
  | cons s rest ih =>
    show ((sampleBytes s).reverse ++ encodeSamplesLow rest).length = _
    rw [List.length_append, ih, List.length_reverse, List.length_cons]
    show 2 + _ = _
    omega

theorem length_decodeSamplesLow (bytes : List UInt8) :
    (decodeSamplesLow bytes).length = bytes.length / 2 := by
  induction bytes using decodeSamplesLow.induct with
  | case1 lo hi rest ih =>
    simp only [decodeSamplesLow, List.length_cons, ih]
    omega
  | case2 bytes hshort =>
    rcases bytes with _ | ⟨a, _ | ⟨b, rest⟩⟩
    · rfl
    · simp [decodeSamplesLow]
    · exact (hshort a b rest rfl).elim

theorem AudioBlock.samples_ofSamples {samples : List Int16} (h : samples.length = blockSamples) :
    (AudioBlock.ofSamples samples).samples = samples := by
  have hrest : (AudioBlock.fill 0).samples.drop samples.length = [] := by
    apply List.drop_eq_nil_of_le
    rw [h, (AudioBlock.fill 0).length_samples]
  show (samples ++ (AudioBlock.fill 0).samples.drop samples.length).take blockSamples = samples
  rw [hrest, List.append_nil, List.take_of_length_le (by omega)]

namespace LoopTest

/-! ## The blocks of an input -/

/-- The whole chunks of a block's length in some bytes. -/
def chunksOf (bytes : List UInt8) : List (List UInt8) :=
  (List.range (bytes.length / blockBytes)).map fun i => (bytes.drop (blockBytes * i)).take blockBytes

/-- The samples of a chunk, low byte first. -/
def blockOf (chunk : List UInt8) : AudioBlock :=
  .ofSamples (decodeSamplesLow chunk)

theorem chunksOf_of_lt {bytes : List UInt8} (h : bytes.length < blockBytes) : chunksOf bytes = [] := by
  rw [chunksOf, Nat.div_eq_of_lt h]
  rfl

theorem chunksOf_of_le {bytes : List UInt8} (h : blockBytes ≤ bytes.length) :
    chunksOf bytes = bytes.take blockBytes :: chunksOf (bytes.drop blockBytes) := by
  have hcount : bytes.length / blockBytes = (bytes.drop blockBytes).length / blockBytes + 1 := by
    rw [List.length_drop]
    exact Nat.div_eq_sub_div (by decide) h
  have hlater : ∀ i, bytes.drop (blockBytes * (i + 1)) = (bytes.drop blockBytes).drop (blockBytes * i) := by
    intro i
    rw [List.drop_drop, Nat.mul_succ, Nat.add_comm]
  rw [chunksOf, hcount, List.range_succ_eq_map, List.map_cons, List.map_map]
  refine congrArg₂ List.cons rfl (List.map_congr_left fun i _ => ?_)
  show (bytes.drop (blockBytes * (i + 1))).take blockBytes = _
  rw [hlater]

theorem length_chunksOf (bytes : List UInt8) : (chunksOf bytes).length = bytes.length / blockBytes := by
  rw [chunksOf, List.length_map, List.length_range]

theorem length_of_mem_chunksOf {bytes chunk : List UInt8} (h : chunk ∈ chunksOf bytes) :
    chunk.length = blockBytes := by
  obtain ⟨i, hi, rfl⟩ := List.mem_map.mp h
  have hbytes : blockBytes * (i + 1) ≤ bytes.length :=
    (Nat.mul_le_mul_left _ (List.mem_range.mp hi)).trans (Nat.mul_div_le ..)
  rw [Nat.mul_succ] at hbytes
  rw [List.length_take, List.length_drop]
  omega

theorem samples_blockOf {chunk : List UInt8} (h : chunk.length = blockBytes) :
    (blockOf chunk).samples = decodeSamplesLow chunk := by
  apply AudioBlock.samples_ofSamples
  rw [length_decodeSamplesLow, h]
  rfl

theorem flatMap_lowFirst_blockOf {chunk : List UInt8} (h : chunk.length = blockBytes) :
    (blockOf chunk).samples.flatMap lowFirst = chunk := by
  rw [samples_blockOf h, ← encodeSamplesLow_eq, encodeSamplesLow_decodeSamplesLow]
  rw [h]
  rfl

/-- **The blocks of some bytes are those of their whole chunks**, and the rest is what is behind. -/
theorem blocksOf_eq (bytes : List UInt8) :
    (blocksOf bytes).1 = (chunksOf bytes).map blockOf ∧
      (chunksOf bytes).flatten ++ (blocksOf bytes).2 = bytes := by
  induction bytes using blocksOf.induct with
  | case1 bytes hshort =>
    have hlength : bytes.length < blockBytes := by
      rw [List.length_take] at hshort
      omega
    rw [blocksOf, if_pos hshort, chunksOf_of_lt hlength]
    exact ⟨rfl, rfl⟩
  | case2 bytes hlong _ _ _ ih =>
    have hlength : blockBytes ≤ bytes.length := by
      rw [List.length_take] at hlong
      omega
    rw [blocksOf, if_neg hlong, chunksOf_of_le hlength]
    rcases hrest : blocksOf (bytes.drop blockBytes) with ⟨blocks, rest⟩
    rw [hrest] at ih
    obtain ⟨hblocks, hbytes⟩ := ih
    constructor
    · exact congrArg (List.cons _) hblocks
    · show (bytes.take blockBytes ++ (chunksOf (bytes.drop blockBytes)).flatten) ++ rest = bytes
      rw [List.append_assoc, hbytes, List.take_append_drop]

/-! ## Voice frames -/

theorem fetch_length {L : Type} [Port L] {s s' : Session L} {request data : List UInt8}
    {expected : Response} {n : Nat} (h : s.fetch request expected n = (.ok data, s')) :
    data.length = n := by
  unfold Session.fetch at h
  rcases hexchange : s.exchange request expected with ⟨_ | _, s₁⟩
  all_goals rw [hexchange] at h
  · cases h
  · obtain ⟨hdata, -⟩ := Prod.mk.inj h
    unfold Session.frameData at hdata
    split at hdata
    · cases hdata
    · cases hdata
      rw [Reader.data, List.length_take, List.length_drop]
      omega

/-- An encoding is the same for any buffer of a length, and so is the frame in front of it. -/
theorem encode_reusing {L : Type} [Port L] {s s' : Session L} {audio : AudioBlock}
    {buffer voice : List UInt8} {rate : Rate} {gain : Int} {x : Except Fault Nat}
    (h : s.encode audio buffer rate gain = (x, voice, s')) (other : List UInt8)
    (hlength : other.length = buffer.length) :
    ∃ voice', s.encode audio other rate gain = (x, voice', s') ∧
      ∀ n, x = .ok n → n = rate.voiceBytes ∧ (voice.take n).length = n ∧ voice'.take n = voice.take n := by
  unfold Session.encode at h ⊢
  rw [hlength]
  rcases hprepare : s.prepareFrame buffer.length rate .input gain with ⟨_ | _, s₁⟩
  all_goals rw [hprepare] at h
  · cases h
    exact ⟨other, rfl, fun _ hx => by cases hx⟩
  · dsimp only at h ⊢
    rcases hfetch : s₁.fetch (audioPacket audio) .voice rate.voiceBytes with ⟨_ | frame, s₂⟩
    all_goals rw [hfetch] at h
    · cases h
      exact ⟨other, rfl, fun _ hx => by cases hx⟩
    · cases h
      refine ⟨frame ++ other.drop rate.voiceBytes, rfl, fun n hx => ?_⟩
      cases hx
      have hframe := fetch_length hfetch
      refine ⟨rfl, ?_, ?_⟩
      · rw [List.take_left' hframe, hframe]
      · rw [List.take_left' hframe, List.take_left' hframe]

theorem length_voiceBuffer : voiceBuffer.length = Rate.maxVoiceBytes :=
  List.length_replicate

/-- The loop encodes into a fresh buffer, with the outcome of one that was in use. -/
theorem encode_voiceBuffer {L : Type} [Port L] {s s' : Session L} {block : AudioBlock}
    {buffer voice : List UInt8} {rate : Rate} (hbuffer : buffer.length = Rate.maxVoiceBytes)
    {x : Except Fault Nat} (h : s.encode block buffer rate 0 = (x, voice, s')) :
    ∃ voice', s.encode block voiceBuffer rate 0 = (x, voice', s') ∧
      ∀ n, x = .ok n →
        n = rate.voiceBytes ∧ (voice.take n).length = n ∧ voice'.take n = voice.take n :=
  encode_reusing h voiceBuffer (length_voiceBuffer.trans hbuffer.symm)

/-! ## Passages -/

/-- A block that has come through the codec: the frame it was encoded to, and what the frame was
decoded to. -/
structure Trip where
  frame : List UInt8
  decoded : AudioBlock
  deriving DecidableEq

/-- Where some blocks stop on their way through the codec. -/
inductive Stop where
  /-- All of them are through. -/
  | through
  | encoding (f : Fault)
  /-- A block was encoded, and decoding the frame failed. -/
  | decoding (frame : List UInt8) (f : Fault)
  deriving DecidableEq

/-- What the calls come to by which blocks go through the codec. The buffer for the voice frame is as wide
as the widest frame, and holds whatever the calls before left in it. -/
inductive Passage {L : Type} [Line L] (rate : Rate) (gain : Int) :
    Session L → List AudioBlock → List Trip → Stop → Session L → Prop where
  | through {s : Session L} : Passage rate gain s [] [] .through s
  | encoding {s s' : Session L} {block : AudioBlock} {later : List AudioBlock}
    {buffer voice : List UInt8} {f : Fault} (hbuffer : buffer.length = Rate.maxVoiceBytes)
    (hencode : s.encode block buffer rate 0 = (.error f, voice, s')) :
    Passage rate gain s (block :: later) [] (.encoding f) s'
  | decoding {s s₁ s' : Session L} {block audio : AudioBlock} {later : List AudioBlock}
    {buffer voice : List UInt8} {n : Nat} {f : Fault} (hbuffer : buffer.length = Rate.maxVoiceBytes)
    (hencode : s.encode block buffer rate 0 = (.ok n, voice, s₁))
    (hdecode : s₁.decode (voice.take n) block rate gain = (.error f, audio, s')) :
    Passage rate gain s (block :: later) [] (.decoding (voice.take n) f) s'
  | next {s s₁ s₂ s' : Session L} {block decoded : AudioBlock} {later : List AudioBlock}
    {buffer voice : List UInt8} {n : Nat} {trips : List Trip} {stop : Stop}
    (hbuffer : buffer.length = Rate.maxVoiceBytes)
    (hencode : s.encode block buffer rate 0 = (.ok n, voice, s₁))
    (hdecode : s₁.decode (voice.take n) block rate gain = (.ok (), decoded, s₂))
    (h : Passage rate gain s₂ later trips stop s') :
    Passage rate gain s (block :: later) (⟨voice.take n, decoded⟩ :: trips) stop s'

/-- The calls made one after the other, each with a fresh buffer. -/
def travel {L : Type} [Line L] (rate : Rate) (gain : Int) (s : Session L) :
    List AudioBlock → List Trip × Stop × Session L
  | [] => ([], .through, s)
  | block :: later =>
    match s.encode block voiceBuffer rate 0 with
    | (.error f, _, s₁) => ([], .encoding f, s₁)
    | (.ok n, voice, s₁) =>
      match s₁.decode (voice.take n) block rate gain with
      | (.error f, _, s₂) => ([], .decoding (voice.take n) f, s₂)
      | (.ok (), decoded, s₂) =>
        match travel rate gain s₂ later with
        | (trips, stop, s') => (⟨voice.take n, decoded⟩ :: trips, stop, s')

namespace Stop

def fault? : Stop → Option Fault
  | through => none
  | encoding f | decoding _ f => some f

/-- What the user is told when the blocks have stopped; `last` if they are all through. -/
def notice (last : Notice) : Stop → Notice
  | through => last
  | encoding _ => .encodingFailed
  | decoding .. => .decodingFailed

end Stop

namespace Passage

variable {L : Type} [Line L] {rate : Rate} {gain : Int} {s s' : Session L} {blocks : List AudioBlock}
  {trips : List Trip} {stop : Stop}

theorem of_travel (h : travel rate gain s blocks = (trips, stop, s')) :
    Passage rate gain s blocks trips stop s' := by
  induction blocks generalizing s trips with
  | nil =>
    cases h
    exact .through
  | cons block later ih =>
    unfold travel at h
    rcases hencode : s.encode block voiceBuffer rate 0 with ⟨f | n, voice, s₁⟩
    all_goals
      rw [hencode] at h
      dsimp only at h
    · cases h
      exact .encoding length_voiceBuffer hencode
    · rcases hdecode : s₁.decode (voice.take n) block rate gain with ⟨f | _, decoded, s₂⟩
      all_goals
        rw [hdecode] at h
        dsimp only at h
      · cases h
        exact .decoding length_voiceBuffer hencode hdecode
      · rcases hlater : travel rate gain s₂ later with ⟨trips₂, stop₂, s₃⟩
        rw [hlater] at h
        cases h
        exact .next length_voiceBuffer hencode hdecode (ih hlater)

/-- The blocks are all through, or the first one that is not has failed. -/
theorem length_trips (h : Passage rate gain s blocks trips stop s') :
    if stop.fault?.isSome then trips.length < blocks.length else trips.length = blocks.length := by
  induction h with
  | through => rfl
  | encoding | decoding => exact Nat.zero_lt_succ _
  | next _ _ _ _ ih =>
    split at ih
    · rename_i hfailed
      rw [if_pos hfailed]
      exact Nat.succ_lt_succ ih
    · rename_i hthrough
      rw [if_neg hthrough, List.length_cons, List.length_cons, ih]

end Passage

/-! ## The loop -/

/-- What has come out of the codec, as bytes. -/
def audioOf (trips : List Trip) : List UInt8 :=
  trips.flatMap fun t => t.decoded.samples.flatMap lowFirst

theorem length_audioOf (trips : List Trip) : (audioOf trips).length = blockBytes * trips.length := by
  induction trips with
  | nil => rfl
  | cons t later ih =>
    show (encodeSamplesLow t.decoded.samples ++ audioOf later).length = _
    rw [List.length_append, ih, length_encodeSamplesLow, t.decoded.length_samples, List.length_cons,
      Nat.mul_succ, Nat.add_comm]
    rfl

theorem Sink.take_of_room {k : Sink} (h : k.hasRoom = true) (block : List UInt8) :
    ∃ k', k.take block = (.ok (), k') ∧ k'.hasRoom = true := by
  unfold Sink.take
  split
  · exact ⟨_, rfl, h⟩
  · exact ⟨_, rfl, h⟩

theorem Sink.flush_of_room {k : Sink} (h : k.hasRoom = true) :
    ∃ k', k.flush = (.ok (), k') ∧ k'.hasRoom = true := by
  unfold Sink.flush
  split
  · exact ⟨k, rfl, h⟩
  · exact ⟨_, rfl, h⟩

theorem Sink.write_of_room {k : Sink} (h : k.hasRoom = true) (block : List UInt8) :
    ∃ k', k.write block = (.ok (), k') ∧ k'.hasRoom = true := by
  unfold Sink.write
  split
  · exact take_of_room h block
  · obtain ⟨k', hflush, h'⟩ := flush_of_room h
    rw [hflush]
    exact take_of_room h' block

/-- What has come out of the codec, block by block. -/
def audioBlocks (trips : List Trip) : List (List UInt8) :=
  trips.map fun t => encodeSamplesLow t.decoded.samples

theorem flatten_audioBlocks (trips : List Trip) : (audioBlocks trips).flatten = audioOf trips :=
  List.flatMap_def.symm

theorem length_of_mem_audioBlocks {trips : List Trip} {block : List UInt8} (h : block ∈ audioBlocks trips) :
    block.length = blockBytes := by
  obtain ⟨t, -, rfl⟩ := List.mem_map.mp h
  rw [length_encodeSamplesLow, t.decoded.length_samples]
  rfl

/-- Some blocks written one after the other, with what each write comes to. -/
def Sink.writeAll (k : Sink) : List (List UInt8) → List (Except FileProblem Unit) × Sink
  | [] => ([], k)
  | block :: later =>
    match k.write block with
    | (written, k₁) => (written :: (k₁.writeAll later).1, (k₁.writeAll later).2)

/-- **The loop does what the passage of its blocks says**, and writes what came out of the codec. A block that
cannot be written is told, and makes no other difference. -/
theorem process_eq_of_passage {L : Type} [Line L] {rate : Rate} {gain : Int} {s s' : Session L}
    {blocks : List AudioBlock} {trips : List Trip} {stop : Stop}
    (h : Passage rate gain s blocks trips stop s') (last : Notice) (k : Sink) :
    process rate gain last s k blocks =
      ⟨s', (k.writeAll (audioBlocks trips)).2,
        (k.writeAll (audioBlocks trips)).1.flatMap writeNotices ++ [stop.notice last], stop.fault?⟩ := by
  induction h generalizing k with
  | through => rfl
  | encoding hbuffer hencode =>
    obtain ⟨_, hfresh, -⟩ := encode_voiceBuffer hbuffer hencode
    simp only [process, roundTrip, hfresh]
    rfl
  | decoding hbuffer hencode hdecode =>
    obtain ⟨_, hfresh, hvoice⟩ := encode_voiceBuffer hbuffer hencode
    obtain ⟨-, -, hframe⟩ := hvoice _ rfl
    simp only [process, roundTrip, hfresh, hframe, hdecode]
    rfl
  | @next s s₁ s₂ s' block decoded later buffer voice n trips stop hbuffer hencode hdecode _ ih =>
    obtain ⟨_, hfresh, hvoice⟩ := encode_voiceBuffer hbuffer hencode
    obtain ⟨-, -, hframe⟩ := hvoice _ rfl
    rcases hwrite : k.write (encodeSamplesLow decoded.samples) with ⟨written, k₁⟩
    simp only [process, roundTrip, hfresh, hframe, hdecode, hwrite, ih k₁, audioBlocks, List.map_cons,
      Sink.writeAll, List.flatMap_cons, List.append_assoc]

/-- A sink with room takes everything. -/
theorem Sink.writeAll_of_room {k : Sink} (h : k.hasRoom = true) (blocks : List (List UInt8)) :
    (k.writeAll blocks).1.flatMap writeNotices = [] ∧ (k.writeAll blocks).2.hasRoom = true ∧
      (k.writeAll blocks).2.accepted = k.accepted ++ blocks.flatten := by
  induction blocks generalizing k with
  | nil => exact ⟨rfl, h, (List.append_nil _).symm⟩
  | cons block later ih =>
    obtain ⟨k₁, hwrite, hroom⟩ := write_of_room h block
    obtain ⟨hnotices, hroom', haccepted⟩ := ih hroom
    rw [writeAll, hwrite]
    refine ⟨hnotices, hroom', ?_⟩
    rw [haccepted, accepted_write hwrite, List.append_assoc, List.flatten_cons]

/-- **A sink with room takes the whole audio of the blocks that are through**, and of no other block. -/
theorem process_of_passage {L : Type} [Line L] {rate : Rate} {gain : Int} {s s' : Session L}
    {blocks : List AudioBlock} {trips : List Trip} {stop : Stop}
    (h : Passage rate gain s blocks trips stop s') (last : Notice) {k : Sink} (hroom : k.hasRoom = true) :
    ∃ k', process rate gain last s k blocks = ⟨s', k', [stop.notice last], stop.fault?⟩ ∧
      k'.hasRoom = true ∧ k'.accepted = k.accepted ++ audioOf trips := by
  obtain ⟨hnotices, hroom', haccepted⟩ := Sink.writeAll_of_room hroom (audioBlocks trips)
  refine ⟨_, ?_, hroom', ?_⟩
  · rw [process_eq_of_passage h last k, hnotices]
    rfl
  · rw [haccepted, flatten_audioBlocks]

end LoopTest

end Vocoder
