import Mathlib
import Vocoder.Proofs.LoopRun
import Vocoder.Proofs.Resumption

/-!
# Nothing is lost silently

A decoded block that cannot be written is told and otherwise passed over, so what is in the output rests on
what its buffer took and on the flush at the end.

* **`Sink.Cramped`** — a sink without room holds back a number of blocks and refuses every other one.
* **`Passage.framesDecoded`** — as many frames are counted as decoded as blocks have come through.
* **`Intake`**, **`Outlet`** — a run that comes to its blocks, and the outputs it can be given.
* **`Outlet.report_of_room`**, **`Outlet.report_of_full`** — the whole report of a run on either kind of
  output.
* **`Intake.output_accounted`** — a run that exits with zero has its output whole; a full output changes
  nothing for the device, costs a notice for each block that is lost, and is what the run fails for.
-/

namespace Vocoder

/-! ## Frames that are counted -/

namespace Session

variable {L : Type} [Port L]

omit [Port L] in
theorem settle_stats (what : String) (t : Settings) (x : Except Fault Unit) (s : Session L) :
    (settle what t (x, s)).2.stats = s.stats := by
  cases x with
  | ok _ => rfl
  | error f =>
    rw [settle]
    cases s.config.cachePolicy with
    | always => rfl
    | onSuccess => rfl

theorem adoptRate_frames (s : Session L) (rate : Rate) :
    (s.adoptRate rate).2.stats.frames = s.stats.frames := by
  rw [adoptRate]
  split
  · rfl
  · rw [← s.requestRate_frames rate]
    exact congrArg Stats.frames (settle_stats ..)

theorem adoptGain_frames (s : Session L) (d : Direction) (gain : Int) :
    (s.adoptGain d gain).2.stats.frames = s.stats.frames := by
  rw [adoptGain]
  split
  · rfl
  · rw [← s.requestGain_frames (s.settings.withGain d gain)]
    exact congrArg Stats.frames (settle_stats ..)

/-- What comes before a frame counts as no frame, whatever the policy. -/
theorem prepareFrame_frames {s s' : Session L} {available : Nat} {rate : Rate} {d : Direction} {gain : Int}
    {x : Except Fault Unit} (h : s.prepareFrame available rate d gain = (x, s')) :
    s'.stats.frames = s.stats.frames := by
  have hrate := s.adoptRate_frames rate
  rw [prepareFrame] at h
  split at h
  · split at h
    · cases h
      rfl
    · rcases hadopt : s.adoptRate rate with ⟨_ | _, s₁⟩
      all_goals rw [hadopt] at h hrate
      · cases h
        exact hrate
      · have hgain := s₁.adoptGain_frames d gain
        dsimp only at h
        rw [h] at hgain
        exact hgain.trans hrate
  · cases h
    rfl

theorem encode_framesDecoded {s s' : Session L} {audio : AudioBlock} {buffer voice : List UInt8}
    {rate : Rate} {gain : Int} {x : Except Fault Nat}
    (h : s.encode audio buffer rate gain = (x, voice, s')) :
    s'.stats.framesDecoded = s.stats.framesDecoded := by
  rw [encode] at h
  rcases hprepare : s.prepareFrame buffer.length rate .input gain with ⟨_ | _, s₁⟩
  all_goals
    have hframes := congrArg (·.2.1) (prepareFrame_frames hprepare)
    rw [hprepare] at h
    dsimp only at h
  · cases h
    exact hframes
  · have hfetched := s₁.fetch_stats (audioPacket audio) .voice rate.voiceBytes
    rcases hfetch : s₁.fetch (audioPacket audio) .voice rate.voiceBytes with ⟨_ | _, s₂⟩
    all_goals
      rw [hfetch] at h hfetched
      cases h
      exact (congrArg Stats.framesDecoded hfetched).trans hframes

/-- A frame that is decoded is counted, and no other one. -/
theorem decode_framesDecoded {s s' : Session L} {audio decoded : AudioBlock} {voice : List UInt8}
    {rate : Rate} {gain : Int} {x : Except Fault Unit}
    (h : s.decode voice audio rate gain = (x, decoded, s')) :
    s'.stats.framesDecoded = s.stats.framesDecoded + x.toOption.toList.length := by
  rw [decode] at h
  rcases hprepare : s.prepareFrame voice.length rate .output gain with ⟨_ | _, s₁⟩
  all_goals
    have hframes := congrArg (·.2.1) (prepareFrame_frames hprepare)
    rw [hprepare] at h
    dsimp only at h
  · cases h
    exact hframes
  · rcases hpacket : voicePacket voice rate .host with _ | request
    all_goals
      rw [hpacket] at h
      dsimp only at h
    · cases h
      exact hframes
    · have hfetched := s₁.fetch_stats request .audio blockBytes
      rcases hfetch : s₁.fetch request .audio blockBytes with ⟨_ | _, s₂⟩
      all_goals
        rw [hfetch] at h hfetched
        cases h
      · exact (congrArg Stats.framesDecoded hfetched).trans hframes
      · exact congrArg (· + 1) ((congrArg Stats.framesDecoded hfetched).trans hframes)

end Session

namespace LoopTest

theorem Passage.framesDecoded {L : Type} [Line L] {rate : Rate} {gain : Int} {s s' : Session L}
    {blocks : List AudioBlock} {trips : List Trip} {stop : Stop}
    (h : Passage rate gain s blocks trips stop s') :
    s'.stats.framesDecoded = s.stats.framesDecoded + trips.length := by
  induction h with
  | through => rfl
  | encoding _ hencode => exact Session.encode_framesDecoded hencode
  | decoding _ hencode hdecode =>
    exact (Session.decode_framesDecoded hdecode).trans (Session.encode_framesDecoded hencode)
  | next _ hencode hdecode _ ih =>
    rw [ih, Session.decode_framesDecoded hdecode, Session.encode_framesDecoded hencode, List.length_cons]
    show _ + 1 + _ = _
    omega

/-! ## A sink without room -/

namespace Sink

/-- A sink without room that holds back so many blocks of audio, and can hold no more than 25. -/
structure Cramped (k : Sink) (n : Nat) : Prop where
  capacity : k.capacity = bufferSize
  hasRoom : k.hasRoom = false
  passed : k.passed = []
  held : k.held.length = blockBytes * n
  fits : n ≤ 25

namespace Cramped

variable {k : Sink} {n : Nat} {block : List UInt8}

theorem isEmpty_held (h : k.Cramped n) : k.held.isEmpty = decide (n = 0) := by
  have hheld : k.held.length = 320 * n := h.held
  rw [Bool.eq_iff_iff, List.isEmpty_iff_length_eq_zero, decide_eq_true_eq]
  omega

theorem flush (h : k.Cramped n) : k.flush = (if n = 0 then .ok () else .error .noRoom, k) := by
  rw [Sink.flush, h.isEmpty_held, h.hasRoom]
  by_cases hn : n = 0
  · simp [hn]
  · simp [hn]

theorem write_of_lt (h : k.Cramped n) (hblock : block.length = blockBytes) (hn : n < 25) :
    ∃ k', k.write block = (.ok (), k') ∧ k'.Cramped (n + 1) := by
  have hheld : k.held.length = 320 * n := h.held
  have hlength : block.length = 320 := hblock
  have hcapacity : k.capacity = 8192 := h.capacity
  refine ⟨{ k with held := k.held ++ block }, ?_, h.capacity, h.hasRoom, h.passed, ?_, hn⟩
  · rw [Sink.write, if_pos (by omega), Sink.take, if_pos (by omega)]
  · rw [List.length_append, hblock, h.held]
    rfl

/-- What is held back cannot be passed on, so it leaves no place for another block. -/
theorem write_of_eq (h : k.Cramped 25) (hblock : block.length = blockBytes) :
    k.write block = (.error .noRoom, k) := by
  have hheld : k.held.length = 320 * 25 := h.held
  have hlength : block.length = 320 := hblock
  have hcapacity : k.capacity = 8192 := h.capacity
  rw [Sink.write, if_neg (by omega), h.flush]
  rfl

/-- **Every block that is not held back is told.** Induction on the blocks. -/
theorem writeAll {blocks : List (List UInt8)} (hblocks : ∀ block ∈ blocks, block.length = blockBytes) :
    ∀ {k : Sink} {n : Nat}, k.Cramped n →
      (k.writeAll blocks).2.Cramped (min (n + blocks.length) 25) ∧
        (k.writeAll blocks).1.flatMap writeNotices =
          List.replicate (n + blocks.length - 25) (.writingFailed FileProblem.noRoom.text) := by
  induction blocks with
  | nil =>
    intro k n h
    have hfits := h.fits
    rw [List.length_nil, Nat.add_zero, Nat.min_eq_left hfits, Nat.sub_eq_zero_of_le hfits]
    exact ⟨h, rfl⟩
  | cons block later ih =>
    intro k n h
    have hblock := hblocks block List.mem_cons_self
    have ih := fun {k n} => @ih (fun b hb => hblocks b (List.mem_cons_of_mem _ hb)) k n
    rw [Sink.writeAll, List.length_cons]
    -- the buffer takes twenty-five blocks, and from then on it stays as it is
    by_cases hn : n < 25
    · obtain ⟨k₁, hwrite, h₁⟩ := h.write_of_lt hblock hn
      rw [hwrite, Nat.add_comm later.length 1, ← Nat.add_assoc]
      exact ih h₁
    · have hfull : n = 25 := Nat.le_antisymm h.fits (Nat.le_of_not_lt hn)
      subst hfull
      obtain ⟨hcramped, hnotices⟩ := ih h
      rw [h.write_of_eq hblock]
      dsimp only
      rw [List.flatMap_cons, hnotices, show 25 + (later.length + 1) - 25 = later.length + 1 by omega,
        show 25 + later.length - 25 = later.length by omega, List.replicate_succ,
        show min (25 + (later.length + 1)) 25 = min (25 + later.length) 25 by omega]
      exact ⟨hcramped, rfl⟩

end Cramped

end Sink

/-! ## What a run finds -/

/-- An output has room, or it is a device on which there never is any. -/
theorem openOutput_cases {files files' : Files} {name : String} {channel : Channel} {k : Sink}
    (h : openOutput files name = .ok (channel, k, files')) :
    (k.hasRoom = true ∧ k.accepted = [] ∧ ∀ p, channel = .path p → files'.node? p ≠ some .full) ∨
      ∃ p, channel = .path p ∧ files'.node? p = some .full ∧ k.Cramped 0 := by
  unfold openOutput at h
  split at h
  · cases h
    exact .inl ⟨rfl, rfl, nofun⟩
  · split at h
    · cases h
    · cases h
      exact .inl ⟨rfl, rfl, nofun⟩
    · cases h
      exact .inl ⟨rfl, rfl, nofun⟩
    · rename_i p n _ _ _ hcreate
      cases h
      have hnode := Files.node?_of_create hcreate
      by_cases hfull : n = .full
      · subst hfull
        exact .inr ⟨p, rfl, hnode, rfl, rfl, rfl, rfl, Nat.zero_le _⟩
      · refine .inl ⟨decide_eq_true hfull, rfl, ?_⟩
        intro q hq hsame
        cases hq
        rw [hnode] at hsame
        exact hfull (Option.some.inj hsame)

/-- What a run finds that comes to its blocks, whatever its output is: an input that can be read, with or
without an end, and a chip that lets itself be identified. -/
structure Intake (w : World) where
  options : Options
  plan : Plan
  input : Path
  supply : Supply
  device : Link
  planned : planOf w options = .ok plan
  inputOpened : openInput (afterConfig w.files options) options.input = .ok input
  supplied : (afterConfig w.files options).supplyAt input = .ok supply
  addressed : Link.ofAddress w.host plan.address plan.speed = .ok device
  identified : (({ config := plan.session } : Session Link).openLine (.ok device)).1 = .ok ()

namespace Intake

variable {w : World} (intake : Intake w)

def session : Session Link :=
  (({ config := intake.plan.session } : Session Link).openLine (.ok intake.device)).2.1

def blocks : List AudioBlock :=
  match intake.supply with
  | .finite bytes => (blocksOf bytes).1
  | .zeros => List.replicate (blockBound intake.session) (.fill 0)

/-- What the user is told when the blocks are all through. -/
def last : Notice :=
  match intake.supply with
  | .finite bytes => if (blocksOf bytes).2.isEmpty then .inputEnded else .incompleteBlock
  | .zeros => .inputEnded

/-- The blocks come through as far as this. -/
def Passes (trips : List Trip) (stop : Stop) (s' : Session Link) : Prop :=
  Passage intake.plan.rate intake.plan.gain intake.session intake.blocks trips stop s'

/-- What the user is told before the first block. -/
def opening (output : String) : List Notice :=
  [.openedInput intake.options.input, .openedOutput output, .openedDevice intake.plan.address, .started]

theorem stats_session : intake.session.stats = {} := by
  have hidentified := intake.identified
  unfold session
  generalize ({ config := intake.plan.session } : Session Link) = s at hidentified ⊢
  have hopen : s.openLine (.ok intake.device) =
      ((s.close.1.attach intake.device).1, (s.close.1.attach intake.device).2.1,
        s.close.2.toList ++ (s.close.1.attach intake.device).2.2) := rfl
  rw [hopen] at hidentified ⊢
  rcases s.close.1.attach_cases intake.device with hattached | hfailed
  · obtain ⟨name, r, l', -, hattach⟩ := hattached
    rw [hattach]
  · obtain ⟨f, r, l', -, hattach⟩ := hfailed
    rw [hattach] at hidentified
    cases hidentified

theorem processSupply_eq (k : Sink) :
    processSupply intake.plan.rate intake.plan.gain (blockBound intake.session) intake.session k
        intake.supply =
      process intake.plan.rate intake.plan.gain intake.last intake.session k intake.blocks := by
  unfold last blocks
  cases intake.supply with
  | finite bytes => rfl
  | zeros => rfl

end Intake

/-- An output of such a run, which is not its input: the arguments that name it, and what opening it comes
to. -/
structure Outlet {w : World} (intake : Intake w) where
  name : String
  args : List String
  channel : Channel
  sink : Sink
  /-- The files once the output is open. -/
  files : Files
  parsed : CommandLine.parse args = .ok { intake.options with output := name }
  opened : openOutput (afterConfig w.files intake.options) name = .ok (channel, sink, files)
  apart : channel ≠ .path intake.input

/-- The audio in a notice. -/
def Notice.audio? : Notice → Option (List UInt8)
  | audio bytes => some bytes
  | _ => none

/-- The counts in a notice. -/
def Notice.counts? : Notice → Option Stats
  | counts stats => some stats
  | _ => none

theorem audio_interspersed (bytes : List UInt8) :
    (interspersed bytes .standardError).filterMap Notice.audio? = [bytes] := rfl

theorem counts_interspersed (bytes : List UInt8) (channel : Channel) :
    (interspersed bytes channel).filterMap Notice.counts? = [] := by
  cases channel <;> rfl

theorem audio_aborting (fault? : Option Fault) :
    (fault?.toList.map Notice.aborting).filterMap Notice.audio? = [] := by
  cases fault? <;> rfl

theorem counts_aborting (fault? : Option Fault) :
    (fault?.toList.map Notice.aborting).filterMap Notice.counts? = [] := by
  cases fault? <;> rfl

theorem exitCode_eq_zero {fault? : Option Fault} : (if fault?.isSome then 1 else 0) = 0 ↔ fault? = none := by
  cases fault? with
  | none => exact ⟨fun _ => rfl, fun _ => rfl⟩
  | some f => exact ⟨nofun, nofun⟩

theorem Stop.eq_through {stop : Stop} (h : stop.fault? = none) : stop = .through := by
  cases stop with
  | through => rfl
  | encoding | decoding => cases h

/-- What the user is told at the end of the blocks is neither audio nor counts. -/
theorem Intake.notice_last {w : World} (intake : Intake w) (stop : Stop) :
    [stop.notice intake.last].filterMap Notice.counts? = [] ∧
      [stop.notice intake.last].filterMap Notice.audio? = [] := by
  cases stop with
  | encoding | decoding => exact ⟨rfl, rfl⟩
  | through =>
    unfold Stop.notice last
    cases intake.supply with
    | zeros => exact ⟨rfl, rfl⟩
    | finite bytes =>
      dsimp only
      split
      · exact ⟨rfl, rfl⟩
      · exact ⟨rfl, rfl⟩

namespace Outlet

variable {w : World} {intake : Intake w} (out : Outlet intake)

def report : Report :=
  run w out.args

/-- There is never room in the output. -/
def IsFull : Prop :=
  ∃ p, out.channel = .path p ∧ out.files.node? p = some .full

/-- The output holds the audio when the run is over. A device that takes everything keeps nothing of it; one
without room has taken nothing. -/
structure Holds (audio : List UInt8) : Prop where
  stdout : out.channel = .standardOutput → out.report.stdout = audio
  stderr : out.channel = .standardError →
    (out.report.notices.filterMap Notice.audio?).flatten = audio
  file : ∀ p, out.channel = .path p → out.files.node? p = some (.regular []) →
    out.report.files.node? p = some (.regular audio)
  full : out.IsFull → audio = []

/-- The run comes to the blocks, and ends with what became of them. -/
theorem report_eq :
    out.report =
      conclude { intake.options with output := out.name } out.files out.channel (intake.opening out.name)
        (process intake.plan.rate intake.plan.gain intake.last intake.session out.sink intake.blocks) := by
  obtain ⟨released, hopened⟩ : ∃ released,
      ({ config := intake.plan.session } : Session Link).openLine (.ok intake.device) =
        (.ok (), intake.session, released) := ⟨_, Prod.ext intake.identified rfl⟩
  have hsupply := supplyAt_of_openOutput out.opened out.apart intake.supplied
  have hplanned : planOf w { intake.options with output := out.name } = .ok intake.plan :=
    intake.planned
  have hconfig : afterConfig w.files { intake.options with output := out.name } =
      afterConfig w.files intake.options := rfl
  rw [report, run, out.parsed]
  simp only [runOptions, hplanned, hconfig, intake.inputOpened, out.opened, runOpened, intake.addressed,
    hopened, runSession, hsupply, intake.processSupply_eq]
  rfl

variable {trips : List Trip} {stop : Stop} {s' : Session Link}

/-- With room the audio comes out whole, a part of it before the end of the process. -/
theorem report_of_room (h : intake.Passes trips stop s') (hroom : out.sink.hasRoom = true)
    (hempty : out.sink.accepted = []) :
    ∃ early late, early ++ late = audioOf trips ∧
      out.report =
        { exitCode := if stop.fault?.isSome then 1 else 0
          stdout := printed (audioOf trips) out.channel
          notices :=
            intake.opening out.name ++ interspersed early out.channel ++ [stop.notice intake.last] ++
              [.finished, .counts s'.stats] ++ interspersed late out.channel ++
              stop.fault?.toList.map .aborting
          files := store out.files (audioOf trips) out.channel
          lines := s'.close.2.toList } := by
  obtain ⟨k, hprocess, hroom', haudio⟩ := process_of_passage h intake.last hroom
  rw [hempty, List.nil_append] at haudio
  obtain ⟨k', hflush, hpassed⟩ := k.flush_all hroom'
  have hsplit : k.passed ++ k.held = audioOf trips := haudio
  refine ⟨k.passed, k.held, hsplit, ?_⟩
  rw [out.report_eq, hprocess, conclude, hflush]
  dsimp only
  rw [hpassed, haudio, ← hsplit, List.drop_left]
  rfl

/-- What a run fails for whose output is full. -/
def fullFault? (d : Nat) (stop : Stop) : Option Fault :=
  if d = 0 then stop.fault? else some (.file out.name FileProblem.noRoom.text)

theorem fullFault?_eq_none {d : Nat} : out.fullFault? d stop = none ↔ d = 0 ∧ stop.fault? = none := by
  rw [fullFault?]
  by_cases hd : d = 0
  · rw [if_pos hd]
    exact (and_iff_right hd).symm
  · rw [if_neg hd]
    exact ⟨nofun, fun h => absurd h.1 hd⟩

/-- Without room the blocks are gone from the twenty-sixth on, and those that are held back at the end. -/
theorem report_of_full (h : intake.Passes trips stop s') (hfull : out.sink.Cramped 0) {p : Path}
    (hchannel : out.channel = .path p) :
    out.report =
      { exitCode := if (out.fullFault? trips.length stop).isSome then 1 else 0
        notices :=
          intake.opening out.name ++
            (List.replicate (trips.length - 25) (.writingFailed FileProblem.noRoom.text) ++
              [stop.notice intake.last]) ++
            [.finished, .counts s'.stats] ++ (out.fullFault? trips.length stop).toList.map .aborting
        files := store out.files [] out.channel
        lines := s'.close.2.toList } := by
  have hblocks : ∀ block ∈ audioBlocks trips, block.length = blockBytes :=
    fun _ => length_of_mem_audioBlocks
  obtain ⟨hcramped, hnotices⟩ := Sink.Cramped.writeAll hblocks hfull
  have hcount : (audioBlocks trips).length = trips.length := List.length_map ..
  rw [Nat.zero_add, hcount] at hcramped hnotices
  have hfault : finalFault? out.name stop.fault? (if min trips.length 25 = 0 then .ok () else .error .noRoom) =
      out.fullFault? trips.length stop := by
    -- the last flush fails just if something is held back
    rw [fullFault?]
    by_cases hzero : trips.length = 0
    · rw [if_pos hzero, if_pos (by omega)]
      rfl
    · rw [if_neg hzero, if_neg (by omega)]
      rfl
  rw [out.report_eq, process_eq_of_passage h, conclude, hcramped.flush, hnotices]
  dsimp only
  rw [hfault, hcramped.passed, hchannel]
  simp only [printed, interspersed, List.append_nil]

theorem holds_of_room (h : intake.Passes trips stop s') (hroom : out.sink.hasRoom = true)
    (hempty : out.sink.accepted = []) (hnotFull : ¬ out.IsFull) : out.Holds (audioOf trips) := by
  obtain ⟨early, late, hsplit, hreport⟩ := out.report_of_room h hroom hempty
  have hopening : (intake.opening out.name).filterMap Notice.audio? = [] := rfl
  have hlast := (intake.notice_last stop).2
  refine ⟨?_, ?_, ?_, fun hfull => absurd hfull hnotFull⟩
  · intro hchannel
    rw [hreport, hchannel]
    rfl
  · intro hchannel
    rw [hreport, hchannel]
    have hcounts : [Notice.finished, .counts s'.stats].filterMap Notice.audio? = [] := rfl
    simp only [List.filterMap_append, hopening, audio_interspersed, hlast, hcounts, audio_aborting]
    simpa using hsplit
  · intro p hchannel hnode
    rw [hreport, hchannel]
    simp only [store, hnode]
    exact Files.node?_put_self ..

theorem holds_of_full {p : Path} (hchannel : out.channel = .path p)
    (hnode : out.files.node? p = some .full) (hzero : trips.length = 0) : out.Holds (audioOf trips) := by
  refine ⟨?_, ?_, ?_, ?_⟩
  · intro hstandard
    rw [hchannel] at hstandard
    cases hstandard
  · intro hstandard
    rw [hchannel] at hstandard
    cases hstandard
  · intro q hq hregular
    rw [hchannel] at hq
    cases hq
    rw [hnode] at hregular
    cases hregular
  · intro _
    rw [List.eq_nil_of_length_eq_zero hzero]
    rfl

/-- Whatever the output is, the device has received the same and the same is counted, and a run that exits
with zero has its audio in the output. -/
theorem accounted (h : intake.Passes trips stop s') :
    out.report.lines = s'.close.2.toList ∧
      out.report.notices.filterMap Notice.counts? = [s'.stats] ∧
      (out.report.exitCode = 0 → stop = .through ∧ out.Holds (audioOf trips)) := by
  have hopening : (intake.opening out.name).filterMap Notice.counts? = [] := rfl
  have hlast := (intake.notice_last stop).1
  have hcounts : [Notice.finished, .counts s'.stats].filterMap Notice.counts? = [s'.stats] := rfl
  rcases openOutput_cases out.opened with ⟨hroom, hempty, hnotFull⟩ | ⟨p, hchannel, hnode, hcramped⟩
  · obtain ⟨early, late, -, hreport⟩ := out.report_of_room h hroom hempty
    have hholds := out.holds_of_room h hroom hempty fun ⟨p, hp, hnode⟩ => hnotFull p hp hnode
    refine ⟨by rw [hreport], ?_, fun hexit => ⟨?_, hholds⟩⟩
    · rw [hreport]
      simp only [List.filterMap_append, hopening, counts_interspersed, hlast, hcounts, counts_aborting]
      rfl
    · rw [hreport] at hexit
      exact Stop.eq_through (exitCode_eq_zero.mp hexit)
  · have hreport := out.report_of_full h hcramped hchannel
    refine ⟨by rw [hreport], ?_, fun hexit => ?_⟩
    · rw [hreport]
      simp only [List.filterMap_append, hopening, hlast, hcounts, counts_aborting,
        List.filterMap_replicate_of_none (show Notice.counts? (.writingFailed _) = none from rfl)]
      rfl
    · rw [hreport] at hexit
      obtain ⟨hzero, hthrough⟩ := out.fullFault?_eq_none.mp (exitCode_eq_zero.mp hexit)
      exact ⟨Stop.eq_through hthrough, out.holds_of_full hchannel hnode hzero⟩

end Outlet

/-- **No output is lost silently.** The blocks come through the codec as far as they do, whatever the output
is. The device receives the same, and the same is counted; of every decoded block there are 320 bytes of audio.
A run that exits with zero has taken all its blocks through the codec, and has all of their audio in its
output, in order.

If there is never room in the output, every block from the twenty-sixth on is told to be lost. A single block
that was decoded is enough for the run to fail, and what it fails for is the output, even if a frame failed
as well. -/
theorem Intake.output_accounted {w : World} (intake : Intake w) :
    (∃ trips stop s', intake.Passes trips stop s') ∧
    ∀ {trips stop s'}, intake.Passes trips stop s' →
      s'.stats.framesDecoded = trips.length ∧
      (audioOf trips).length = 320 * s'.stats.framesDecoded ∧
      (∀ out : Outlet intake,
        out.report.lines = s'.close.2.toList ∧
        out.report.notices.filterMap Notice.counts? = [s'.stats] ∧
        (out.report.exitCode = 0 → stop = .through ∧ out.Holds (audioOf trips))) ∧
      ∀ out : Outlet intake, out.IsFull →
        out.report.notices =
          intake.opening out.name ++
            List.replicate (trips.length - 25) (.writingFailed FileProblem.noRoom.text) ++
            [stop.notice intake.last, .finished, .counts s'.stats] ++
            (out.fullFault? trips.length stop).toList.map .aborting ∧
        (out.report.exitCode = 0 ↔ trips.length = 0 ∧ stop.fault? = none) ∧
        (0 < trips.length →
          out.report.notices.getLast? = some (.aborting (.file out.name FileProblem.noRoom.text))) := by
  refine ⟨⟨_, _, _, .of_travel rfl⟩, fun {trips stop s'} h => ?_⟩
  have hframes := Passage.framesDecoded h
  rw [intake.stats_session] at hframes
  have hframes : s'.stats.framesDecoded = trips.length := hframes.trans (Nat.zero_add _)
  refine ⟨hframes, ?_, fun out => out.accounted h, fun out hfull => ?_⟩
  · rw [hframes, length_audioOf]
    rfl
  · rcases openOutput_cases out.opened with ⟨-, -, hnotFull⟩ | ⟨p, hchannel, hnode, hcramped⟩
    · -- a full device is never opened with room
      obtain ⟨p, hp, hnode⟩ := hfull
      exact absurd hnode (hnotFull p hp)
    · have hreport := out.report_of_full h hcramped hchannel
      refine ⟨?_, ?_, fun hpos => ?_⟩
      · rw [hreport]
        simp only [List.append_assoc, List.cons_append, List.nil_append]
      · rw [hreport]
        exact exitCode_eq_zero.trans out.fullFault?_eq_none
      · rw [hreport, Outlet.fullFault?, if_neg (Nat.ne_of_gt hpos)]
        exact List.getLast?_concat

/-- Two blocks for a vocoder that does not answer the last frame. -/
def silentIntake : Intake twoBlocks where
  options := silentLaunch.options
  plan := silentLaunch.plan
  input := silentLaunch.input
  supply := .finite silentLaunch.bytes
  device := silentLaunch.device
  planned := silentLaunch.planned
  inputOpened := silentLaunch.inputOpened
  supplied := silentLaunch.supplied
  addressed := silentLaunch.addressed
  identified := silentLaunch.identified

def fileOutlet : Outlet silentIntake where
  name := "out.raw"
  args := toFile
  channel := silentLaunch.channel
  sink := silentLaunch.sink
  files := silentLaunch.files
  parsed := silentLaunch.parsed
  opened := silentLaunch.outputOpened
  apart := silentLaunch.apart

def fullOutlet : Outlet silentIntake where
  name := "/dev/full"
  args := ["-i", "-", "-o", "/dev/full", "-D", "10.0.0.2:2345", "-f", "6", "-g", "2.0"]
  channel := .path (.fromRoot ["dev", "full"])
  sink := { hasRoom := false }
  files := twoBlocks.files
  parsed := by decide +kernel
  opened := by decide +kernel
  apart := by decide

/-- One block comes through, and the next one fails. On the full device it is the output that the run fails
for, and the vocoder has heard the same. -/
theorem Intake.output_accounted_silentIntake :
    fullOutlet.report.notices.getLast? =
        some (.aborting (.file "/dev/full" "No space left on device (os error 28)")) ∧
      fullOutlet.report.exitCode ≠ 0 ∧
      fullOutlet.report.lines = fileOutlet.report.lines ∧
      fullOutlet.report.notices.filterMap Notice.counts? =
        fileOutlet.report.notices.filterMap Notice.counts? := by
  have hblocks : silentIntake.blocks = List.replicate 2 (.fill 0x0201) := by
    show (blocksOf (steady 320 ++ [3, 4, 5])).1 = _
    rw [(blocksOf_eq _).1]
    decide +kernel
  have hpasses : silentIntake.Passes (travel .r2450 3 silentIntake.session silentIntake.blocks).1 _ _ :=
    Passage.of_travel rfl
  have hone : (travel .r2450 3 silentIntake.session silentIntake.blocks).1.length = 1 := by
    rw [hblocks]
    decide +kernel
  obtain ⟨-, hall⟩ := output_accounted silentIntake
  have hfull : fullOutlet.IsFull := ⟨_, rfl, by decide +kernel⟩
  obtain ⟨-, -, hevery, hoverflow⟩ := hall hpasses
  obtain ⟨hlines, hcounts, -⟩ := hevery fullOutlet
  obtain ⟨hlines', hcounts', -⟩ := hevery fileOutlet
  obtain ⟨-, hexit, hlast⟩ := hoverflow fullOutlet hfull
  rw [hone] at hexit hlast
  exact ⟨hlast Nat.zero_lt_one, fun h => absurd (hexit.mp h).1 (by decide), hlines.trans hlines'.symm,
    hcounts.trans hcounts'.symm⟩

end LoopTest

end Vocoder
