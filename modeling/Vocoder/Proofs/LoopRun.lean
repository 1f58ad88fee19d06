import Mathlib
import Vocoder.LoopTest.Program
import Vocoder.Proofs.Traffic

/-!
# Runs of the loop test

A run that comes to a session with a scripted device is settled by the passage of its blocks: what the device
received, what is in the output, what the user is told and how the program exits.

* **`Launch`** — what a run must find to come that far.
* **`openOutput_spec`**, **`supplyAt_of_openOutput`** — an output starts empty, and leaves the input alone.
* **`conclude_of_room`** — the end of a run, for an output with room.
* **`run_of_launch`** — the whole run.
-/

namespace Vocoder

/-! ## Letting go of a line -/

namespace Link

theorem isClosed_close (l : Link) : (Port.close l).isClosed = true := by
  cases l <;> rfl

theorem requests?_close (l : Link) : (Port.close l).requests? = l.requests? := by
  cases l <;> rfl

end Link

namespace LoopTest

/-! ## Files -/

namespace Files

variable {f f' : Files} {p q : Path} {n : Node} {name : String}

theorem supplyAt_put_other (hother : q ≠ p) {supply : Supply} (h : f.supplyAt q = .ok supply) :
    (f.put p n).supplyAt q = .ok supply := by
  unfold supplyAt node? at h
  have hlookup : (f.put p n).nodes.lookup q = f.nodes.lookup q := by
    show List.lookup q ((p, n) :: f.nodes) = _
    rw [List.lookup_cons, beq_false_of_ne hother]
  unfold supplyAt node?
  rw [hlookup]
  cases hnode : f.nodes.lookup q with
  | some m =>
    rw [hnode] at h
    exact h
  | none =>
    -- only a directory is there without being put there, and it gives nothing
    rw [hnode] at h
    cases hthere : q.steps.isEmpty || f.nodes.any (·.1.isBelow q)
    all_goals
      rw [hthere] at h
      cases h

/-- Creating a file makes it empty; a device stays as it is. -/
theorem create_cases (h : f.create name = .ok (p, n, f')) :
    (n = .regular [] ∧ f' = f.put p n) ∨ (f.node? p = some n ∧ f' = f) := by
  unfold create at h
  split at h
  · cases h
  · split at h
    · split at h
      · cases h
        exact .inl ⟨rfl, rfl⟩
      · cases h
    · cases h
      exact .inl ⟨rfl, rfl⟩
    · cases h
    · cases h
    · rename_i hnode
      cases h
      exact .inr ⟨hnode, rfl⟩

theorem node?_of_create (h : f.create name = .ok (p, n, f')) : f'.node? p = some n := by
  rcases create_cases h with ⟨-, rfl⟩ | ⟨hnode, rfl⟩
  · exact node?_put_self ..
  · exact hnode

theorem supplyAt_of_create (h : f.create name = .ok (p, n, f')) (hother : n = .regular [] → q ≠ p)
    {supply : Supply} (hsupply : f.supplyAt q = .ok supply) : f'.supplyAt q = .ok supply := by
  rcases create_cases h with ⟨hregular, rfl⟩ | ⟨-, rfl⟩
  · exact supplyAt_put_other (hother hregular) hsupply
  · exact hsupply

end Files

/-! ## Outputs -/

section Output

variable {files files' : Files} {name : String} {channel : Channel} {k : Sink}

/-- An output starts empty, and there is room for it if it is the standard output or a regular file. -/
theorem openOutput_spec (h : openOutput files name = .ok (channel, k, files'))
    (hregular : ∀ p, channel = .path p → files'.node? p = some (.regular [])) :
    k.hasRoom = true ∧ k.accepted = [] := by
  unfold openOutput at h
  split at h
  · cases h
    exact ⟨rfl, rfl⟩
  · split at h
    · cases h
    · cases h
      exact ⟨rfl, rfl⟩
    · cases h
      exact ⟨rfl, rfl⟩
    · rename_i p n _ _ _ hcreate
      cases h
      have hnode := Files.node?_of_create hcreate
      rw [hregular p rfl] at hnode
      cases hnode
      exact ⟨rfl, rfl⟩

/-- What can be read from another file is the same after an output was opened. -/
theorem supplyAt_of_openOutput (h : openOutput files name = .ok (channel, k, files')) {input : Path}
    (hother : channel ≠ .path input) {supply : Supply} (hsupply : files.supplyAt input = .ok supply) :
    files'.supplyAt input = .ok supply := by
  unfold openOutput at h
  split at h
  · cases h
    exact hsupply
  · split at h
    · cases h
    · rename_i hcreate
      cases h
      exact Files.supplyAt_of_create hcreate (fun hdevice => by cases hdevice) hsupply
    · rename_i hcreate
      cases h
      exact Files.supplyAt_of_create hcreate (fun hdevice => by cases hdevice) hsupply
    · rename_i hcreate
      cases h
      exact Files.supplyAt_of_create hcreate (fun _ hsame => hother (hsame ▸ rfl)) hsupply

theorem Sink.flush_all (hroom : k.hasRoom = true) :
    ∃ k', k.flush = (.ok (), k') ∧ k'.passed = k.accepted := by
  obtain ⟨k', hflush, -⟩ := flush_of_room hroom
  refine ⟨k', hflush, ?_⟩
  rw [← accepted_flush, hflush, accepted, held_flush hflush, List.append_nil]

/-- The audio in an output, if it keeps any. -/
def Report.output? (r : Report) : Channel → Option (List UInt8)
  | .standardOutput => some r.stdout
  | .standardError => none
  | .path p =>
    match r.files.node? p with
    | some (.regular bytes) => some bytes
    | _ => none

end Output

theorem conclude_of_room {o : Options} {files : Files} {channel : Channel} {before : List Notice}
    {p : Processed Link} {l : Link} (hroom : p.sink.hasRoom = true) (hchannel : channel ≠ .standardError)
    (hline : p.session.line = some l) :
    conclude o files channel before p =
      { exitCode := if p.failure.isSome then 1 else 0
        stdout := printed p.sink.accepted channel
        notices :=
          before ++ p.notices ++ [.finished, .counts p.session.stats] ++ p.failure.toList.map .aborting
        files := store files p.sink.accepted channel
        lines := [Port.close l] } := by
  obtain ⟨k, hflush, hpassed⟩ := p.sink.flush_all hroom
  have hquiet : ∀ bytes, interspersed bytes channel = [] := fun bytes => by
    cases channel with
    | standardError => exact (hchannel rfl).elim
    | standardOutput | path => rfl
  have hclosed : p.session.close.2 = some (Port.close l) := by
    show p.session.line.map _ = _
    rw [hline]
    rfl
  unfold conclude
  rw [hflush]
  simp only [finalFault?, hpassed, hquiet, List.append_nil, hclosed, Option.toList_some]
  rfl

/-! ## Launches -/

/-- What a run finds that comes to a session with a scripted device: arguments that make sense, an input that
ends, an output that is not the input, and a device that lets itself be identified. The policy is `always`, as
it is without a configuration. -/
structure Launch (w : World) (args : List String) where
  options : Options
  plan : Plan
  input : Path
  bytes : List UInt8
  channel : Channel
  sink : Sink
  /-- The files once the output is open. -/
  files : Files
  device : Link
  /-- What the device received before. -/
  before : List (List UInt8)
  parsed : CommandLine.parse args = .ok options
  planned : planOf w options = .ok plan
  policy : plan.session.cachePolicy = .always
  inputOpened : openInput (afterConfig w.files options) options.input = .ok input
  supplied : (afterConfig w.files options).supplyAt input = .ok (.finite bytes)
  outputOpened :
    openOutput (afterConfig w.files options) options.output = .ok (channel, sink, files)
  empty : channel = .standardOutput ∨ ∃ p, channel = .path p ∧ files.node? p = some (.regular [])
  apart : channel ≠ .path input
  addressed : Link.ofAddress w.host plan.address plan.speed = .ok device
  rests : device.Rests
  received : device.requests? = some before
  identified : (({ config := plan.session } : Session Link).openLine (.ok device)).1 = .ok ()

namespace Launch

variable {w : World} {args : List String} (launch : Launch w args)

def session : Session Link :=
  (({ config := launch.plan.session } : Session Link).openLine (.ok launch.device)).2.1

def rate : Rate :=
  launch.options.format

def gain : Int :=
  Decibel.ofLinear launch.options.gain w.logarithm

/-- The whole chunks of the input. -/
def chunks : List (List UInt8) :=
  chunksOf launch.bytes

def blocks : List AudioBlock :=
  (blocksOf launch.bytes).1

def rest : List UInt8 :=
  (blocksOf launch.bytes).2

/-- What is to be said of a run whose blocks came as far as this. -/
structure Reported (trips : List Trip) (stop : Stop) (r : Report) : Prop where
  through :
    if stop.fault?.isSome then trips.length < launch.blocks.length
    else trips.length = launch.blocks.length
  /-- The device was asked for its name, and then received the frames of the chunks that were tried. -/
  received : ∃ l, r.lines = [l] ∧ l.isClosed = true ∧
    l.requests? = some (launch.before ++ productQuery ::
      ((launch.chunks.zip (stop.frames trips)).mapIdx fun i x =>
        blockRequests launch.rate launch.gain i (audioRequest x.1) x.2).flatten)
  /-- The output is the audio of the blocks that came through. -/
  output : r.output? launch.channel = some (audioOf trips)
  width : (audioOf trips).length = blockBytes * trips.length
  stdout : r.stdout = printed (audioOf trips) launch.channel
  notices : r.notices =
    [.openedInput launch.options.input, .openedOutput launch.options.output,
      .openedDevice launch.plan.address, .started,
      stop.notice (if launch.rest.isEmpty then .inputEnded else .incompleteBlock),
      .finished, .counts (tally launch.rate launch.gain launch.blocks trips stop)] ++
    stop.fault?.toList.map .aborting
  exitCode : r.exitCode = if stop.fault?.isSome then 1 else 0

theorem plan_eq : launch.plan.rate = launch.rate ∧ launch.plan.gain = launch.gain := by
  have hplanned := launch.planned
  unfold planOf at hplanned
  split at hplanned
  · cases hplanned
  · dsimp only at hplanned
    split at hplanned
    · cases hplanned
    · rw [← Except.ok.inj hplanned]
      exact ⟨rfl, rfl⟩

theorem channel_ne : launch.channel ≠ .standardError := by
  rcases launch.empty with hstandard | ⟨p, hpath, -⟩
  · rw [hstandard]
    exact Channel.noConfusion
  · rw [hpath]
    exact Channel.noConfusion

theorem sink_spec : launch.sink.hasRoom = true ∧ launch.sink.accepted = [] := by
  apply openOutput_spec launch.outputOpened
  intro p hp
  rcases launch.empty with hstandard | ⟨q, hpath, hnode⟩
  · rw [hstandard] at hp
    cases hp
  · rw [hpath] at hp
    cases hp
    exact hnode

theorem standing : launch.session.Standing (launch.before ++ [productQuery]) {} {} := by
  obtain ⟨hheard, hconfig, hsettings, hstats⟩ :=
    Session.openLine_heard launch.rests launch.received launch.identified
  refine ⟨hheard, ?_, hsettings, hstats⟩
  show launch.session.config.cachePolicy = _
  rw [show launch.session.config = launch.plan.session from hconfig, launch.policy]

theorem chunks_eq : launch.blocks.map (fun b => b.samples.flatMap lowFirst) = launch.chunks := by
  rw [blocks, (blocksOf_eq launch.bytes).1, List.map_map]
  conv_rhs => rw [chunks, ← List.map_id (chunksOf launch.bytes)]
  exact List.map_congr_left fun _ h => flatMap_lowFirst_blockOf (length_of_mem_chunksOf h)

/-- The run comes to the blocks. -/
theorem run_eq :
    run w args =
      conclude launch.options launch.files launch.channel
        [.openedInput launch.options.input, .openedOutput launch.options.output,
          .openedDevice launch.plan.address, .started]
        (process launch.rate launch.gain
          (if launch.rest.isEmpty then .inputEnded else .incompleteBlock) launch.session launch.sink
          launch.blocks) := by
  obtain ⟨released, hopened⟩ : ∃ released,
      ({ config := launch.plan.session } : Session Link).openLine (.ok launch.device) =
        (.ok (), launch.session, released) := ⟨_, Prod.ext launch.identified rfl⟩
  have hsupply := supplyAt_of_openOutput launch.outputOpened launch.apart launch.supplied
  obtain ⟨hrate, hgain⟩ := launch.plan_eq
  simp only [run, launch.parsed, runOptions, launch.planned, launch.inputOpened, launch.outputOpened,
    runOpened, launch.addressed, hopened, runSession, hsupply, processSupply, processBytes, hrate, hgain]
  rfl

theorem output_eq {r : Report} {audio : List UInt8} (hstdout : r.stdout = printed audio launch.channel)
    (hfiles : r.files = store launch.files audio launch.channel) :
    r.output? launch.channel = some audio := by
  rcases launch.empty with hstandard | ⟨p, hpath, hnode⟩
  · rw [hstandard] at hstdout ⊢
    exact congrArg some hstdout
  · rw [hpath] at hfiles ⊢
    have hstored : r.files.node? p = some (.regular audio) := by
      rw [hfiles, store, hnode]
      exact Files.node?_put_self ..
    rw [Report.output?, hstored]

end Launch

/-- **A run with a scripted device, from end to end.** The blocks are the whole chunks of the input, each of 160
samples with the low byte first, and they go through the codec in one way or another; whichever it is, it
settles what the device received, what is in the output, what the user is told and how the program exits. The
gain is that of the logarithm of the platform, and whatever this is, the factor one is no gain. -/
theorem run_of_launch {w : World} {args : List String} (launch : Launch w args) :
    launch.blocks.length = launch.bytes.length / blockBytes ∧
      launch.blocks.map (fun b => b.samples.flatMap lowFirst) = launch.chunks ∧
      launch.chunks.flatten ++ launch.rest = launch.bytes ∧
      (launch.options.gain = .one → launch.gain = 0) ∧
      (∃ trips stop s', Passage launch.rate launch.gain launch.session launch.blocks trips stop s') ∧
      ∀ trips stop s', Passage launch.rate launch.gain launch.session launch.blocks trips stop s' →
        launch.Reported trips stop (run w args) := by
  obtain ⟨hblocks, hbytes⟩ := blocksOf_eq launch.bytes
  refine ⟨?_, launch.chunks_eq, hbytes, ?_, ⟨_, _, _, .of_travel rfl⟩, fun trips stop s' hpassage => ?_⟩
  · rw [Launch.blocks, hblocks, List.length_map, length_chunksOf]
  · intro hone
    rw [Launch.gain, hone]
    exact Decibel.ofLinear_one w.logarithm
  obtain ⟨hroom, haccepted⟩ := launch.sink_spec
  obtain ⟨k, hprocess, hroom', haudio⟩ := process_of_passage hpassage
    (if launch.rest.isEmpty then .inputEnded else .incompleteBlock) hroom
  rw [haccepted, List.nil_append] at haudio
  obtain ⟨t, hstanding⟩ := hpassage.standing launch.standing rfl
  rw [Launch.blocks, requestsFrom_chunks, countsFrom_new, List.append_assoc] at hstanding
  obtain ⟨l, hline, -, hrequests⟩ := hstanding.heard
  have hrun := launch.run_eq
  rw [hprocess, conclude_of_room hroom' launch.channel_ne hline] at hrun
  dsimp only at hrun
  rw [haudio, hstanding.stats] at hrun
  exact
    { through := hpassage.length_trips
      received := by
        refine ⟨Port.close l, congrArg Report.lines hrun, l.isClosed_close, ?_⟩
        rw [l.requests?_close, hrequests]
        rfl
      output := launch.output_eq (congrArg Report.stdout hrun) (congrArg Report.files hrun)
      width := length_audioOf trips
      stdout := congrArg Report.stdout hrun
      notices := congrArg Report.notices hrun
      exitCode := congrArg Report.exitCode hrun }

/-- A vocoder that answers all frames of two blocks but the last. -/
def silentAtLast : Script where
  replies :=
    [ packet controlType [productSubtype, 0x41],
      packet controlType [rateSubtype, 0x00],
      packet voiceType [channelField, 49, 1, 2, 3, 4, 5, 6, 7],
      packet controlType [gainSubtype, 0x00],
      packet audioType (speechField :: 160 :: (List.replicate blockSamples [8, 9]).flatten),
      packet voiceType [channelField, 49, 7, 6, 5, 4, 3, 2, 1] ]

/-- So many samples of 0x0201, low byte first. -/
def steady (n : Nat) : List UInt8 :=
  (List.replicate n [1, 2]).flatten

/-- Two blocks on the standard input, and the beginning of a third. -/
def twoBlocks : World where
  files := Files.devices.put .standardInput (.stream (steady 320 ++ [3, 4, 5]))
  host := { server? := fun _ => some silentAtLast }

def toFile : List String :=
  ["-i", "-", "-o", "out.raw", "-D", "10.0.0.2:2345", "-f", "6", "-g", "2.0"]

def silentLaunch : Launch twoBlocks toFile where
  options :=
    { input := "-", output := "out.raw", device := some "10.0.0.2:2345", format := .r2450
      gain := .finite false 8388608 (-22) }
  plan :=
    { address := "10.0.0.2:2345", speed := .ofHalfSpeed false, session := {}, rate := .r2450, gain := 3 }
  input := .standardInput
  bytes := steady 320 ++ [3, 4, 5]
  channel := .path { steps := ["out.raw"] }
  sink := {}
  files := twoBlocks.files.put { steps := ["out.raw"] } (.regular [])
  device := .datagramDevice { script := silentAtLast }
  before := []
  parsed := by decide +kernel
  planned := by decide +kernel
  policy := rfl
  inputOpened := rfl
  supplied := by decide +kernel
  outputOpened := by decide +kernel
  empty := .inr ⟨_, rfl, Files.node?_put_self ..⟩
  apart := by decide
  addressed := by decide +kernel
  rests := trivial
  received := rfl
  identified := by decide +kernel

/-- The words of the input come out of it low byte first and go to the vocoder high byte first. The vocoder is
silent after the second voice frame, and only the first block is in the output. -/
theorem run_of_launch_silentLaunch :
    let block := AudioBlock.fill 0x0201
    let frame : List UInt8 := [1, 2, 3, 4, 5, 6, 7]
    let lost : List UInt8 := [7, 6, 5, 4, 3, 2, 1]
    let audio : List UInt8 := [0x61, 0x01, 0x42, 0x02, 0x00, 0xa0] ++ (List.replicate 160 [2, 1]).flatten
    (∃ s', Passage .r2450 3 silentLaunch.session [block, block]
        [⟨frame, .fill 0x0809⟩] (.decoding lost .noMessage) s') ∧
      (∃ l, (run twoBlocks toFile).lines = [l] ∧ l.requests? = some
        ([productQuery] ++ Rate.r2450.request?.toList ++
          [ audio, [0x61, 0x00, 0x03, 0x00, 0x4b, 0x00, 0x03],
            [0x61, 0x00, 0x09, 0x01, 0x01, 49] ++ frame, audio, [0x61, 0x00, 0x09, 0x01, 0x01, 49] ++ lost ])) ∧
      (run twoBlocks toFile).output? silentLaunch.channel =
        some (List.replicate 160 [9, 8]).flatten ∧
      (run twoBlocks toFile).exitCode = 1 := by
  intro block frame lost audio
  have hchunks : silentLaunch.chunks = [steady 160, steady 160] := by decide +kernel
  have hblocks : silentLaunch.blocks = [block, block] := by
    rw [Launch.blocks, (blocksOf_eq silentLaunch.bytes).1]
    decide +kernel
  have hgain : silentLaunch.gain = 3 := by decide +kernel
  have hpassage : Passage .r2450 3 silentLaunch.session [block, block]
      [⟨frame, .fill 0x0809⟩] (.decoding lost .noMessage)
      (travel .r2450 3 silentLaunch.session [block, block]).2.2 :=
    .of_travel (Prod.ext (by decide +kernel) (Prod.ext (by decide +kernel) rfl))
  obtain ⟨-, -, -, -, -, hreported⟩ := run_of_launch silentLaunch
  have hr := hreported _ _ _ (by
    rw [hgain, hblocks]
    exact hpassage)
  obtain ⟨l, hlines, -, hrequests⟩ := hr.received
  rw [hchunks, hgain] at hrequests
  refine ⟨⟨_, hpassage⟩, ⟨l, hlines, hrequests.trans ?_⟩, hr.output.trans ?_, hr.exitCode⟩
  · decide +kernel
  · decide +kernel

end LoopTest

end Vocoder
