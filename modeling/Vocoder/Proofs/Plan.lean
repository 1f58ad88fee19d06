import Mathlib
import Vocoder.Proofs.Interlude

/-!
# The plan of a session

Under the policy `always` a session writes what its calls ask for, and what it hears changes nothing
about that. `Plan` computes the packets from the calls alone: a rate is asked for when a call brings
another rate than the call before it, gains when a call brings another gain than the last call of its
direction, and then the frame goes out.

* `Turn` — a call for a frame, and what happens on the port before it.
* `Plan.Follows` — a session has done what a plan says so far; `Plan.Follows.step` carries it through one
  call.
* `Attached.run_eq_plan` — so a whole run follows the plan of its calls, and two runs of the same calls
  write the same, over ports of any kind.
-/

namespace Vocoder

open Workbench (Outcome)

/-! ## Turns -/

variable {L : Type} [Port L] [Recording L]

/-- Something happens on the port, and then a frame is called for, with room enough for it. -/
structure Turn (L : Type) [Port L] [Recording L] where
  interlude : Interlude L
  call : FrameCall
  fits : call.Fits

namespace Turn

def step (s : Session L) (t : Turn L) : Outcome × Session L :=
  t.call.run (s.interrupt t.interlude)

/-- Carry out turns, with the session after each of them. -/
def run (s : Session L) : List (Turn L) → List (Outcome × Session L)
  | [] => []
  | t :: later =>
    let next := t.step s
    next :: run next.2 later

end Turn

/-! ## The plan -/

/-- What calls ask for: the rate of the last one, the last gain of each direction, how often these
changed, and the packets in their order. -/
structure Plan where
  rate : Rate := .none
  gainIn : Int := 0
  gainOut : Int := 0
  rateChanges : Nat := 0
  gainChanges : Nat := 0
  packets : List (List UInt8) := []

namespace Plan

def gain (p : Plan) : Direction → Int
  | .input => p.gainIn
  | .output => p.gainOut

def withGain (p : Plan) : Direction → Int → Plan
  | .input, g => { p with gainIn := g }
  | .output, g => { p with gainOut := g }

/-- The request for the gains of both directions: the signed bytes of the clamped gains, input first. -/
def gainPacket (p : Plan) : List UInt8 :=
  packet controlType
    [gainSubtype, byteOfValue (clampGain p.gainIn), byteOfValue (clampGain p.gainOut)]

/-- Come to a rate. The rate `none` is come to without a request. -/
def toRate (p : Plan) (rate : Rate) : Plan :=
  if rate = p.rate then p
  else
    match rate.request? with
    | none => { p with rate := rate }
    | some request =>
      { p with
        rate := rate
        rateChanges := p.rateChanges + 1
        packets := p.packets ++ [request] }

/-- Come to a gain in one direction. -/
def toGain (p : Plan) (d : Direction) (gain : Int) : Plan :=
  if gain = p.gain d then p
  else
    let q := p.withGain d gain
    { q with gainChanges := p.gainChanges + 1, packets := p.packets ++ [q.gainPacket] }

def frame (p : Plan) (f : FrameCall) : Plan :=
  let q := (p.toRate f.rate).toGain f.direction f.gain
  { q with packets := q.packets ++ [f.packet] }

/-- The plan after each of some calls. -/
def each (p : Plan) : List FrameCall → List Plan
  | [] => []
  | f :: later => p.frame f :: (p.frame f).each later

/-- The settings that a plan ends with. -/
def settings (p : Plan) : Settings :=
  { rate := p.rate, gainIn := p.gainIn, gainOut := p.gainOut }

theorem toRate_eq (p : Plan) (rate : Rate) :
    (p.toRate rate).settings = p.settings.withRate rate ∧
      (p.toRate rate).packets = p.packets ++ p.settings.rateStep rate ∧
      (p.toRate rate).rateChanges = p.rateChanges + (p.settings.rateStep rate).length ∧
      (p.toRate rate).gainChanges = p.gainChanges := by
  rw [toRate, Settings.rateStep]
  by_cases hsame : rate = p.rate
  · rw [if_pos hsame, if_pos (show rate = p.settings.rate from hsame)]
    exact ⟨(Settings.withRate_self hsame).symm, (List.append_nil _).symm, rfl, rfl⟩
  · rw [if_neg hsame, if_neg (show ¬ rate = p.settings.rate from hsame)]
    cases rate.request? with
    | none => exact ⟨rfl, (List.append_nil _).symm, rfl, rfl⟩
    | some request => exact ⟨rfl, rfl, rfl, rfl⟩

theorem toGain_eq (p : Plan) (d : Direction) (gain : Int) :
    (p.toGain d gain).settings = p.settings.withGain d gain ∧
      (p.toGain d gain).packets = p.packets ++ p.settings.gainStep d gain ∧
      (p.toGain d gain).rateChanges = p.rateChanges ∧
      (p.toGain d gain).gainChanges = p.gainChanges + (p.settings.gainStep d gain).length := by
  have hgain : p.settings.gain d = p.gain d := by cases d <;> rfl
  rw [toGain, Settings.gainStep, hgain]
  by_cases hsame : gain = p.gain d
  · rw [if_pos hsame, if_pos hsame]
    refine ⟨(Settings.withGain_self (hsame.trans hgain.symm)).symm, (List.append_nil _).symm, rfl, rfl⟩
  · rw [if_neg hsame, if_neg hsame]
    rw [gainRequest_clamped]
    cases d with
    | input => exact ⟨rfl, rfl, rfl, rfl⟩
    | output => exact ⟨rfl, rfl, rfl, rfl⟩

/-! ## Sessions that follow a plan -/

/-- The session `s` has done what a plan says since it was `s₀`. -/
structure Follows (s₀ s : Session L) (p : Plan) : Prop where
  ready : s.Ready
  always : s.config.cachePolicy = .always
  taken : s.taken = s₀.taken ++ p.packets
  settings : s.settings = p.settings
  rates : s.stats.rateRequests = p.rateChanges
  gains : s.stats.gainRequests = p.gainChanges

/-- One turn follows the plan for its call: whatever fails, the policy lets it go on to the frame. -/
theorem Follows.step {s₀ s : Session L} {p : Plan} (h : Follows s₀ s p) (t : Turn L) :
    Follows s₀ (t.step s).2 (p.frame t.call) ∧
      ∀ e, (t.step s).1.fault? = some e → ¬ e.IsReconfiguration := by
  have hi := Session.wrote_interrupt h.ready t.interlude
  have hpolicy : ¬ (s.interrupt t.interlude).config.cachePolicy = .onSuccess := by
    rw [hi.config, h.always]
    decide
  have hcourse := t.call.course hi.ready
  rw [Turn.step]
  generalize (t.call.run (s.interrupt t.interlude)).1 = o at hcourse ⊢
  generalize (t.call.run (s.interrupt t.interlude)).2 = s' at hcourse ⊢
  -- the call fits and the policy gives nothing up, so one course is left
  cases hcourse with
  | tooSmall hfits => exact absurd t.fits hfits
  | rateGivenUp honSuccess => exact absurd honSuccess hpolicy
  | gainGivenUp honSuccess => exact absurd honSuccess hpolicy
  | sent hfits hw ht hfault =>
    have ht₀ : (s.interrupt t.interlude).settings = p.settings := h.settings
    obtain ⟨hrate, hratePackets, hrateCount, hgainSame⟩ := p.toRate_eq t.call.rate
    obtain ⟨hgain, hgainPackets, hrateSame, hgainCount⟩ :=
      (p.toRate t.call.rate).toGain_eq t.call.direction t.call.gain
    -- the rate does not matter to what is written for the gain
    rw [hrate, Settings.gainStep_withRate] at hgainPackets hgainCount
    have hw := hi.trans hw
    rw [ht₀] at hw ht
    refine ⟨⟨hw.ready, ?_, ?_, ?_, ?_, ?_⟩, hfault⟩
    · rw [hw.config]
      exact h.always
    · rw [hw.taken, h.taken, Plan.frame, hgainPackets, hratePackets]
      simp only [List.nil_append, List.append_assoc]
    · rw [ht, ← hrate]
      exact hgain.symm
    · rw [hw.rates, h.rates, Plan.frame, hrateSame, hrateCount, Nat.zero_add]
    · rw [hw.gains, h.gains, Plan.frame, hgainCount, hgainSame, Nat.zero_add]

/-- A run follows the plan of its calls. Induction on the turns. -/
theorem Follows.run {s₀ s : Session L} {p : Plan} (h : Follows s₀ s p) (turns : List (Turn L)) :
    (Turn.run s turns).map
        (fun r => (r.2.taken, r.2.settings, r.2.stats.rateRequests, r.2.stats.gainRequests)) =
      (p.each (turns.map Turn.call)).map
        (fun q => (s₀.taken ++ q.packets, q.settings, q.rateChanges, q.gainChanges)) ∧
      ∀ r ∈ Turn.run s turns, ∀ e, r.1.fault? = some e → ¬ e.IsReconfiguration := by
  induction turns generalizing s p with
  | nil => exact ⟨rfl, fun r hr => by cases hr⟩
  | cons t later ih =>
    obtain ⟨h', hfault⟩ := h.step t
    obtain ⟨hlater, hlaterFault⟩ := ih h'
    constructor
    · rw [Turn.run, List.map_cons, List.map_cons, Plan.each, List.map_cons, hlater, h'.taken,
        h'.settings, h'.rates, h'.gains]
    · intro r hr
      rcases List.mem_cons.mp hr with rfl | hr
      · exact hfault
      · exact hlaterFault r hr

end Plan

/-! ## Runs of an attached session -/

/-- A session of the policy `always` that was attached to a port that takes requests. -/
structure Attached (L : Type) [Port L] [Recording L] where
  before : Session L
  line : L
  always : before.config.cachePolicy = .always
  accepts : Recording.Accepts line
  opened : (before.attach line).1 = .ok ()

namespace Attached

def session (a : Attached L) : Session L :=
  (a.before.attach a.line).2.1

theorem follows (a : Attached L) : Plan.Follows a.session a.session {} := by
  have hattach : a.before.attach a.line = (.ok (), a.session, (a.before.attach a.line).2.2) :=
    Prod.ext a.opened rfl
  obtain ⟨hready, hconfig, -, hsettings, hstats⟩ := Session.attach_spec a.accepts hattach
  refine ⟨hready, ?_, (List.append_nil _).symm, hsettings, ?_, ?_⟩
  · rw [hconfig]
    exact a.always
  · rw [hstats]
  · rw [hstats]

/-- What the port took since the session was attached, after each of some turns. -/
def written (a : Attached L) (turns : List (Turn L)) : List (List (List UInt8)) :=
  (Turn.run a.session turns).map fun r => r.2.taken.drop a.session.taken.length

theorem written_eq (a : Attached L) (turns : List (Turn L)) :
    a.written turns = (Plan.each {} (turns.map Turn.call)).map Plan.packets := by
  -- both sides begin with what was taken up to the attach, which is dropped
  have htaken := congrArg (List.map fun v => v.1.drop a.session.taken.length) (a.follows.run turns).1
  rw [List.map_map, List.map_map] at htaken
  simp only [Function.comp_def, List.drop_left] at htaken
  exact htaken

/-- **What a session writes does not depend on what it hears.** After every turn the packets written, the
settings believed and the requests counted are those of the plan of the calls alone, and no call gives up
a change. So two attached sessions that get the same calls write the same packets, whatever their ports
and whatever happens there. -/
theorem run_eq_plan (a : Attached L) (turns : List (Turn L)) :
    (Turn.run a.session turns).map
        (fun r => (r.2.taken, r.2.settings, r.2.stats.rateRequests, r.2.stats.gainRequests)) =
      (Plan.each {} (turns.map Turn.call)).map
        (fun p => (a.session.taken ++ p.packets, p.settings, p.rateChanges, p.gainChanges)) ∧
    (∀ r ∈ Turn.run a.session turns, ∀ e, r.1.fault? = some e → ¬ e.IsReconfiguration) ∧
    ∀ {M : Type} [Port M] [Recording M] (b : Attached M) (others : List (Turn M)),
      others.map Turn.call = turns.map Turn.call → b.written others = a.written turns := by
  refine ⟨(a.follows.run turns).1, (a.follows.run turns).2, ?_⟩
  intro M _ _ b others hcalls
  rw [b.written_eq, a.written_eq, hcalls]

/-- A session on a bench line that answers the identification. -/
def ofProduct : Attached BenchLine where
  before := {}
  line := { replies := [[0x61, 0x00, 0x02, 0x00, 0x30, 0x41]] }
  always := rfl
  accepts := ⟨rfl, rfl⟩
  opened := by cbv

/-- Three frames, the last two with gains of their own; before each of them steps on the line. -/
def threeTurns (i₁ i₂ i₃ : Interlude BenchLine) : List (Turn BenchLine) :=
  [ { interlude := i₁
      call := .encode (AudioBlock.fill 0) (List.replicate 7 0) .r2450 0
      fits := by decide },
    { interlude := i₂
      call := .decode (List.replicate 7 0x61) (AudioBlock.fill 0) .r2450 200
      fits := by decide },
    { interlude := i₃
      call := .encode (AudioBlock.fill 0) (List.replicate 7 0) .r2450 (-3)
      fits := by decide } ]

/-- One line acknowledges the rate; on the other one reads fail, writes are cut short, and at last
preparing fails. An output gain of 200 goes out as 90, and with it an input gain of 0, then of -3. -/
theorem run_eq_plan_ofProduct :
    let heard := threeTurns (.ofBench [.reply [0x61, 0x00, 0x02, 0x00, 0x0a, 0x00]] (by decide))
      (.ofBench [.readChunk 1, .inject [0x61, 0x61]] (by decide)) (.ofBench [] (by decide))
    let unheard := threeTurns (.ofBench [.failReads true] (by decide))
      (.ofBench [.acceptLimit (some 3)] (by decide)) (.ofBench [.failPrepare true] (by decide))
    unheard.map Turn.call = heard.map Turn.call ∧
      ofProduct.written unheard = ofProduct.written heard ∧
      (ofProduct.written unheard).map (·.filter (Response.classify · = .gain)) =
        [ [], [[0x61, 0x00, 0x03, 0x00, 0x4b, 0x00, 0x5a]],
          [[0x61, 0x00, 0x03, 0x00, 0x4b, 0x00, 0x5a], [0x61, 0x00, 0x03, 0x00, 0x4b, 0xfd, 0x5a]] ] ∧
      (Plan.each {} (heard.map Turn.call)).map
        (fun p => (p.packets.length, p.rateChanges, p.gainChanges)) =
        [(2, 1, 0), (4, 1, 1), (6, 1, 2)] := by
  refine ⟨rfl, (ofProduct.run_eq_plan _).2.2 ofProduct _ rfl, ?_, by decide +kernel⟩
  rw [written_eq]
  decide +kernel

end Attached

end Vocoder
