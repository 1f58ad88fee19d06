import Mathlib
import Vocoder.Proofs.Acknowledged
import Vocoder.Proofs.Recording

/-!
# Frames that resume

Under the policy `onSuccess` a frame stops at the first request for settings that is not acknowledged.
What was acknowledged before it is believed, so the same call made again goes on with the request at
which it stopped.

* **`FrameCall.schedule`** — what a frame has to write when the chip is believed to be at some settings.
* **`Session.Adopting`** — the two ways to adopt a setting: its requests are granted, or one is refused.
* **`FrameCall.attempt`** — the three ways a frame call can go.
* **`FrameCall.Retried`** — the same call made again and again, the line changing in between.
* **`FrameCall.frame_resumes`** — what was granted so far and what the next attempt has to write are the
  schedule of the first attempt.
-/

namespace Vocoder

open Workbench (Outcome)

/-- The chip took a request for a setting: it answered by a packet of the same kind. -/
def Exchange.Granted (e : Exchange) : Prop :=
  e.answer? = some (Response.classify e.request)

instance : DecidablePred Exchange.Granted :=
  fun e => inferInstanceAs (Decidable (e.answer? = some (Response.classify e.request)))

/-- The counts that go up by frames and by nothing else. -/
def Stats.frames (c : Stats) : Nat × Nat × Nat :=
  (c.framesEncoded, c.framesDecoded, c.failedExchanges)

/-- What a frame has to write if the chip is believed to be at some settings: the request for its rate,
unless that is the rate already or `none`; the request for its gain, unless that is the gain already; and
the frame. -/
def FrameCall.schedule (f : FrameCall) (t : Settings) : List (List UInt8) :=
  t.rateStep f.rate ++ t.gainStep f.direction f.gain ++ [f.packet]

namespace Session

/-! ## Requests for settings count as no frames -/

section Frames

variable {L : Type} [Port L] (s : Session L)

theorem exchange_stats (request : List UInt8) (expected : Response) :
    (s.exchange request expected).2.stats = s.stats := by
  unfold exchange
  split
  · rfl
  · split
    · rfl
    · split <;> rfl

theorem requestRate_frames (rate : Rate) :
    (s.requestRate rate).2.stats.frames = s.stats.frames := by
  unfold requestRate
  split
  · rfl
  · rw [exchange_stats]
    rfl

theorem requestGain_frames (t : Settings) : (s.requestGain t).2.stats.frames = s.stats.frames := by
  unfold requestGain
  rw [exchange_stats]
  rfl

end Frames

/-! ## Adopting a setting -/

variable {L : Type} [Line L] {s s' s₁ : Session (Wiretap L)}

/-- What it comes to that the settings `t` are adopted, for which the requests `steps` are needed. -/
inductive Adopting (s : Session (Wiretap L)) (what : String) (kind : Response)
    (steps : List (List UInt8)) (t : Settings) : Except Fault Unit → Session (Wiretap L) → Prop where
  /-- The requests are granted, if there are any. -/
  | adopted (granted : List Exchange) {s' : Session (Wiretap L)}
    (hsteps : steps = granted.map Exchange.request) (hgranted : ∀ e ∈ granted, e.Granted)
    (hlogged : s.Logged s' granted.reverse) (hsettings : s'.settings = t)
    (hframes : s'.stats.frames = s.stats.frames) : Adopting s what kind steps t (.ok ()) s'
  /-- The request is not granted, for whatever reason, and the settings stay as they are. -/
  | refused {e : Exchange} {s' : Session (Wiretap L)}
    (hsteps : steps = [e.request]) (hkind : Response.classify e.request = kind)
    (hrefused : ¬ e.Granted) (hlogged : s.Logged s' [e])
    (hsettings : s'.settings = s.settings) (hframes : s'.stats.frames = s.stats.frames) :
    Adopting s what kind steps t (.error (.reconfigurationFailed what)) s'

omit [Line L] in
/-- One request was made for the settings; the policy decides on its answer. -/
theorem Adopting.of_request (hpolicy : s.config.cachePolicy = .onSuccess) {what : String} {kind : Response}
    {t : Settings} {e : Exchange} {x y : Except Fault Unit} (hkind : Response.classify e.request = kind)
    (hlogged : s.Logged s₁ [e]) (hsettings : s₁.settings = s.settings)
    (hframes : s₁.stats.frames = s.stats.frames) (hx : x = .ok () ↔ e.answer? = some kind)
    (hs : settle what t (x, s₁) = (y, s')) : s.Adopting what kind [e.request] t y s' := by
  rw [← hkind] at hx
  cases x with
  | ok _ =>
    cases hs
    refine .adopted [e] rfl ?_ ⟨hlogged.isOpen, hlogged.config, hlogged.log⟩ rfl hframes
    intro a ha
    rw [List.mem_singleton.mp ha]
    exact hx.mp rfl
  | error f =>
    rw [settle, hlogged.config, hpolicy] at hs
    cases hs
    exact .refused rfl hkind (fun he => nomatch hx.mpr he) hlogged hsettings hframes

theorem adoptRate_adopting (hpolicy : s.config.cachePolicy = .onSuccess) (h : s.isOpen = true)
    {rate : Rate} {x : Except Fault Unit} (hs : s.adoptRate rate = (x, s')) :
    s.Adopting "rate" .rate (s.settings.rateStep rate) (s.settings.withRate rate) x s' := by
  unfold adoptRate at hs
  unfold Settings.rateStep
  by_cases hsame : rate = s.settings.rate
  · rw [if_pos hsame] at hs ⊢
    cases hs
    exact .adopted [] rfl (by simp) (.refl h) (Settings.withRate_self hsame).symm rfl
  · rw [if_neg hsame] at hs ⊢
    rcases hrequest : s.requestRate rate with ⟨y, s₁⟩
    have hframes : s₁.stats.frames = s.stats.frames := by
      have := s.requestRate_frames rate
      rwa [hrequest] at this
    rw [hrequest] at hs
    rcases requestRate_logged h hrequest with ⟨hnone, rfl, rfl⟩ | ⟨e, he, hlogged, hsettings, hy⟩
    · -- the rate none is moved to without a request
      cases hs
      rw [hnone]
      exact .adopted [] rfl (by simp) ⟨h, rfl, rfl⟩ rfl rfl
    · rw [he]
      exact .of_request hpolicy (classify_rateRequest he) hlogged hsettings hframes hy hs

theorem adoptGain_adopting (hpolicy : s.config.cachePolicy = .onSuccess) (h : s.isOpen = true)
    {d : Direction} {gain : Int} {x : Except Fault Unit} (hs : s.adoptGain d gain = (x, s')) :
    s.Adopting "gain" .gain (s.settings.gainStep d gain) (s.settings.withGain d gain) x s' := by
  unfold adoptGain at hs
  unfold Settings.gainStep
  by_cases hsame : gain = s.settings.gain d
  · rw [if_pos hsame] at hs ⊢
    cases hs
    exact .adopted [] rfl (by simp) (.refl h) (Settings.withGain_self hsame).symm rfl
  · rw [if_neg hsame] at hs ⊢
    rcases hrequest : s.requestGain (s.settings.withGain d gain) with ⟨y, s₁⟩
    have hframes : s₁.stats.frames = s.stats.frames := by
      have := s.requestGain_frames (s.settings.withGain d gain)
      rwa [hrequest] at this
    rw [hrequest] at hs
    obtain ⟨e, he, hlogged, hsettings, hy⟩ := requestGain_logged h hrequest
    have hkind : Response.classify e.request = .gain := by
      rw [he]
      exact classify_gainRequest ..
    rw [← he]
    exact .of_request hpolicy hkind hlogged hsettings hframes hy hs

end Session

namespace FrameCall

variable {L : Type} [Line L] {f : FrameCall} {s s' : Session (Wiretap L)}

/-! ## One attempt -/

/-- What a frame call makes of its exchange. -/
def outcome (f : FrameCall) : Except Fault (List UInt8) → Outcome
  | .error e => f.failed e
  | .ok data => f.delivered data

section Stations

variable {M : Type} [Port M] {s s₁ s₂ : Session M}

theorem prepare_of_rate_error (hopen : s.isOpen = true) (hfits : f.Fits) {e : Fault}
    (h : s.adoptRate f.rate = (.error e, s₁)) : f.prepare s = (.error e, s₁) := by
  rw [prepare, Session.prepareFrame, if_pos hopen, if_neg (Nat.not_lt.mpr hfits), h]

theorem prepare_of_rate_ok (hopen : s.isOpen = true) (hfits : f.Fits)
    (h : s.adoptRate f.rate = (.ok (), s₁)) : f.prepare s = s₁.adoptGain f.direction f.gain := by
  rw [prepare, Session.prepareFrame, if_pos hopen, if_neg (Nat.not_lt.mpr hfits), h]

theorem run_of_prepare_error {e : Fault} (h : f.prepare s = (.error e, s₁)) :
    f.run s = (f.failed e, s₁) := by
  unfold prepare at h
  rw [f.run_eq, h]

theorem run_of_prepare_ok {x : Except Fault (List UInt8)} (h : f.prepare s = (.ok (), s₁))
    (hfetch : s₁.fetch f.packet f.response f.width = (x, s₂)) :
    f.run s = (f.outcome x, s₂.countFrame f.direction x) := by
  unfold prepare at h
  rw [f.run_eq, h]
  dsimp only
  rw [hfetch]
  cases x <;> rfl

end Stations

/-- The call gives up before it comes to its frame. -/
def GivesUp (f : FrameCall) (s : Session (Wiretap L)) : Prop :=
  ∃ what, (f.prepare s).1 = .error (.reconfigurationFailed what)

/-- A call that was granted some requests stopped at the next one. -/
structure Stopped (f : FrameCall) (s s' : Session (Wiretap L)) (granted : List Exchange)
    (refused : Exchange) : Prop where
  log : s'.log = refused :: (granted.reverse ++ s.log)
  /-- What is scheduled now begins with the very request that was refused. -/
  schedule : ∃ later,
    f.schedule s.settings = granted.map Exchange.request ++ refused.request :: later ∧
      f.schedule s'.settings = refused.request :: later
  all_granted : ∀ e ∈ granted, e.Granted
  not_granted : ¬ refused.Granted
  frames : s'.stats.frames = s.stats.frames

/-- How a frame call goes under the policy `onSuccess`. -/
inductive Attempt (f : FrameCall) (s : Session (Wiretap L)) : Outcome → Session (Wiretap L) → Prop where
  | rateRefused {s' : Session (Wiretap L)} {refused : Exchange} (hgaveUp : f.GivesUp s)
    (hkind : Response.classify refused.request = .rate) (hstopped : f.Stopped s s' [] refused)
    (hsettings : s'.settings = s.settings) :
    Attempt f s (f.failed (.reconfigurationFailed "rate")) s'
  | gainRefused (granted : List Exchange) {s' : Session (Wiretap L)} {refused : Exchange}
    (hgaveUp : f.GivesUp s) (hkind : Response.classify refused.request = .gain)
    (hstopped : f.Stopped s s' granted refused)
    (hsettings : s'.settings = s.settings.withRate f.rate) :
    Attempt f s (f.failed (.reconfigurationFailed "gain")) s'
  /-- All the requests were granted, and the frame was written, whatever was the answer to it. -/
  | sent (granted : List Exchange) {o : Outcome} {s' : Session (Wiretap L)} {last : Exchange}
    (hgoesOn : ¬ f.GivesUp s) (hlog : s'.log = last :: (granted.reverse ++ s.log))
    (hgranted : ∀ e ∈ granted, e.Granted) (hlast : last.request = f.packet)
    (hschedule : f.schedule s.settings = granted.map Exchange.request ++ [f.packet])
    (hsettings : s'.settings = (s.settings.withRate f.rate).withGain f.direction f.gain) :
    Attempt f s o s'

theorem schedule_withRate (f : FrameCall) (t : Settings) :
    f.schedule (t.withRate f.rate) = t.gainStep f.direction f.gain ++ [f.packet] := by
  unfold schedule
  rw [Settings.gainStep_withRate, Settings.rateStep, if_pos]
  · rfl
  · rfl

theorem attempt (hpolicy : s.config.cachePolicy = .onSuccess) (hopen : s.isOpen = true)
    (hfits : f.Fits) : f.Attempt s (f.run s).1 (f.run s).2 := by
  rcases hrate : s.adoptRate f.rate with ⟨x, s₁⟩
  cases Session.adoptRate_adopting hpolicy hopen hrate with
  | @refused e _ hsteps hkind hrefused hlogged hsettings hframes =>
    have hschedule : f.schedule s.settings =
        e.request :: (s.settings.gainStep f.direction f.gain ++ [f.packet]) := by
      rw [schedule, hsteps]
      rfl
    have hprepare := prepare_of_rate_error hopen hfits hrate
    rw [run_of_prepare_error hprepare]
    refine .rateRefused ⟨"rate", by rw [hprepare]⟩ hkind ?_ hsettings
    exact
      { log := hlogged.log
        schedule := ⟨_, hschedule, by rw [hsettings, hschedule]⟩
        all_granted := by simp
        not_granted := hrefused
        frames := hframes }
  | @adopted granted₁ _ hsteps₁ hgranted₁ hlogged₁ hsettings₁ hframes₁ =>
    -- the rate is adopted, and the gain comes next
    rcases hgain : s₁.adoptGain f.direction f.gain with ⟨y, s₂⟩
    have hpolicy₁ : s₁.config.cachePolicy = .onSuccess := by
      rw [hlogged₁.config]
      exact hpolicy
    have hadopting := Session.adoptGain_adopting hpolicy₁ hlogged₁.isOpen hgain
    rw [hsettings₁, Settings.gainStep_withRate] at hadopting
    have hprepare := (prepare_of_rate_ok hopen hfits hrate).trans hgain
    cases hadopting with
    | @refused e _ hsteps hkind hrefused hlogged hsettings hframes =>
      have hsettings₂ : s₂.settings = s.settings.withRate f.rate := by rw [hsettings, hsettings₁]
      rw [run_of_prepare_error hprepare]
      refine .gainRefused granted₁ ⟨"gain", by rw [hprepare]⟩ hkind ?_ hsettings₂
      exact
        { log := by rw [hlogged.log, hlogged₁.log]; rfl
          schedule := by
            refine ⟨[f.packet], ?_, ?_⟩
            · rw [schedule, hsteps₁, hsteps, List.append_assoc]
              rfl
            · rw [hsettings₂, schedule_withRate, hsteps]
              rfl
          all_granted := hgranted₁
          not_granted := hrefused
          frames := hframes.trans hframes₁ }
    | @adopted granted₂ _ hsteps₂ hgranted₂ hlogged₂ hsettings₂ hframes₂ =>
      -- both are adopted, and the frame is written
      rcases hfetch : s₂.fetch f.packet f.response f.width with ⟨z, s₃⟩
      obtain ⟨last, hlast, hlogged₃, hsettings₃⟩ := Session.fetch_logged hlogged₂.isOpen hfetch
      obtain ⟨c, hcount⟩ := s₃.exists_countFrame_eq f.direction z
      rw [run_of_prepare_ok hprepare hfetch, hcount]
      refine .sent (granted₁ ++ granted₂) ?_ ?_ ?_ hlast ?_ ?_
      · rintro ⟨what, hwhat⟩
        rw [hprepare] at hwhat
        cases hwhat
      · show s₃.log = _
        rw [hlogged₃.log, hlogged₂.log, hlogged₁.log, List.reverse_append]
        simp
      · intro e he
        rcases List.mem_append.mp he with he | he
        · exact hgranted₁ e he
        · exact hgranted₂ e he
      · rw [schedule, hsteps₁, hsteps₂, List.map_append]
      · exact hsettings₃.trans hsettings₂

theorem Attempt.of_givesUp {o : Outcome} (h : f.Attempt s o s') (hgaveUp : f.GivesUp s) :
    ∃ granted refused, f.Stopped s s' granted refused := by
  cases h with
  | rateRefused _ _ hstopped => exact ⟨_, _, hstopped⟩
  | gainRefused _ _ _ hstopped => exact ⟨_, _, hstopped⟩
  | sent _ hgoesOn => exact absurd hgaveUp hgoesOn

/-! ## The same call again -/

/-- The same call has been made again and again and given up each time; in between, anything may have
happened to the line. -/
inductive Retried (f : FrameCall) (s : Session (Wiretap L)) : Session (Wiretap L) → Prop where
  | none : Retried f s s
  | again {s' : Session (Wiretap L)} (h : Retried f s s') (hgaveUp : f.GivesUp s') (change : L → L) :
    Retried f s ((f.run s').2.mapLine fun t => { t with line := change t.line })

/-- What has been logged since the first attempt, and what of it was granted. -/
structure Progress (f : FrameCall) (s s' : Session (Wiretap L)) (logged : List Exchange) : Prop where
  config : s'.config = s.config
  isOpen : s'.isOpen = true
  log : s'.log = logged ++ s.log
  schedule : f.schedule s.settings =
    (logged.filter Exchange.Granted).reverse.map Exchange.request ++ f.schedule s'.settings

omit [Line L] in
theorem log_mapLine (s : Session (Wiretap L)) (change : L → L) :
    (s.mapLine fun t => { t with line := change t.line }).log = s.log := by
  unfold Session.log Session.mapLine
  cases s.line <;> rfl

theorem Progress.again {logged : List Exchange} (hpolicy : s.config.cachePolicy = .onSuccess)
    (hfits : f.Fits) (h : f.Progress s s' logged) (hgaveUp : f.GivesUp s') (change : L → L) :
    ∃ more, f.Progress s ((f.run s').2.mapLine fun t => { t with line := change t.line })
      (more ++ logged) := by
  have hpolicy' : s'.config.cachePolicy = .onSuccess := by
    rw [h.config]
    exact hpolicy
  obtain ⟨granted, refused, hstopped⟩ := (attempt hpolicy' h.isOpen hfits).of_givesUp hgaveUp
  obtain ⟨later, hbefore, hafter⟩ := hstopped.schedule
  -- of the new exchanges, all but the latest were granted
  have hfilter : (refused :: granted.reverse).filter Exchange.Granted = granted.reverse := by
    rw [List.filter_cons_of_neg (by simpa using hstopped.not_granted), List.filter_eq_self]
    intro e he
    simpa using hstopped.all_granted e (List.mem_reverse.mp he)
  refine ⟨refused :: granted.reverse, ?_⟩
  exact
    { config := ((Session.Kept.of_config s'.config).frame f rfl).trans h.config
      isOpen := by
        rw [Session.isOpen, Session.mapLine, Option.isSome_map]
        exact (Session.Kept.of_isOpen true).frame f h.isOpen
      log := by
        rw [log_mapLine, hstopped.log, h.log]
        simp
      schedule := by
        show _ = _ ++ f.schedule (f.run s').2.settings
        rw [List.filter_append, hfilter, h.schedule, hbefore, hafter]
        simp }

theorem Retried.progress (hpolicy : s.config.cachePolicy = .onSuccess) (hopen : s.isOpen = true)
    (hfits : f.Fits) (h : f.Retried s s') : ∃ logged, f.Progress s s' logged := by
  induction h with
  | none => exact ⟨[], rfl, hopen, rfl, rfl⟩
  | again _ hgaveUp change ih =>
    obtain ⟨logged, hprogress⟩ := ih
    obtain ⟨more, hmore⟩ := hprogress.again hpolicy hfits hgaveUp change
    exact ⟨more ++ logged, hmore⟩

/-- **A frame stops at the first request that is not acknowledged, and resumes there.** Take a frame call
that fits on an open session of the policy `onSuccess`, made again and again as long as it gives up, whatever
happens to the line in between. The requests granted so far, in order, and what is scheduled at the present
settings are together the schedule of the first attempt, so no request that was granted is made again.
The next attempt writes what is scheduled now: all of it, which ends with the frame, if every request is
granted; and else no more than up to the request that is not. It is then a failed reconfiguration that
names this request, its frame counts for nothing, the settings granted before are believed and no others,
and what is scheduled begins with the very request that failed.

This holds of the first attempt, too. A request that the line does not take whole is not granted. The
wiretap changes nothing about the call. -/
theorem frame_resumes (hpolicy : s.config.cachePolicy = .onSuccess) (hopen : s.isOpen = true)
    (hfits : f.Fits) (h : f.Retried s s') :
    (∃ logged, s'.log = logged ++ s.log ∧
      f.schedule s.settings =
        (logged.filter Exchange.Granted).reverse.map Exchange.request ++ f.schedule s'.settings) ∧
    f.Attempt s' (f.run s').1 (f.run s').2 ∧
    f.run (s'.mapLine Wiretap.line) = ((f.run s').1, (f.run s').2.mapLine Wiretap.line) := by
  obtain ⟨logged, hprogress⟩ := h.progress hpolicy hopen hfits
  have hpolicy' : s'.config.cachePolicy = .onSuccess := by
    rw [hprogress.config]
    exact hpolicy
  exact ⟨⟨logged, hprogress.log, hprogress.schedule⟩, attempt hpolicy' hprogress.isOpen hfits,
    Wiretap.erases.call s' (.frame f)⟩

/-- A session of the policy `onSuccess` whose chip acknowledges a rate, and then sends the acknowledgement
of a rate again where one of gains is due. -/
def misheard : Session (Wiretap BenchLine) where
  config := { cachePolicy := .onSuccess }
  line := some
    { line :=
        { replies :=
            [ Vocoder.packet controlType [rateSubtype, 0x00],
              Vocoder.packet controlType [rateSubtype, 0x00] ] } }

/-- A frame that needs both a rate and a gain. -/
def demanding : FrameCall :=
  .encode (AudioBlock.fill 0) (List.replicate 7 0) .r2450 3

/-- The session after the frame was given up; from now on the chip answers as it should. -/
def mended : Session (Wiretap BenchLine) :=
  (demanding.run misheard).2.mapLine fun t =>
    { t with
      line :=
        { t.line with
          replies :=
            [ Vocoder.packet controlType [gainSubtype, 0x00],
              Vocoder.packet voiceType [channelField, 0x31, 1, 2, 3, 4, 5, 6, 7] ] } }

/-- The second attempt asks for the gain once more, but not for the rate. -/
theorem frame_resumes_mended :
    demanding.GivesUp misheard ∧
      (demanding.run misheard).1.fault? = some (.reconfigurationFailed "gain") ∧
      mended.settings = { rate := .r2450 } ∧
      (demanding.run mended).1.fault? = none ∧
      (demanding.run mended).2.log.map (fun e => Response.classify e.request) =
        [.audio, .gain, .gain, .rate] ∧
      ∃ logged, mended.log = logged ++ misheard.log ∧
        demanding.schedule misheard.settings =
          (logged.filter Exchange.Granted).reverse.map Exchange.request ++
            demanding.schedule mended.settings := by
  have hgaveUp : demanding.GivesUp misheard := ⟨"gain", by decide +kernel⟩
  have hretried : demanding.Retried misheard mended :=
    .again .none hgaveUp fun l =>
      { l with
        replies :=
          [ Vocoder.packet controlType [gainSubtype, 0x00],
            Vocoder.packet voiceType [channelField, 0x31, 1, 2, 3, 4, 5, 6, 7] ] }
  obtain ⟨hprogress, -, -⟩ := frame_resumes rfl rfl (by decide) hretried
  refine ⟨hgaveUp, ?_, ?_, ?_, ?_, hprogress⟩
  · decide +kernel
  · decide +kernel
  · decide +kernel
  · decide +kernel

end FrameCall

end Vocoder
