import Mathlib
import Vocoder.Proofs.Wiretap

/-!
# What the chip acknowledged last

Under the policy `onSuccess` a session believes of the chip what the chip has acknowledged, and nothing
else. The history of a tapped session says what that is: the latest exchange of a kind that was answered
by the acknowledgement of its kind.

* `Acknowledged` — settings and a history agree on this. One lemma for each exchange that a history can
  grow by: `other`, `refused`, `rate_acknowledged`, `gain_acknowledged`.
* `Session.Adopted` — a session has grown its history by requests for settings and agrees with it.
* `Session.settings_acknowledged` — so does every state of a session since its attach, and a frame is sent
  from a state that has just the settings of the frame.
-/

namespace Vocoder

open Workbench (Outcome)

namespace Exchange

/-- The exchange asked for a setting of a kind, and the chip took it. -/
def Acknowledges (kind : Response) (e : Exchange) : Prop :=
  Response.classify e.request = kind ∧ e.answer? = some kind

instance (kind : Response) (e : Exchange) : Decidable (e.Acknowledges kind) :=
  inferInstanceAs (Decidable (_ ∧ _))

/-- The exchange carried a frame. -/
def IsFrame (e : Exchange) : Prop :=
  Response.classify e.request = .audio ∨ Response.classify e.request = .voice

/-- The latest exchange in which a setting of a kind was acknowledged. -/
def latestAcknowledged (kind : Response) (log : List Exchange) : Option Exchange :=
  log.find? fun e => e.Acknowledges kind

theorem latestAcknowledged_cons_of_pos {kind : Response} {e : Exchange} {log : List Exchange}
    (h : e.Acknowledges kind) : latestAcknowledged kind (e :: log) = some e := by
  simp [latestAcknowledged, h]

theorem latestAcknowledged_cons_of_neg {kind : Response} {e : Exchange} {log : List Exchange}
    (h : ¬ e.Acknowledges kind) :
    latestAcknowledged kind (e :: log) = latestAcknowledged kind log := by
  simp [latestAcknowledged, h]

end Exchange

open Exchange

/-- The settings are the ones acknowledged last, the gains clamped as they were asked for. There is nothing
to acknowledge for the rate `none`, and a session starts without gain. -/
structure Acknowledged (t : Settings) (log : List Exchange) : Prop where
  rate : t.rate ≠ .none →
    ∃ e, latestAcknowledged .rate log = some e ∧ t.rate.request? = some e.request
  gain :
    match latestAcknowledged .gain log with
    | none => t.gainIn = 0 ∧ t.gainOut = 0
    | some e =>
      ∃ bIn bOut, e.request = packet controlType [gainSubtype, bIn, bOut] ∧
        signedByte bIn = clampGain t.gainIn ∧ signedByte bOut = clampGain t.gainOut

namespace Acknowledged

variable {t : Settings} {log : List Exchange} {e : Exchange}

theorem other (h : Acknowledged t log) (hrate : ¬ e.Acknowledges .rate) (hgain : ¬ e.Acknowledges .gain) :
    Acknowledged t (e :: log) := by
  constructor
  · rw [latestAcknowledged_cons_of_neg hrate]
    exact h.rate
  · rw [latestAcknowledged_cons_of_neg hgain]
    exact h.gain

theorem refused (h : Acknowledged t log) (he : e.answer? ≠ some (Response.classify e.request)) :
    Acknowledged t (e :: log) := by
  have hnot : ∀ kind, ¬ e.Acknowledges kind := by
    rintro kind ⟨hkind, hanswer⟩
    exact he (hanswer.trans (congrArg some hkind.symm))
  exact h.other (hnot .rate) (hnot .gain)

theorem withRate_none (h : Acknowledged t log) : Acknowledged (t.withRate .none) log :=
  ⟨fun hne => absurd rfl hne, h.gain⟩

theorem rate_acknowledged (h : Acknowledged t log) {rate : Rate} (hrate : rate.request? = some e.request)
    (he : e.answer? = some .rate) : Acknowledged (t.withRate rate) (e :: log) := by
  have hkind : Response.classify e.request = .rate := classify_rateRequest hrate
  have hnot : ¬ e.Acknowledges .gain := by
    rintro ⟨hgain, -⟩
    rw [hkind] at hgain
    cases hgain
  constructor
  · intro _
    exact ⟨e, latestAcknowledged_cons_of_pos ⟨hkind, he⟩, hrate⟩
  · rw [latestAcknowledged_cons_of_neg hnot]
    exact h.gain

theorem gain_acknowledged (h : Acknowledged t log) {gainIn gainOut : Int}
    (hgain : e.request = gainRequest gainIn gainOut) (he : e.answer? = some .gain) :
    Acknowledged { t with gainIn := gainIn, gainOut := gainOut } (e :: log) := by
  have hkind : Response.classify e.request = .gain := by
    rw [hgain]
    exact classify_gainRequest ..
  have hnot : ¬ e.Acknowledges .rate := by
    rintro ⟨hrate, -⟩
    rw [hkind] at hrate
    cases hrate
  constructor
  · rw [latestAcknowledged_cons_of_neg hnot]
    exact h.rate
  · rw [latestAcknowledged_cons_of_pos ⟨hkind, he⟩]
    exact ⟨gainByte gainIn, gainByte gainOut, hgain.trans (gainRequest_eq gainIn gainOut),
      signedByte_gainByte gainIn, signedByte_gainByte gainOut⟩

end Acknowledged

/-! ## Sessions that agree with their history -/

namespace FrameCall

/-- What comes before the frame itself. -/
def prepare {L : Type} [Port L] (f : FrameCall) (s : Session L) : Except Fault Unit × Session L :=
  s.prepareFrame f.available f.rate f.direction f.gain

end FrameCall

namespace Session

variable {L : Type} [Line L] {s s' s'' : Session (Wiretap L)}

/-- A session has logged requests for settings, and its settings are the ones acknowledged last. -/
structure Adopted (s s' : Session (Wiretap L)) (new : List Exchange) : Prop
    extends Logged s s' new where
  requests : ∀ e ∈ new, ¬ e.IsFrame
  acknowledged : Acknowledged s'.settings s'.log

omit [Line L] in
theorem Adopted.refl (h : s.isOpen = true) (hack : Acknowledged s.settings s.log) :
    s.Adopted s [] :=
  { Logged.refl h with
    requests := by simp
    acknowledged := hack }

omit [Line L] in
theorem Adopted.trans {new later : List Exchange} (h : s.Adopted s' new) (h' : s'.Adopted s'' later) :
    s.Adopted s'' (later ++ new) :=
  { h.toLogged.trans h'.toLogged with
    requests := by
      intro e he
      rcases List.mem_append.mp he with he | he
      · exact h'.requests e he
      · exact h.requests e he
    acknowledged := h'.acknowledged }

/-- A session has asked for settings: it agrees with its history at these settings if they were
acknowledged, and as it was if they were not. -/
structure Offered (s s' : Session (Wiretap L)) (t : Settings) (x : Except Fault Unit)
    (new : List Exchange) : Prop extends Logged s s' new where
  requests : ∀ e ∈ new, ¬ e.IsFrame
  settings : s'.settings = s.settings
  granted : x = .ok () → Acknowledged t s'.log
  refused : x ≠ .ok () → Acknowledged s.settings s'.log

theorem requestRate_offered (h : s.isOpen = true) (hack : Acknowledged s.settings s.log) {rate : Rate}
    {x : Except Fault Unit} (hs : s.requestRate rate = (x, s')) :
    ∃ new, s.Offered s' (s.settings.withRate rate) x new := by
  rcases requestRate_logged h hs with ⟨hnone, rfl, rfl⟩ | ⟨e, hrequest, hlogged, hsettings, hx⟩
  · -- only the rate none needs no request, and it needs no acknowledgement either
    have hrate : rate = .none := by
      by_contra hne
      obtain ⟨request, hrequest⟩ := Rate.exists_request hne
      rw [hnone] at hrequest
      cases hrequest
    refine ⟨[], { Logged.refl h with requests := by simp, settings := rfl, granted := ?_, refused := ?_ }⟩
    · intro _
      rw [hrate]
      exact hack.withRate_none
    · exact fun hne => absurd rfl hne
  · have hkind : Response.classify e.request = .rate := classify_rateRequest hrequest
    refine ⟨[e], { hlogged with requests := ?_, settings := hsettings, granted := ?_, refused := ?_ }⟩
    · simp [IsFrame, hkind]
    · intro hok
      rw [hlogged.log]
      exact hack.rate_acknowledged hrequest (hx.mp hok)
    · intro hne
      rw [hlogged.log]
      exact hack.refused (by rw [hkind]; exact fun he => hne (hx.mpr he))

theorem requestGain_offered (h : s.isOpen = true) (hack : Acknowledged s.settings s.log) {t : Settings}
    (hrate : t.rate = s.settings.rate) {x : Except Fault Unit} (hs : s.requestGain t = (x, s')) :
    ∃ new, s.Offered s' t x new := by
  obtain ⟨e, hrequest, hlogged, hsettings, hx⟩ := requestGain_logged h hs
  have hkind : Response.classify e.request = .gain := by
    rw [hrequest]
    exact classify_gainRequest ..
  refine ⟨[e], { hlogged with requests := ?_, settings := hsettings, granted := ?_, refused := ?_ }⟩
  · simp [IsFrame, hkind]
  · intro hok
    -- the rate is the one believed before, and what is said of it still holds
    have ht : t = { s.settings with gainIn := t.gainIn, gainOut := t.gainOut } := by
      show t = ⟨s.settings.rate, t.gainIn, t.gainOut⟩
      rw [← hrate]
    rw [hlogged.log, ht]
    exact hack.gain_acknowledged hrequest (hx.mp hok)
  · intro hne
    rw [hlogged.log]
    exact hack.refused (by rw [hkind]; exact fun he => hne (hx.mpr he))

namespace Offered

variable {t : Settings} {x : Except Fault Unit} {new : List Exchange}

omit [Line L] in
theorem believe (h : s.Offered s' t x new) (hx : x = .ok ()) : s.Adopted (s'.believe t) new :=
  ⟨⟨h.isOpen, h.config, h.log⟩, h.requests, h.granted hx⟩

omit [Line L] in
theorem giveUp (h : s.Offered s' t x new) (hx : x ≠ .ok ()) : s.Adopted s' new := by
  refine ⟨h.toLogged, h.requests, ?_⟩
  rw [h.settings]
  exact h.refused hx

omit [Line L] in
/-- Under `onSuccess` a session believes what was acknowledged, and gives up what was not. -/
theorem settle (hp : s.config.cachePolicy = .onSuccess) (h : s.Offered s' t x new) {what : String}
    {y : Except Fault Unit} (hs : Session.settle what t (x, s') = (y, s'')) :
    s.Adopted s'' new ∧ (y = .ok () → s''.settings = t) := by
  cases x with
  | ok _ =>
    cases hs
    exact ⟨h.believe rfl, fun _ => rfl⟩
  | error f =>
    rw [Session.settle, h.config, hp] at hs
    cases hs
    exact ⟨h.giveUp (by simp), fun hy => by cases hy⟩

end Offered

theorem adoptRate_adopted (hp : s.config.cachePolicy = .onSuccess) (h : s.isOpen = true)
    (hack : Acknowledged s.settings s.log) {rate : Rate} {x : Except Fault Unit}
    (hs : s.adoptRate rate = (x, s')) :
    ∃ new, s.Adopted s' new ∧ (x = .ok () → s'.settings = s.settings.withRate rate) := by
  rw [adoptRate] at hs
  split at hs
  · rename_i hsame
    cases hs
    refine ⟨[], .refl h hack, ?_⟩
    intro _
    rw [hsame]
    rfl
  · rcases hrequest : s.requestRate rate with ⟨y, s₁⟩
    obtain ⟨new, hoffered⟩ := requestRate_offered h hack hrequest
    rw [hrequest] at hs
    exact ⟨new, hoffered.settle hp hs⟩

theorem adoptGain_adopted (hp : s.config.cachePolicy = .onSuccess) (h : s.isOpen = true)
    (hack : Acknowledged s.settings s.log) {d : Direction} {gain : Int} {x : Except Fault Unit}
    (hs : s.adoptGain d gain = (x, s')) :
    ∃ new, s.Adopted s' new ∧ (x = .ok () → s'.settings = s.settings.withGain d gain) := by
  rw [adoptGain] at hs
  split at hs
  · rename_i hsame
    cases hs
    refine ⟨[], .refl h hack, ?_⟩
    intro _
    rw [hsame]
    cases d <;> rfl
  · rcases hrequest : s.requestGain (s.settings.withGain d gain) with ⟨y, s₁⟩
    have hrate : (s.settings.withGain d gain).rate = s.settings.rate := by cases d <;> rfl
    obtain ⟨new, hoffered⟩ := requestGain_offered h hack hrate hrequest
    rw [hrequest] at hs
    exact ⟨new, hoffered.settle hp hs⟩

/-- What comes before a frame. If it succeeds, the session is at the settings of the frame. -/
theorem prepare_adopted (hp : s.config.cachePolicy = .onSuccess) (h : s.isOpen = true)
    (hack : Acknowledged s.settings s.log) {f : FrameCall} {x : Except Fault Unit}
    (hs : f.prepare s = (x, s')) :
    ∃ new, s.Adopted s' new ∧
      (x = .ok () → s'.settings.rate = f.rate ∧ s'.settings.gain f.direction = f.gain) := by
  rw [FrameCall.prepare, prepareFrame, if_pos h] at hs
  split at hs
  · cases hs
    exact ⟨[], .refl h hack, fun hx => by cases hx⟩
  · rcases hrate : s.adoptRate f.rate with ⟨_ | _, s₁⟩
    all_goals
      obtain ⟨new₁, hadopted₁, hsettings₁⟩ := adoptRate_adopted hp h hack hrate
      rw [hrate] at hs
    · cases hs
      exact ⟨new₁, hadopted₁, fun hx => by cases hx⟩
    · have hp₁ : s₁.config.cachePolicy = .onSuccess := by
        rw [hadopted₁.config]
        exact hp
      obtain ⟨new₂, hadopted₂, hsettings₂⟩ :=
        adoptGain_adopted hp₁ hadopted₁.isOpen hadopted₁.acknowledged hs
      refine ⟨new₂ ++ new₁, hadopted₁.trans hadopted₂, ?_⟩
      intro hx
      -- the gain was adopted last, and it left the rate as it was
      rw [hsettings₂ hx, hsettings₁ rfl]
      cases f.direction
      · exact ⟨rfl, rfl⟩
      · exact ⟨rfl, rfl⟩

/-! ## Calls -/

/-- How a call goes on a session that agrees with its history. -/
inductive Went (s : Session (Wiretap L)) (c : Call) (s' : Session (Wiretap L)) : Prop where
  /-- No frame is sent. -/
  | adopted {new : List Exchange} (h : s.Adopted s' new)
  /-- A frame is sent, from a session that is at its settings. -/
  | sent {f : FrameCall} {s₁ : Session (Wiretap L)} {new : List Exchange} {e : Exchange}
    (hc : c = .frame f) (hprepare : f.prepare s = (.ok (), s₁)) (hadopted : s.Adopted s₁ new)
    (hrate : s₁.settings.rate = f.rate) (hgain : s₁.settings.gain f.direction = f.gain)
    (hrequest : e.request = f.packet) (hlogged : s₁.Logged s' [e])
    (hsettings : s'.settings = s₁.settings)

theorem fetch_logged (h : s.isOpen = true) {request : List UInt8} {expected : Response} {n : Nat}
    {x : Except Fault (List UInt8)} (hs : s.fetch request expected n = (x, s')) :
    ∃ e : Exchange, e.request = request ∧ s.Logged s' [e] ∧ s'.settings = s.settings := by
  rw [fetch] at hs
  rcases hexchange : s.exchange request expected with ⟨_ | _, s₁⟩
  all_goals
    obtain ⟨e, he, hlogged, hsettings, -⟩ := exchange_logged h hexchange
    rw [hexchange] at hs
    cases hs
    exact ⟨e, he, hlogged, hsettings⟩

theorem frame_went (hp : s.config.cachePolicy = .onSuccess) (h : s.isOpen = true)
    (hack : Acknowledged s.settings s.log) (f : FrameCall) : s.Went (.frame f) (f.run s).2 := by
  -- a frame is its preparation, and then one exchange
  rw [f.run_eq]
  rcases hprepare : s.prepareFrame f.available f.rate f.direction f.gain with ⟨_ | _, s₁⟩
  all_goals
    obtain ⟨new, hadopted, hsettings⟩ := prepare_adopted hp h hack (f := f) hprepare
  · exact .adopted hadopted
  · obtain ⟨hrate, hgain⟩ := hsettings rfl
    -- neither the count nor the data of the answer touches settings or history
    have hcount : ∀ (s₂ : Session (Wiretap L)) (x : Except Fault (List UInt8)) (e : Exchange),
        s₁.Logged s₂ [e] → s₁.Logged (s₂.countFrame f.direction x) [e] ∧
          (s₂.countFrame f.direction x).settings = s₂.settings := by
      intro s₂ x e hlogged
      obtain ⟨g, hg⟩ := s₂.exists_countFrame_eq f.direction x
      rw [hg]
      exact ⟨⟨hlogged.isOpen, hlogged.config, hlogged.log⟩, rfl⟩
    dsimp only
    rcases hfetch : s₁.fetch f.packet f.response f.width with ⟨x | x, s₂⟩
    all_goals
      obtain ⟨e, he, hlogged, hsettings₂⟩ := fetch_logged hadopted.isOpen hfetch
      obtain ⟨hlogged', hsame⟩ := hcount s₂ _ e hlogged
      exact .sent rfl hprepare hadopted hrate hgain he hlogged' (hsame.trans hsettings₂)

/-- **One lemma for every call.** -/
theorem call_went (hp : s.config.cachePolicy = .onSuccess) (h : s.isOpen = true)
    (hack : Acknowledged s.settings s.log) (c : Call) : s.Went c (c.run s).2 := by
  cases c with
  | setRate rate =>
    show s.Went _ (s.setRate rate).2
    rw [setRate, if_pos h]
    rcases hrequest : s.requestRate rate with ⟨_ | _, s₁⟩
    all_goals obtain ⟨new, hoffered⟩ := requestRate_offered h hack hrequest
    · exact .adopted (hoffered.giveUp (by simp))
    · have hbelieve := hoffered.believe rfl
      rw [← hoffered.settings] at hbelieve
      exact .adopted hbelieve
  | setGain gainIn gainOut =>
    show s.Went _ (s.setGain gainIn gainOut).2
    rw [setGain, if_pos h]
    rcases hrequest : s.requestGain { s.settings with gainIn := gainIn, gainOut := gainOut } with
      ⟨_ | _, s₁⟩
    all_goals obtain ⟨new, hoffered⟩ := requestGain_offered h hack (by rfl) hrequest
    · exact .adopted (hoffered.giveUp (by simp))
    · have hbelieve := hoffered.believe rfl
      rw [← hoffered.settings] at hbelieve
      exact .adopted hbelieve
  | frame f => exact frame_went hp h hack f

/-! ## Runs -/

/-- The session is open under `onSuccess`, and its settings are the ones acknowledged last. -/
structure Agrees (s : Session (Wiretap L)) : Prop where
  onSuccess : s.config.cachePolicy = .onSuccess
  isOpen : s.isOpen = true
  acknowledged : Acknowledged s.settings s.log

namespace Agrees

/-- Waiting for the name adds to what was heard, never to what was asked. -/
theorem requests_awaitName : ∀ (n : Nat) {r r' : Reader} {t t' : Wiretap L} {x : Except Fault String},
    awaitName r n t = (x, r', t') →
      t'.log.map Exchange.request = t.log.map Exchange.request := by
  intro n
  -- on the number of packets that are still inspected
  induction n with
  | zero =>
    intro r r' t t' x hs
    cases hs
    rfl
  | succ n ih =>
    intro r r' t t' x hs
    have hhead : ∀ y, (t.log.modifyHead (·.hear y)).map Exchange.request =
        t.log.map Exchange.request := by
      intro y
      cases t.log with
      | nil => rfl
      | cons e log => rfl
    rcases hreceive : r.receive t.line with ⟨y, r₁, l₁⟩
    rw [awaitName, Wiretap.receive_eq hreceive] at hs
    cases y with
    | error f =>
      cases hs
      exact hhead _
    | ok got =>
      cases got with
      | productId =>
        cases hs
        exact hhead _
      | audio | voice | rate | gain | unknown => exact (ih hs).trans (hhead _)

theorem attach {l : L} (hp : s.config.cachePolicy = .onSuccess)
    (hs : (s.attach { line := l }).1 = .ok ()) : Agrees (s.attach { line := l }).2.1 := by
  rw [Session.attach] at hs ⊢
  dsimp only [Session.close] at hs ⊢
  rcases hidentify : identify ({ s with line := none } : Session (Wiretap L)).reader
      s.config.identifyAttempts ({ line := l } : Wiretap L) with ⟨_ | name, r, t⟩
  all_goals rw [hidentify] at hs
  · cases hs
  · rw [identify] at hidentify
    rcases hsend : Line.send l productQuery with ⟨y, l₁⟩
    rw [Wiretap.send_eq hsend] at hidentify
    cases y with
    | error f => cases hidentify
    | ok _ =>
      have hrequests := requests_awaitName _ hidentify
      obtain ⟨e, hlog⟩ : ∃ e, t.log = [e] :=
        List.length_eq_one_iff.mp (by simpa using congrArg List.length hrequests)
      have he : e.request = productQuery := by simpa [hlog] using hrequests
      have hkind : Response.classify e.request = .productId := by
        rw [he]
        decide
      refine ⟨hp, rfl, ?_⟩
      -- the identification is the whole history, and it sets nothing
      show Acknowledged {} t.log
      rw [hlog]
      refine (⟨fun hne => absurd rfl hne, ⟨rfl, rfl⟩⟩ : Acknowledged {} []).other ?_ ?_
      · simp [Exchange.Acknowledges, hkind]
      · simp [Exchange.Acknowledges, hkind]

theorem call (h : Agrees s) (c : Call) : Agrees (c.run s).2 := by
  cases call_went h.onSuccess h.isOpen h.acknowledged c with
  | adopted hadopted =>
    exact ⟨by rw [hadopted.config]; exact h.onSuccess, hadopted.isOpen, hadopted.acknowledged⟩
  | @sent f s₁ new e hc hprepare hadopted hrate hgain hrequest hlogged hsettings =>
    refine ⟨?_, hlogged.isOpen, ?_⟩
    · rw [hlogged.config, hadopted.config]
      exact h.onSuccess
    · -- the answer to a frame acknowledges no setting
      rw [hlogged.log, hsettings]
      refine hadopted.acknowledged.other ?_ ?_
      · rintro ⟨hkind, -⟩
        exact f.classify_packet.1 (hrequest ▸ hkind)
      · rintro ⟨hkind, -⟩
        exact f.classify_packet.2 (hrequest ▸ hkind)

omit [Line L] in
/-- A change of the line passes settings and history by. -/
theorem change (h : Agrees s) (f : L → L) :
    Agrees (s.mapLine fun t => { t with line := f t.line }) := by
  obtain ⟨t, ht⟩ := Option.isSome_iff_exists.mp h.isOpen
  refine ⟨h.onSuccess, ?_, ?_⟩
  · simp [Session.isOpen, mapLine, ht]
  · have hlog : (s.mapLine fun t => { t with line := f t.line }).log = s.log := by
      simp [log, mapLine, ht]
    rw [hlog]
    exact h.acknowledged

theorem run (h : Agrees s) (hs : List (Happening L)) :
    Agrees (Happening.run s (hs.map Happening.tapped)) := by
  -- on what happens, with one lemma for each kind of it
  induction hs generalizing s with
  | nil => exact h
  | cons happening later ih =>
    cases happening with
    | call c => exact ih (h.call c)
    | change f => exact ih (h.change f)

end Agrees

/-- **A session of the policy `onSuccess` believes what was acknowledged last.** Over any line, whatever
calls are made and whatever befalls the line between them: the rate believed, unless it is `none`, is the
one of the latest acknowledged request for a rate since the attach; the gains believed are the ones of the
latest acknowledged request for gains, and zero if there is none. Every frame that a call then sends goes
out from a session that has prepared it and is just at its rate and its gain, and that agrees with its
history, too. The wiretap that tells the history changes nothing about the run. -/
theorem settings_acknowledged {s : Session (Wiretap L)} {l : L}
    (hpolicy : s.config.cachePolicy = .onSuccess) (hattach : (s.attach { line := l }).1 = .ok ())
    (hs : List (Happening L)) :
    let s' := Happening.run (s.attach { line := l }).2.1 (hs.map Happening.tapped)
    Acknowledged s'.settings s'.log ∧
    (∀ c : Call, ∃ new, (c.run s').2.log = new ++ s'.log ∧
      ∀ e ∈ new, e.IsFrame →
        ∃ (f : FrameCall) (s₁ : Session (Wiretap L)),
          c = .frame f ∧ e.request = f.packet ∧ f.prepare s' = (.ok (), s₁) ∧
          (c.run s').2.log = e :: s₁.log ∧ s₁.settings.rate = f.rate ∧
          s₁.settings.gain f.direction = f.gain ∧ Acknowledged s₁.settings s₁.log) ∧
    s'.mapLine Wiretap.line = Happening.run ((s.mapLine Wiretap.line).attach l).2.1 hs := by
  intro s'
  have hagrees : Agrees s' := (Agrees.attach hpolicy hattach).run hs
  refine ⟨hagrees.acknowledged, ?_, ?_⟩
  · intro c
    cases call_went hagrees.onSuccess hagrees.isOpen hagrees.acknowledged c with
    | adopted hadopted =>
      refine ⟨_, hadopted.log, ?_⟩
      intro e he hframe
      exact absurd hframe (hadopted.requests e he)
    | @sent f s₁ new e hc hprepare hadopted hrate hgain hrequest hlogged hsettings =>
      refine ⟨e :: new, ?_, ?_⟩
      · rw [hlogged.log, hadopted.log]
        rfl
      · intro e' he' hframe
        rcases List.mem_cons.mp he' with rfl | he'
        · exact ⟨f, s₁, hc, hrequest, hprepare, hlogged.log, hrate, hgain, hadopted.acknowledged⟩
        · -- what came before the frame are requests for settings
          exact absurd hframe (hadopted.requests e' he')
  · rw [congrArg (·.2.1) (Wiretap.erases.attach s { line := l })]
    exact (Happening.erase_run _ hs).symm

/-- A session of the policy `onSuccess`, not attached yet. -/
def cautious : Session (Wiretap BenchLine) :=
  { config := { cachePolicy := .onSuccess } }

/-- A bench line that identifies itself and acknowledges a rate. -/
def obliging : BenchLine :=
  { replies := [[0x61, 0x00, 0x02, 0x00, 0x30, 0x41], [0x61, 0x00, 0x02, 0x00, 0x0a, 0x00]] }

/-- A rate is acknowledged; then reads fail, and gains and another rate are asked for in vain. -/
def halfHeard : List (Happening BenchLine) :=
  [ .call (.setRate .r2450),
    .change fun l => { l with failReads := true },
    .call (.setGain 3 (-100)),
    .call (.frame (.encode (AudioBlock.fill 0) (List.replicate 11 0) .r4400 0)) ]

/-- What was asked for in vain is in the history, but not in the settings. -/
theorem settings_acknowledged_halfHeard :
    (cautious.attach { line := obliging }).1 = .ok () ∧
      let s := Happening.run (cautious.attach { line := obliging }).2.1
        (halfHeard.map Happening.tapped)
      s.settings = { rate := .r2450 } ∧
        s.log.map (Response.classify ·.request) = [.rate, .gain, .rate, .productId] ∧
        s.log.map Exchange.answer? = [none, none, some .rate, some .productId] ∧
        Acknowledged s.settings s.log := by
  have hattach : (cautious.attach { line := obliging }).1 = .ok () := by
    cbv
  obtain ⟨hacknowledged, -⟩ := settings_acknowledged rfl hattach halfHeard
  refine ⟨hattach, ?_, ?_, ?_, hacknowledged⟩
  · cbv
  · cbv
  · cbv

end Session

end Vocoder
