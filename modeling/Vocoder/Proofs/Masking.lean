import Mathlib
import Vocoder.Proofs.Custody

/-!
# Masked lengths

A reader that masks lengths ignores four bits of the length field. No packet that is accepted has them set,
so a session with such a reader differs from one without only from the first packet on that is refused for
its length.

* **`Reader.receive_masked`** — a receive that does not refuse a length is the same with the mask.
* **`Port.MasksUnless`** — a port on which receiving is the same with the mask unless it spoils the port.
  Whatever a session does is the same then, unless the port is spoiled.
* **`Gauged`** — a line that counts the refused lengths, so that one is spoiled by them.
* **`Custody.masked_history`** — whatever is done with a session and any lines comes to the same with the
  mask, as long as no length is refused without it.
-/

namespace Vocoder

open Workbench (Outcome)

/-! ## One packet -/

/-- The masked bits of a length that is accepted are not set. -/
theorem LengthField.total_masked {bytes : List UInt8} (h : full.total bytes ≤ maxPacketLength) :
    masked.total bytes = full.total bytes := by
  unfold total decode headerLength maxPacketLength at *
  dsimp only at *
  omega

namespace Reader

/-- The reader with the mask. -/
def masked (r : Reader) : Reader :=
  { r with lengthField := .masked }

variable {L : Type} [Line L] {l l' : L}

theorem completePacket_masked {x : Except Fault Response} {held : List UInt8}
    (h : completePacket .full l = (x, held, l')) (haccepted : ∀ n m, x ≠ .error (.oversized n m)) :
    completePacket .masked l = (x, held, l') := by
  unfold completePacket at h ⊢
  rcases hheader : gather .packetHeader headerLength [startMarker] l with ⟨_ | _, header, l₁⟩
  all_goals
    rw [hheader] at h
    dsimp only at h ⊢
  · exact h
  · by_cases hsize : maxPacketLength < LengthField.full.total header
    · rw [if_pos hsize] at h
      cases h
      exact absurd rfl (haccepted _ _)
    · rw [LengthField.total_masked (Nat.le_of_not_lt hsize)]
      exact h

/-- **A receive that does not refuse a length is the same with the mask.** -/
theorem receive_masked {r r' : Reader} {x : Except Fault Response} (hfull : r.lengthField = .full)
    (h : r.receive l = (x, r', l')) (haccepted : ∀ n m, x ≠ .error (.oversized n m)) :
    r.masked.receive l = (x, r'.masked, l') := by
  unfold receive at h ⊢
  rcases hprepare : Line.prepare l with ⟨_ | _, l₁⟩
  all_goals
    rw [hprepare] at h
    dsimp only at h ⊢
  · cases h
    rfl
  · -- looking for a marker has nothing to do with lengths
    rw [show r.masked.timeoutMs = r.timeoutMs from rfl]
    rcases hseek : seekMarker r.timeoutMs l₁ with ⟨_ | _, l₂⟩
    all_goals
      rw [hseek] at h
      dsimp only at h ⊢
    · cases h
      rfl
    · rw [hfull] at h
      rcases hpacket : completePacket .full l₂ with ⟨y, held, l₃⟩
      rw [hpacket] at h
      cases h
      rw [show r.masked.lengthField = .masked from rfl, completePacket_masked hpacket haccepted]
      rfl

end Reader

/-! ## A session over a port -/

/-- Receiving from a port is the same with the mask, unless it spoils the port; and a port that is spoiled
stays so. -/
structure Port.MasksUnless {M : Type} [Port M] (Spoiled : M → Prop) : Prop where
  kept : Port.Kept Spoiled
  close : ∀ {m}, Spoiled m → Spoiled (Port.close m)
  receive : ∀ {r r' m m' x}, r.lengthField = .full → Port.receive r m = (x, r', m') → ¬ Spoiled m' →
    Port.receive r.masked m = (x, r'.masked, m') ∧ r'.lengthField = .full

namespace Session

/-- The session with the mask. -/
def masked {L : Type} (s : Session L) : Session L :=
  { s with config := { s.config with lengthField := .masked } }

section Masked

variable {L : Type} (s : Session L)

@[simp]
theorem line_masked : s.masked.line = s.line := rfl

@[simp]
theorem isOpen_masked : s.masked.isOpen = s.isOpen := rfl

@[simp]
theorem settings_masked : s.masked.settings = s.settings := rfl

@[simp]
theorem cachePolicy_masked : s.masked.config.cachePolicy = s.config.cachePolicy := rfl

@[simp]
theorem reader_masked : s.masked.reader = s.reader.masked := rfl

end Masked

/-- The line held has a property. -/
def Holds {L : Type} (P : L → Prop) (s : Session L) : Prop :=
  ∃ l, s.line = some l ∧ P l

end Session

namespace Port.MasksUnless

variable {M : Type} [Port M] {Spoiled : M → Prop} {s s' : Session M}

/-- A session that holds a spoiled port goes on to do so. -/
theorem kept_holds (A : MasksUnless Spoiled) : Session.Kept (Session.Holds Spoiled) where
  exchange {s request} expected hrequest h := by
    obtain ⟨m, hm, hspoiled⟩ := h
    have hopen : (s.exchange request expected).2.isOpen = true :=
      (Session.Kept.of_isOpen true).exchange expected hrequest (by rw [Session.isOpen, hm]; rfl)
    obtain ⟨m', hm'⟩ := Option.isSome_iff_exists.mp hopen
    refine ⟨m', hm', A.kept.session.exchange expected hrequest ?_ m' hm'⟩
    intro m₀ hm₀
    rw [hm] at hm₀
    cases hm₀
    exact hspoiled
  count _ h := h
  believe _ h := h

theorem exchange (A : MasksUnless Spoiled) (hfull : s.config.lengthField = .full) {request : List UInt8}
    {expected : Response} {x : Except Fault Unit} (h : s.exchange request expected = (x, s'))
    (hclean : ¬ s'.Holds Spoiled) : s.masked.exchange request expected = (x, s'.masked) := by
  unfold Session.exchange at h ⊢
  rw [Session.line_masked]
  cases hl : s.line with
  | none =>
    rw [hl] at h
    cases h
    rfl
  | some m =>
    rw [hl] at h
    dsimp only at h ⊢
    rcases hsend : Port.send m request with ⟨_ | _, m₁⟩
    all_goals
      rw [hsend] at h
      dsimp only at h ⊢
    · cases h
      rfl
    · rcases hreceive : Port.receive s.reader m₁ with ⟨y, r, m₂⟩
      rw [hreceive] at h
      have hm₂ : ¬ Spoiled m₂ := by
        intro hspoiled
        cases y with
        | error f | ok got =>
          cases h
          exact hclean ⟨m₂, rfl, hspoiled⟩
      obtain ⟨hmasked, -⟩ := A.receive (r := s.reader) hfull hreceive hm₂
      rw [Session.reader_masked, hmasked]
      cases y with
      | error f | ok got =>
        cases h
        rfl

theorem requestRate (A : MasksUnless Spoiled) (hfull : s.config.lengthField = .full) {rate : Rate}
    {x : Except Fault Unit} (h : s.requestRate rate = (x, s')) (hclean : ¬ s'.Holds Spoiled) :
    s.masked.requestRate rate = (x, s'.masked) := by
  unfold Session.requestRate at h ⊢
  cases hrequest : rate.request? with
  | none =>
    rw [hrequest] at h
    cases h
    rfl
  | some request =>
    rw [hrequest] at h
    exact A.exchange (s := s.count _) hfull h hclean

theorem requestGain (A : MasksUnless Spoiled) (hfull : s.config.lengthField = .full) {t : Settings}
    {x : Except Fault Unit} (h : s.requestGain t = (x, s')) (hclean : ¬ s'.Holds Spoiled) :
    s.masked.requestGain t = (x, s'.masked) :=
  A.exchange (s := s.count _) hfull h hclean

omit [Port M] in
theorem settle_masked (what : String) (t : Settings) (x : Except Fault Unit) (s : Session M) :
    Session.settle what t (x, s.masked) =
      ((Session.settle what t (x, s)).1, (Session.settle what t (x, s)).2.masked) := by
  cases x with
  | ok _ => rfl
  | error f =>
    unfold Session.settle
    dsimp only
    rw [Session.cachePolicy_masked]
    cases s.config.cachePolicy with
    | always | onSuccess => rfl

theorem settle (A : MasksUnless Spoiled) {what : String} {t : Settings} {x y : Except Fault Unit}
    {s₁ : Session M} (h : Session.settle what t (y, s₁) = (x, s')) (hclean : ¬ s'.Holds Spoiled) :
    ¬ s₁.Holds Spoiled ∧ Session.settle what t (y, s₁.masked) = (x, s'.masked) := by
  refine ⟨fun hspoiled => hclean ?_, ?_⟩
  · have := A.kept_holds.conserved.settle what t y hspoiled
    rwa [h] at this
  · rw [settle_masked, h]

theorem adoptRate (A : MasksUnless Spoiled) (hfull : s.config.lengthField = .full) {rate : Rate}
    {x : Except Fault Unit} (h : s.adoptRate rate = (x, s')) (hclean : ¬ s'.Holds Spoiled) :
    s.masked.adoptRate rate = (x, s'.masked) := by
  unfold Session.adoptRate at h ⊢
  rw [Session.settings_masked]
  by_cases hsame : rate = s.settings.rate
  · rw [if_pos hsame] at h ⊢
    cases h
    rfl
  · rw [if_neg hsame] at h ⊢
    rcases hrequest : s.requestRate rate with ⟨y, s₁⟩
    rw [hrequest] at h
    obtain ⟨hclean₁, hsettle⟩ := A.settle h hclean
    rw [A.requestRate hfull hrequest hclean₁]
    exact hsettle

theorem adoptGain (A : MasksUnless Spoiled) (hfull : s.config.lengthField = .full) {d : Direction}
    {gain : Int} {x : Except Fault Unit} (h : s.adoptGain d gain = (x, s'))
    (hclean : ¬ s'.Holds Spoiled) : s.masked.adoptGain d gain = (x, s'.masked) := by
  unfold Session.adoptGain at h ⊢
  rw [Session.settings_masked]
  by_cases hsame : gain = s.settings.gain d
  · rw [if_pos hsame] at h ⊢
    cases h
    rfl
  · rw [if_neg hsame] at h ⊢
    rcases hrequest : s.requestGain (s.settings.withGain d gain) with ⟨y, s₁⟩
    rw [hrequest] at h
    obtain ⟨hclean₁, hsettle⟩ := A.settle h hclean
    rw [A.requestGain hfull hrequest hclean₁]
    exact hsettle

theorem prepareFrame (A : MasksUnless Spoiled) (hfull : s.config.lengthField = .full) {available : Nat}
    {rate : Rate} {d : Direction} {gain : Int} {x : Except Fault Unit}
    (h : s.prepareFrame available rate d gain = (x, s')) (hclean : ¬ s'.Holds Spoiled) :
    s.masked.prepareFrame available rate d gain = (x, s'.masked) := by
  unfold Session.prepareFrame at h ⊢
  rw [Session.isOpen_masked]
  by_cases hopen : s.isOpen = true
  · rw [if_pos hopen] at h ⊢
    by_cases hsmall : available < rate.voiceBytes
    · rw [if_pos hsmall] at h ⊢
      cases h
      rfl
    · rw [if_neg hsmall] at h ⊢
      rcases hrate : s.adoptRate rate with ⟨_ | _, s₁⟩
      all_goals
        rw [hrate] at h
        dsimp only at h
      · cases h
        rw [A.adoptRate hfull hrate hclean]
      · -- a port that the rate has spoiled would still be spoiled behind the gain
        have hclean₁ : ¬ s₁.Holds Spoiled := by
          intro hspoiled
          have := A.kept_holds.conserved.adoptGain d gain hspoiled
          rw [h] at this
          exact hclean this
        have hfull₁ : s₁.config.lengthField = .full := by
          have := (Session.Kept.of_config s.config).conserved.adoptRate rate rfl
          rw [hrate] at this
          rw [this, hfull]
        rw [A.adoptRate hfull hrate hclean₁]
        exact A.adoptGain hfull₁ h hclean
  · rw [if_neg hopen] at h ⊢
    cases h
    rfl

theorem fetch (A : MasksUnless Spoiled) (hfull : s.config.lengthField = .full) {request : List UInt8}
    {expected : Response} {n : Nat} {x : Except Fault (List UInt8)}
    (h : s.fetch request expected n = (x, s')) (hclean : ¬ s'.Holds Spoiled) :
    s.masked.fetch request expected n = (x, s'.masked) := by
  unfold Session.fetch at h ⊢
  rcases hexchange : s.exchange request expected with ⟨_ | _, s₁⟩
  all_goals
    rw [hexchange] at h
    cases h
    rw [A.exchange hfull hexchange hclean]
  rfl

omit [Port M] in
theorem countFrame_masked (s : Session M) (d : Direction) (x : Except Fault (List UInt8)) :
    s.masked.countFrame d x = (s.countFrame d x).masked := by
  cases x with
  | error f => rfl
  | ok data =>
    cases d with
    | input | output => rfl

theorem frame (A : MasksUnless Spoiled) (hfull : s.config.lengthField = .full) {f : FrameCall}
    (hclean : ¬ (f.run s).2.Holds Spoiled) : f.run s.masked = ((f.run s).1, (f.run s).2.masked) := by
  rw [f.run_eq] at hclean
  rw [f.run_eq, f.run_eq]
  rcases hprepare : s.prepareFrame f.available f.rate f.direction f.gain with ⟨_ | _, s₁⟩
  all_goals
    rw [hprepare] at hclean
    dsimp only at hclean
  · rw [A.prepareFrame hfull hprepare hclean]
  · rcases hfetch : s₁.fetch f.packet f.response f.width with ⟨x, s₂⟩
    rw [hfetch] at hclean
    -- what was fetched is counted, which is nothing to the port
    have hclean₂ : ¬ s₂.Holds Spoiled := by
      intro hspoiled
      have := A.kept_holds.countFrame f.direction x hspoiled
      cases x with
      | error e | ok data => exact hclean this
    have hclean₁ : ¬ s₁.Holds Spoiled := by
      intro hspoiled
      have := A.kept_holds.fetch f.response f.width
        (f.isRequest_packet (FrameCall.fits_of_prepareFrame hprepare)) hspoiled
      rw [hfetch] at this
      exact hclean₂ this
    have hfull₁ : s₁.config.lengthField = .full := by
      have := (Session.Kept.of_config s.config).conserved.prepareFrame f.available f.rate f.direction
        f.gain rfl
      rw [hprepare] at this
      rw [this, hfull]
    rw [A.prepareFrame hfull hprepare hclean₁]
    dsimp only
    rw [A.fetch hfull₁ hfetch hclean₂]
    cases x with
    | error e | ok data => simp only [hfetch, countFrame_masked]

/-- **A call is the same with the mask** on an open session, unless it spoils the port. -/
theorem call (A : MasksUnless Spoiled) (hfull : s.config.lengthField = .full) {c : Call}
    (hclean : ¬ (c.run s).2.Holds Spoiled) : c.run s.masked = ((c.run s).1, (c.run s).2.masked) := by
  cases c with
  | setRate rate =>
    simp only [Call.run, Session.setRate] at hclean ⊢
    rw [Session.isOpen_masked]
    by_cases hopen : s.isOpen = true
    · simp only [if_pos hopen] at hclean ⊢
      rcases hrequest : s.requestRate rate with ⟨_ | _, s₁⟩
      all_goals
        rw [hrequest] at hclean
        rw [A.requestRate hfull hrequest hclean]
      rfl
    · simp only [if_neg hopen]
  | setGain gainIn gainOut =>
    simp only [Call.run, Session.setGain] at hclean ⊢
    rw [Session.isOpen_masked, Session.settings_masked]
    by_cases hopen : s.isOpen = true
    · simp only [if_pos hopen] at hclean ⊢
      rcases hrequest : s.requestGain { s.settings with gainIn := gainIn, gainOut := gainOut } with
        ⟨_ | _, s₁⟩
      all_goals
        rw [hrequest] at hclean
        rw [A.requestGain hfull hrequest hclean]
      rfl
    · simp only [if_neg hopen]
  | frame f => exact A.frame hfull hclean

theorem awaitName (A : MasksUnless Spoiled) (n : Nat) {r r' : Reader} {m m' : M}
    {x : Except Fault String} (hfull : r.lengthField = .full)
    (h : Session.awaitName r n m = (x, r', m')) (hclean : ¬ Spoiled m') :
    Session.awaitName r.masked n m = (x, r'.masked, m') := by
  induction n generalizing r m with
  | zero =>
    cases h
    rfl
  | succ n ih =>
    unfold Session.awaitName at h ⊢
    rcases hreceive : Port.receive r m with ⟨y, r₁, m₁⟩
    rw [hreceive] at h
    have hclean₁ : ¬ Spoiled m₁ := by
      intro hspoiled
      apply hclean
      cases y with
      | error f =>
        cases h
        exact hspoiled
      | ok got =>
        cases got with
        | productId =>
          cases h
          exact hspoiled
        | audio | voice | rate | gain | unknown =>
          -- the port stays spoiled through the rest of the search
          have := A.kept.awaitName r₁ n hspoiled
          rwa [show Session.awaitName r₁ n m₁ = _ from h] at this
    obtain ⟨hmasked, hfull₁⟩ := A.receive hfull hreceive hclean₁
    rw [hmasked]
    cases y with
    | error f =>
      cases h
      rfl
    | ok got =>
      cases got with
      | productId =>
        cases h
        rfl
      | audio | voice | rate | gain | unknown => exact ih hfull₁ h

theorem identify (A : MasksUnless Spoiled) (n : Nat) {r r' : Reader} {m m' : M}
    {x : Except Fault String} (hfull : r.lengthField = .full)
    (h : Session.identify r n m = (x, r', m')) (hclean : ¬ Spoiled m') :
    Session.identify r.masked n m = (x, r'.masked, m') := by
  unfold Session.identify at h ⊢
  rcases hsend : Port.send m productQuery with ⟨_ | _, m₁⟩
  all_goals
    rw [hsend] at h
    dsimp only at h ⊢
  · cases h
    rfl
  · exact A.awaitName n hfull h hclean

/-- Numbers and records of lines are nothing to it. -/
theorem lent (A : MasksUnless Spoiled) : MasksUnless fun m : Lent M => Spoiled m.line where
  kept := A.kept.lent
  close h := A.close h
  receive {r r' m m' x} hfull h hclean := by
    obtain ⟨hx, hrest⟩ := Prod.mk.inj h
    obtain ⟨hr', hm⟩ := Prod.mk.inj hrest
    subst hm
    obtain ⟨hmasked, hfull'⟩ := A.receive (m := m.line) hfull (Prod.ext hx (Prod.ext hr' rfl)) hclean
    refine ⟨?_, hfull'⟩
    exact congrArg (fun p => (p.1, p.2.1, { m with line := p.2.2 })) hmasked

end Port.MasksUnless

/-! ## Lines in custody -/

namespace Custody

variable {L : Type}

/-- The custody whose session has the mask. -/
def masked (y : Custody L) : Custody L :=
  { y with session := y.session.masked }

theorem session_masked (y : Custody L) : y.masked.session = y.session.masked := rfl

theorem takeDown_masked (y : Custody L) (number : Nat) :
    y.masked.takeDown number = (y.takeDown number).map fun (m, y') => (m, y'.masked) := by
  simp only [takeDown, masked, Option.map_map]
  rfl

variable [Port L] {Spoiled : L → Prop} {y : Custody L}

theorem release_masked : y.masked.release = y.release.masked := rfl

/-- No deed changes how a session is configured. -/
theorem invariant_config (c : SessionConfig) :
    Invariant (fun _ : Deed L => True) fun y => y.session.config = c where
  allowed_bring _ := trivial
  bring _ h := h
  change _ h := h
  release h := h
  hand {y m shelf} hclosed _ h := by
    obtain ⟨x, r, m', -, -, -, -, hhand⟩ := ({ y with shelf := shelf } : Custody L).hand_cases m hclosed
    rw [hhand]
    cases x with
    | ok name | error f => exact h
  call {y} d h := (Session.Kept.of_config c).call d h

theorem hand_masked (A : Port.MasksUnless Spoiled) (hfull : y.session.config.lengthField = .full)
    (hclosed : y.session.line = none) {m : Lent L} (hclean : ∀ m' ∈ (y.hand m).2.lines, ¬ Spoiled m'.line) :
    y.masked.hand m = ((y.hand m).1, (y.hand m).2.masked) := by
  obtain ⟨x, r, m', hidentify, -, -, -, hhand⟩ := y.hand_cases m hclosed
  obtain ⟨x', r', m'', hidentify', -, -, -, hhand'⟩ := y.masked.hand_cases m hclosed
  have hm' : ¬ Spoiled m'.line := by
    rw [hhand] at hclean
    cases x with
    | ok name => exact hclean m' List.mem_cons_self
    | error f =>
      -- it is closed on the shelf, and would be spoiled there, too
      intro hspoiled
      exact hclean (Port.close m') (by simp [lines]) (A.close hspoiled)
  have hmasked := A.lent.identify y.session.config.identifyAttempts (r := y.session.reader) hfull hidentify hm'
  rw [show Session.identify y.masked.session.reader y.masked.session.config.identifyAttempts _ =
    (x, r.masked, m') from hmasked] at hidentify'
  cases hidentify'
  rw [hhand, hhand']
  cases x with
  | ok name | error f => rfl

theorem attach_masked (A : Port.MasksUnless Spoiled) (hfull : y.session.config.lengthField = .full)
    {number : Nat} (hclean : ∀ m ∈ (y.attach number).2.lines, ¬ Spoiled m.line) :
    y.masked.attach number = ((y.attach number).1, (y.attach number).2.masked) := by
  unfold attach at hclean ⊢
  rw [release_masked, takeDown_masked]
  rcases htake : y.release.takeDown number with _ | ⟨m, y'⟩
  · rfl
  · rw [htake] at hclean
    obtain ⟨-, -, hy'⟩ := takeDown_eq htake
    have hclosed : y'.session.line = none := by
      rw [hy']
      rfl
    have hfull' : y'.session.config.lengthField = .full := by
      rw [hy']
      exact hfull
    exact hand_masked A hfull' hclosed hclean

theorem openLine_masked (A : Port.MasksUnless Spoiled) (hfull : y.session.config.lengthField = .full)
    {opened : Except Fault L} (hclean : ∀ m ∈ (y.openLine opened).2.lines, ¬ Spoiled m.line) :
    y.masked.openLine opened = ((y.openLine opened).1, (y.openLine opened).2.masked) := by
  cases opened with
  | error f => rfl
  | ok l =>
    rw [openLine_ok] at hclean ⊢
    rw [openLine_ok]
    exact hand_masked A (y := { y.release with fresh := y.fresh + 1 }) hfull rfl hclean

/-- **A deed is the same with the mask**, unless there is a spoiled line behind it. -/
theorem step_masked (A : Port.MasksUnless Spoiled) (hfull : y.session.config.lengthField = .full)
    {d : Deed L} (hclean : ∀ m ∈ (y.step d).2.lines, ¬ Spoiled m.line) :
    y.masked.step d = ((y.step d).1, (y.step d).2.masked) := by
  cases d with
  | bring l | change number f | close => rfl
  | attach number => simp only [step, attach_masked A hfull hclean]
  | openLine opened => simp only [step, openLine_masked A hfull hclean]
  | call c =>
    have hheld : ¬ (c.run y.session).2.Holds fun m => Spoiled m.line := by
      rintro ⟨m, hm, hspoiled⟩
      have hmem : m ∈ (y.step (.call c)).2.lines :=
        List.mem_append_left _ (Option.mem_toList.mpr hm)
      exact hclean m hmem hspoiled
    have hcall := A.lent.call hfull hheld
    simp only [step, session_masked, hcall]
    rfl

/-- What each of some deeds comes to, and the session and all lines behind it. -/
def history (y : Custody L) : List (Deed L) → List (Outcome × Custody L)
  | [] => []
  | d :: later => y.step d :: history (y.step d).2 later

theorem history_masked (A : Port.MasksUnless Spoiled) (hfull : y.session.config.lengthField = .full)
    {deeds : List (Deed L)} (hclean : ∀ p ∈ y.history deeds, ∀ m ∈ p.2.lines, ¬ Spoiled m.line) :
    y.masked.history deeds = (y.history deeds).map fun p => (p.1, p.2.masked) := by
  induction deeds generalizing y with
  | nil => rfl
  | cons d later ih =>
    obtain ⟨hd, hlater⟩ := List.forall_mem_cons.mp hclean
    have hfull' : (y.step d).2.session.config.lengthField = .full := by
      rw [(invariant_config y.session.config).step rfl trivial, hfull]
    simp only [history, List.map_cons, step_masked A hfull hd, ih hfull' hlater]

theorem map_history {M : Type} [Port M] {f : M → L} (E : Port.Erases f) {lift : Deed L → Deed M}
    (hlift : ∀ d, Deed.Over f (lift d) d) (y : Custody M) (deeds : List (Deed L)) :
    (y.map f).history deeds = (y.history (deeds.map lift)).map fun p => (p.1, p.2.map f) := by
  induction deeds generalizing y with
  | nil => rfl
  | cons d later ih => simp only [history, List.map_cons, map_step E (hlift d) y, ih (y.step (lift d)).2]

end Custody

/-! ## Refused lengths -/

/-- A line with a gauge of the packets that were refused for their length. -/
structure Gauged (L : Type) where
  line : L
  refused : Nat := 0

namespace Gauged

variable {L : Type} [Line L]

/-- How many packets a receive refused for their length, one or none. -/
def refusals : Except Fault Response → Nat
  | .error (.oversized ..) => 1
  | _ => 0

instance : Port (Gauged L) where
  send m bytes := ((Line.send m.line bytes).1, { m with line := (Line.send m.line bytes).2 })
  receive r m :=
    ((r.receive m.line).1, (r.receive m.line).2.1,
      { line := (r.receive m.line).2.2, refused := m.refused + refusals (r.receive m.line).1 })
  close m := { m with line := Line.close m.line }

theorem receive_eq {m : Gauged L} {r r' : Reader} {x : Except Fault Response} {l : L}
    (h : r.receive m.line = (x, r', l)) :
    Port.receive r m = (x, r', { line := l, refused := m.refused + refusals x }) := by
  show ((r.receive m.line).1, _, _) = _
  rw [h]

theorem erases : Port.Erases (Gauged.line : Gauged L → L) where
  send {m m' bytes x} hs := by
    obtain ⟨hx, hm⟩ := Prod.mk.inj hs
    subst hm
    exact Prod.ext hx rfl
  receive {c m m' r r' x} hr hs := by
    rcases hline : r.receive m.line with ⟨y, r₁, l⟩
    rw [receive_eq hline] at hs
    cases hs
    exact ⟨hline, Reader.fits_receive hr hline⟩
  close _ := rfl

/-- **Receiving is the same with the mask unless a length is refused.** -/
theorem masksUnless : Port.MasksUnless fun m : Gauged L => m.refused ≠ 0 where
  kept :=
    { send := fun _ h => h
      receive := fun _ h => Nat.ne_of_gt (Nat.add_pos_left (Nat.pos_of_ne_zero h) _) }
  close h := h
  receive {r r' m m' x} hfull h hclean := by
    rcases hline : r.receive m.line with ⟨y, r₁, l⟩
    rw [receive_eq hline] at h
    cases h
    have hnone : refusals x = 0 := by
      simp only [ne_eq, Decidable.not_not] at hclean
      omega
    have haccepted : ∀ n k, x ≠ .error (.oversized n k) := by
      rintro n k rfl
      cases hnone
    have hfits : r.Fits { lengthField := .full, responseTimeoutMs := r.timeoutMs } := ⟨hfull, rfl⟩
    exact ⟨receive_eq (Reader.receive_masked hfull hline haccepted), (Reader.fits_receive hfits hline).1⟩

end Gauged

variable {L : Type}

/-- A deed with lines that are gauged from the start. What happens to a line passes the gauge by. -/
def Deed.gauged : Deed L → Deed (Gauged L) :=
  Deed.lift (fun l => { line := l }) fun f m => { m with line := f m.line }

theorem Deed.over_gauged (d : Deed L) : Deed.Over Gauged.line d.gauged d :=
  Deed.over_lift (fun _ => rfl) (fun _ _ => rfl) d

namespace Custody

variable [Line L]

/-- **The mask changes nothing as long as no length is refused without it.** Whatever is done with a
session and any lines, and whatever the lines deliver: if no receive of the session that reads whole
lengths refuses one, also not in a reconfiguration whose failure the cache policy hides, then a session
that masks lengths and is otherwise configured alike comes to the same with every deed. Its outcome and
the caller's buffers are the same, and so are the session and all lines behind it. The gauges that tell
refused lengths change nothing about the run. -/
theorem masked_history (c : SessionConfig) (deeds : List (Deed L))
    (haccepted : ∀ p ∈ (start { c with lengthField := .full }).history (deeds.map Deed.gauged),
      ∀ m ∈ p.2.lines, m.line.refused = 0) :
    (start { c with lengthField := .masked }).history deeds =
        ((start { c with lengthField := .full }).history deeds).map (fun p => (p.1, p.2.masked)) ∧
      ((start { c with lengthField := .full }).history (deeds.map Deed.gauged)).map
          (fun p => (p.1, p.2.map Gauged.line)) =
        (start { c with lengthField := .full }).history deeds := by
  let y : Custody (Gauged L) := start { c with lengthField := .full }
  have hplain : (start { c with lengthField := .full } : Custody L).history deeds =
      (y.history (deeds.map Deed.gauged)).map fun p => (p.1, p.2.map Gauged.line) :=
    map_history Gauged.erases Deed.over_gauged y deeds
  have hmasked : (start { c with lengthField := .masked } : Custody L).history deeds =
      (y.masked.history (deeds.map Deed.gauged)).map fun p => (p.1, p.2.map Gauged.line) :=
    map_history Gauged.erases Deed.over_gauged y.masked deeds
  have hsame := history_masked Gauged.masksUnless (y := y) rfl fun p hp m hm => by
    simpa using haccepted p hp m hm
  refine ⟨?_, hplain.symm⟩
  rw [hmasked, hsame, hplain, List.map_map, List.map_map]
  rfl

/-- A line names itself, acknowledges a rate behind noise, and then breaks off in a packet of 326 bytes. -/
def breakingOff : List (Deed BenchLine) :=
  [ .bring
      { replies :=
          [ [0x61, 0x00, 0x02, 0x00, 0x30, 0x41],
            [0xff, 0x00, 0x61, 0x00, 0x01, 0x00, 0x0a],
            [0x61, 0x01, 0x42, 0x02, 0x00, 0xa0, 0x7f] ]
        readChunk := 2 },
    .attach 0,
    .call (.setRate .r2450),
    .call (.frame (.decode [1, 2, 3, 4, 5, 6, 7] (AudioBlock.fill 0) .r2450 0)) ]

theorem masked_history_breakingOff :
    (∀ p ∈ (start {}).history (breakingOff.map Deed.gauged), ∀ m ∈ p.2.lines, m.line.refused = 0) ∧
      (start { lengthField := .masked }).history breakingOff =
        ((start {}).history breakingOff).map (fun p => (p.1, p.2.masked)) := by
  have hnone : ((start {}).history (breakingOff.map Deed.gauged)).all
      (fun p => p.2.lines.all fun m => m.line.refused = 0) = true := by
    cbv
  have haccepted : ∀ p ∈ (start {}).history (breakingOff.map Deed.gauged), ∀ m ∈ p.2.lines,
      m.line.refused = 0 := fun p hp m hm =>
    of_decide_eq_true (List.all_eq_true.mp (List.all_eq_true.mp hnone p hp) m hm)
  exact ⟨haccepted, (masked_history {} breakingOff haccepted).1⟩

end Custody

end Vocoder
