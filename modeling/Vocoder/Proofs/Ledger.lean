import Mathlib
import Vocoder.Proofs.Interlude

/-!
# What the chip was told last

A session believes the chip to be at some rate and at some gains, and sends a frame without a request if
the frame needs nothing else. `Ledger` keeps, beside a session, what was written since the session was
attached, and of each entry whether the call that wrote it gave it up: a direct change that failed, or a
frame that failed with its reconfiguration.

* `Ledger.Sound` — the session believes what it was told last by an entry that was not given up. One lemma
  a move: `attach`, `interrupt`, `call`.
* `Ledger.frame_told` — so a frame goes out at the settings of the last entries that were not given up.
  Entries that were given up may be later: a frame is sent at the settings the chip was told last exactly
  if no such entry is in the way.
-/

namespace Vocoder

open Workbench (Outcome)

/-- A packet that was written. -/
structure Entry where
  packet : List UInt8
  /-- The call that wrote the packet reported that the change had failed. -/
  givenUp : Bool
  deriving DecidableEq, Repr

namespace Entry

def kept (packets : List (List UInt8)) : List Entry :=
  packets.map (⟨·, false⟩)

/-- The packets of one call, of which the last one may have been given up. -/
def ofCall (givenUp : Bool) : List (List UInt8) → List Entry
  | [] => []
  | [p] => [⟨p, givenUp⟩]
  | p :: later => ⟨p, false⟩ :: ofCall givenUp later

def latest (kind : Response) (es : List Entry) : Option Entry :=
  (es.filter fun e => Response.classify e.packet = kind).getLast?

/-- The latest entry of a kind that was not given up. -/
def latestKept (kind : Response) (es : List Entry) : Option Entry :=
  latest kind (es.filter fun e => !e.givenUp)

theorem kept_append (p q : List (List UInt8)) : kept (p ++ q) = kept p ++ kept q :=
  List.map_append

theorem ofCall_append_singleton (givenUp : Bool) (packets : List (List UInt8)) (p : List UInt8) :
    ofCall givenUp (packets ++ [p]) = kept packets ++ [⟨p, givenUp⟩] := by
  induction packets with
  | nil => rfl
  | cons q later ih =>
    have hstep : ofCall givenUp (q :: (later ++ [p])) =
        ⟨q, false⟩ :: ofCall givenUp (later ++ [p]) := by
      rcases later with _ | ⟨r, later⟩
      · rfl
      · rfl
    rw [List.cons_append, hstep, ih]
    rfl

theorem ofCall_false (packets : List (List UInt8)) : ofCall false packets = kept packets := by
  rcases List.eq_nil_or_concat packets with rfl | ⟨init, p, rfl⟩
  · rfl
  · rw [List.concat_eq_append, ofCall_append_singleton, kept, kept, List.map_append]
    rfl

theorem map_packet_ofCall (givenUp : Bool) (packets : List (List UInt8)) :
    (ofCall givenUp packets).map Entry.packet = packets := by
  rcases List.eq_nil_or_concat packets with rfl | ⟨init, p, rfl⟩
  · rfl
  · rw [List.concat_eq_append, ofCall_append_singleton, List.map_append, kept, List.map_map]
    simp only [Function.comp_def, List.map_id', List.map_cons, List.map_nil]

theorem latestKept_append (kind : Response) (es fs : List Entry) :
    latestKept kind (es ++ fs) = (latestKept kind fs).or (latestKept kind es) := by
  rw [latestKept, latest, List.filter_append, List.filter_append, List.getLast?_append]
  rfl

theorem latestKept_givenUp (kind : Response) (p : List UInt8) :
    latestKept kind [⟨p, true⟩] = none := rfl

theorem latestKept_kept_of_ne {kind : Response} {packets : List (List UInt8)}
    (h : ∀ p ∈ packets, Response.classify p ≠ kind) : latestKept kind (kept packets) = none := by
  have hnil : (kept packets).filter (fun e => Response.classify e.packet = kind) = [] := by
    refine List.filter_eq_nil_iff.mpr ?_
    intro e he
    obtain ⟨p, hp, rfl⟩ := List.mem_map.mp he
    simpa using h p hp
  have hkept : (kept packets).filter (fun e => !e.givenUp) = kept packets := by
    refine List.filter_eq_self.mpr ?_
    intro e he
    obtain ⟨p, -, rfl⟩ := List.mem_map.mp he
    rfl
  rw [latestKept, hkept, latest, hnil]
  rfl

/-- An entry that was not given up is the latest of the kept ones, too. -/
theorem latestKept_of_latest {kind : Response} {es : List Entry} {e : Entry}
    (h : latest kind es = some e) (he : e.givenUp = false) : latestKept kind es = some e := by
  obtain ⟨init, hinit⟩ := List.getLast?_eq_some_iff.mp h
  -- the two filters commute, so the last of the kind is still there after the other one
  have hcommute : (es.filter fun e => !e.givenUp).filter (fun e => Response.classify e.packet = kind) =
      (es.filter fun e => Response.classify e.packet = kind).filter fun e => !e.givenUp := by
    rw [List.filter_filter, List.filter_filter]
    refine List.filter_congr ?_
    intro e _
    exact Bool.and_comm ..
  rw [latestKept, latest, hcommute, hinit, List.filter_append, List.getLast?_append]
  simp [he]

theorem latestKept_of_latest_none {kind : Response} {es : List Entry} (h : latest kind es = none) :
    latestKept kind es = none := by
  have hnil : es.filter (fun e => Response.classify e.packet = kind) = [] :=
    List.getLast?_eq_none_iff.mp h
  have hno : ∀ e ∈ es, ¬ Response.classify e.packet = kind := by
    intro e he hk
    exact List.filter_eq_nil_iff.mp hnil e he (decide_eq_true hk)
  rw [latestKept, latest, List.getLast?_eq_none_iff, List.filter_eq_nil_iff]
  intro e he hk
  exact hno e (List.mem_filter.mp he).1 (of_decide_eq_true hk)

/-- What holds of the latest kept entry holds of the latest entry exactly if it holds of it in case it was
given up. -/
theorem latest_iff {kind : Response} {es : List Entry} {P : Option Entry → Prop}
    (h : P (latestKept kind es)) :
    P (latest kind es) ↔ ∀ e, latest kind es = some e → e.givenUp = true → P (some e) := by
  rcases hlatest : latest kind es with _ | e
  · rw [latestKept_of_latest_none hlatest] at h
    constructor
    · intro _ e he
      cases he
    · intro _
      exact h
  · constructor
    · intro hP e' he' _
      cases he'
      exact hP
    · intro hgivenUp
      cases he : e.givenUp with
      | true => exact hgivenUp e rfl he
      | false =>
        -- nothing given up is in the way
        rw [latestKept_of_latest hlatest he] at h
        exact h

theorem latestKept_kept_singleton {kind : Response} {p : List UInt8}
    (h : Response.classify p = kind) : latestKept kind (kept [p]) = some ⟨p, false⟩ := by
  simp [latestKept, latest, kept, h]

end Entry

/-! ## Kinds of requests -/

theorem Settings.classify_of_mem_rateStep {t : Settings} {rate : Rate} {p : List UInt8}
    (h : p ∈ t.rateStep rate) : Response.classify p = .rate := by
  rw [rateStep] at h
  split at h
  · cases h
  · exact classify_rateRequest (Option.mem_toList.mp h)

theorem Settings.classify_of_mem_gainStep {t : Settings} {d : Direction} {gain : Int} {p : List UInt8}
    (h : p ∈ t.gainStep d gain) : Response.classify p = .gain := by
  rw [gainStep] at h
  split at h
  · cases h
  · rw [List.mem_singleton.mp h]
    exact classify_gainRequest ..

/-! ## Settings that the chip was told -/

open Entry

/-- The settings are those of the last entries that were not given up. A session starts without gain, and
at the rate `none` there is nothing to tell. -/
structure Told (t : Settings) (es : List Entry) : Prop where
  rate : t.rate ≠ .none → (latestKept .rate es).map Entry.packet = t.rate.request?
  gain : match latestKept .gain es with
    | none => t.gainIn = 0 ∧ t.gainOut = 0
    | some e => e.packet = gainRequest t.gainIn t.gainOut

namespace Told

variable {t : Settings} {es : List Entry}

theorem nil : Told {} [] :=
  ⟨fun h => absurd rfl h, rfl, rfl⟩

/-- Entries of other kinds do not matter. -/
theorem append_of_none (h : Told t es) {fs : List Entry} (hrate : latestKept .rate fs = none)
    (hgain : latestKept .gain fs = none) : Told t (es ++ fs) := by
  constructor
  · rw [latestKept_append, hrate]
    exact h.rate
  · rw [latestKept_append, hgain]
    exact h.gain

theorem givenUp (h : Told t es) (p : List UInt8) : Told t (es ++ [⟨p, true⟩]) :=
  h.append_of_none (latestKept_givenUp ..) (latestKept_givenUp ..)

theorem withRate (h : Told t es) (rate : Rate) :
    Told (t.withRate rate) (es ++ kept rate.request?.toList) := by
  have hkind : ∀ p ∈ rate.request?.toList, Response.classify p = .rate :=
    fun p hp => classify_rateRequest (Option.mem_toList.mp hp)
  constructor
  · intro hrate
    obtain ⟨request, hrequest⟩ := Rate.exists_request hrate
    have hrequest : rate.request? = some request := hrequest
    show (latestKept .rate (es ++ kept rate.request?.toList)).map Entry.packet = rate.request?
    rw [hrequest, Option.toList_some, latestKept_append,
      latestKept_kept_singleton (classify_rateRequest hrequest)]
    rfl
  · rw [latestKept_append, latestKept_kept_of_ne fun p hp => by rw [hkind p hp]; decide]
    exact h.gain

theorem withGains (h : Told t es) (gainIn gainOut : Int) :
    Told { t with gainIn := gainIn, gainOut := gainOut } (es ++ kept [gainRequest gainIn gainOut]) := by
  have hkind := classify_gainRequest gainIn gainOut
  constructor
  · rw [latestKept_append, latestKept_kept_of_ne fun p hp => by
      rw [List.mem_singleton.mp hp, hkind]
      decide]
    exact h.rate
  · rw [latestKept_append, latestKept_kept_singleton hkind]
    rfl

theorem rateStep (h : Told t es) (rate : Rate) :
    Told (t.withRate rate) (es ++ kept (t.rateStep rate)) := by
  rw [Settings.rateStep]
  by_cases hsame : rate = t.rate
  · rw [if_pos hsame, Settings.withRate_self hsame]
    exact h.append_of_none rfl rfl
  · rw [if_neg hsame]
    exact h.withRate rate

theorem gainStep (h : Told t es) (d : Direction) (gain : Int) :
    Told (t.withGain d gain) (es ++ kept (t.gainStep d gain)) := by
  rw [Settings.gainStep]
  by_cases hsame : gain = t.gain d
  · rw [if_pos hsame, Settings.withGain_self hsame]
    exact h.append_of_none rfl rfl
  · rw [if_neg hsame]
    cases d with
    | input => exact h.withGains gain t.gainOut
    | output => exact h.withGains t.gainIn gain

/-- What comes before a frame. -/
theorem steps (h : Told t es) (f : FrameCall) :
    Told ((t.withRate f.rate).withGain f.direction f.gain)
      (es ++ kept (t.rateStep f.rate ++ t.gainStep f.direction f.gain)) := by
  have := (h.rateStep f.rate).gainStep f.direction f.gain
  rw [Settings.gainStep_withRate, List.append_assoc, ← kept_append] at this
  exact this

end Told

/-! ## Ledgers -/

variable {L : Type} [Port L] [Recording L]

theorem Session.Wrote.drop_taken {s s' : Session L} {packets : List (List UInt8)} {i j : Nat}
    (h : s.Wrote s' packets i j) : s'.taken.drop s.taken.length = packets := by
  rw [h.taken, List.drop_left]

theorem Session.taken_of_closed {s : Session L} (h : s.isOpen = false) : s.taken = [] := by
  rw [isOpen] at h
  cases hl : s.line with
  | none =>
    rw [taken, hl]
    rfl
  | some l =>
    rw [hl] at h
    cases h

/-- A session and what it wrote since it was attached. -/
structure Ledger (L : Type) where
  session : Session L
  /-- What the port had taken when the session was attached. -/
  before : List (List UInt8) := []
  entries : List Entry := []

/-- What may happen to a session. -/
inductive Move (L : Type) [Port L] [Recording L] where
  /-- It is attached to a port that takes requests. -/
  | attach (l : L) (h : Recording.Accepts l)
  | interrupt (i : Interlude L)
  | call (c : Call)

/-- Whether a call reports that a change failed: a direct change by any fault, a frame by the fault of its
reconfiguration. -/
def Call.gaveUp : Call → Outcome → Bool
  | .frame _, o =>
    match o.fault? with
    | some (.reconfigurationFailed _) => true
    | _ => false
  | _, o => o.fault?.isSome

theorem Call.gaveUp_reconfigurationFailed (f : FrameCall) (what : String) :
    (Call.frame f).gaveUp (f.failed (.reconfigurationFailed what)) = true := by
  rw [gaveUp, FrameCall.fault_failed]

theorem Call.gaveUp_of_fault {f : FrameCall} {o : Outcome}
    (h : ∀ e, o.fault? = some e → ¬ e.IsReconfiguration) : (Call.frame f).gaveUp o = false := by
  rw [gaveUp]
  split
  · rename_i what he
    exact absurd trivial (h _ he)
  · rfl

namespace Ledger

def start (c : SessionConfig) : Ledger L :=
  { session := { config := c } }

def writtenBy (b : Ledger L) (c : Call) : List (List UInt8) :=
  (c.run b.session).2.taken.drop b.session.taken.length

/-- Make a call and enter what it writes. -/
def call (b : Ledger L) (c : Call) : Ledger L :=
  { b with
    session := (c.run b.session).2
    entries := b.entries ++ Entry.ofCall (c.gaveUp (c.run b.session).1) (b.writtenBy c) }

def step (b : Ledger L) : Move L → Ledger L
  | .attach l _ =>
    match b.session.attach l with
    | (_, s, _) => { session := s, before := s.taken, entries := [] }
  | .interrupt i => { b with session := b.session.interrupt i }
  | .call c => b.call c

def run (b : Ledger L) (moves : List (Move L)) : Ledger L :=
  moves.foldl step b

/-- The session is closed; or it is open on a port that took just the entries since it was attached, and
it believes what it told the chip last. -/
inductive Sound (b : Ledger L) : Prop where
  | closed (h : b.session.isOpen = false)
  | opened (ready : b.session.Ready)
    (taken : b.session.taken = b.before ++ b.entries.map Entry.packet)
    (told : Told b.session.settings b.entries)

namespace Sound

variable {b : Ledger L}

theorem start (c : SessionConfig) : Sound (start c : Ledger L) :=
  .closed rfl

/-- Attaching begins a new account, or leaves the session closed. -/
theorem attach (b : Ledger L) (l : L) (h : Recording.Accepts l) : Sound (b.step (.attach l h)) := by
  rw [Ledger.step]
  rcases hattach : b.session.attach l with ⟨_ | _, s, released⟩
  · refine .closed ?_
    rw [Session.attach] at hattach
    dsimp only [Session.close] at hattach
    rcases hidentify : Session.identify ({ b.session with line := none } : Session L).reader
      b.session.config.identifyAttempts l with ⟨_ | name, r, l'⟩
    all_goals
      rw [hidentify] at hattach
      cases hattach
    rfl
  · obtain ⟨hready, -, -, hsettings, -⟩ := Session.attach_spec h hattach
    refine .opened hready (List.append_nil _).symm ?_
    show Told s.settings []
    rw [hsettings]
    exact .nil

theorem interrupt (h : Sound b) (i : Interlude L) : Sound (b.step (.interrupt i)) := by
  cases h with
  | closed h =>
    refine .closed ?_
    rw [Session.isOpen] at h
    show (b.session.line.map i.act).isSome = false
    rw [Option.isSome_map, h]
  | opened ready taken told =>
    have hw := Session.wrote_interrupt ready i
    refine .opened hw.ready ?_ told
    show (b.session.interrupt i).taken = _
    rw [hw.taken, List.append_nil]
    exact taken

/-- What a session writes is entered, and told if the session believes it afterwards. -/
theorem of_wrote (taken : b.session.taken = b.before ++ b.entries.map Entry.packet) {c : Call}
    {packets : List (List UInt8)} {i j : Nat} (hw : b.session.Wrote (c.run b.session).2 packets i j)
    (told : Told (c.run b.session).2.settings
      (b.entries ++ Entry.ofCall (c.gaveUp (c.run b.session).1) packets)) : Sound (b.call c) := by
  have hwritten : b.writtenBy c = packets := hw.drop_taken
  refine .opened hw.ready ?_ ?_
  · show (c.run b.session).2.taken = b.before ++ (b.entries ++ _).map Entry.packet
    rw [hwritten, List.map_append, map_packet_ofCall, hw.taken, taken, List.append_assoc]
  · show Told (c.run b.session).2.settings (b.entries ++ _)
    rw [hwritten]
    exact told

/-- A frame call enters the settings that it told the chip, then its packet. A change that failed is entered
as given up. -/
theorem frame (ready : b.session.Ready)
    (taken : b.session.taken = b.before ++ b.entries.map Entry.packet)
    (told : Told b.session.settings b.entries) (f : FrameCall) : Sound (b.call (.frame f)) := by
  have hcourse := f.course ready
  rcases hrun : f.run b.session with ⟨o, s'⟩
  rw [hrun] at hcourse
  have hcall : (Call.frame f).run b.session = (o, s') := hrun
  cases hcourse with
  | tooSmall hfits =>
    refine of_wrote taken (by rw [hcall]; exact .nil ready) ?_
    rw [hcall, Entry.ofCall, List.append_nil]
    exact told
  | rateGivenUp hpolicy hother hrequest hw ht ho =>
    refine of_wrote taken (by rw [hcall]; exact hw) ?_
    rw [hcall, ho, Call.gaveUp_reconfigurationFailed, ht]
    exact told.givenUp _
  | gainGivenUp hpolicy hother hw ht ho =>
    -- only the last packet is given up: a rate ahead of it was adopted
    refine of_wrote taken (by rw [hcall]; exact hw) ?_
    rw [hcall, ho, Call.gaveUp_reconfigurationFailed, ht, Settings.gainStep, if_neg hother,
      ofCall_append_singleton, ← List.append_assoc]
    exact (told.rateStep f.rate).givenUp _
  | sent hfits hw ht hfault =>
    refine of_wrote taken (by rw [hcall]; exact hw) ?_
    rw [hcall, Call.gaveUp_of_fault hfault, ht, ofCall_false, kept_append, ← List.append_assoc]
    exact (told.steps f).append_of_none (latestKept_kept_of_ne fun p hp => by
        rw [List.mem_singleton.mp hp]
        exact f.classify_packet.1)
      (latestKept_kept_of_ne fun p hp => by
        rw [List.mem_singleton.mp hp]
        exact f.classify_packet.2)

/-- One lemma for every call: what it can write is known from its cases. -/
theorem call (h : Sound b) (c : Call) : Sound (b.call c) := by
  cases h with
  | closed h => exact .closed ((c.isOpen_run b.session).trans h)
  | opened ready taken told =>
    cases c with
    | setRate rate =>
      rcases hrun : b.session.setRate rate with ⟨x, s'⟩
      have hcall : (Call.setRate rate).run b.session = (.finished x, s') := by rw [Call.run, hrun]
      rcases Session.setRate_cases ready hrun with ⟨rfl, hw, ht⟩ | ⟨f, request, rfl, -, hw, ht⟩
      · refine of_wrote taken (by rw [hcall]; exact hw) ?_
        rw [hcall, ht]
        show Told _ (b.entries ++ Entry.ofCall false _)
        rw [ofCall_false]
        exact told.withRate rate
      · refine of_wrote taken (by rw [hcall]; exact hw) ?_
        rw [hcall, ht]
        exact told.givenUp request
    | setGain gainIn gainOut =>
      rcases hrun : b.session.setGain gainIn gainOut with ⟨x, s'⟩
      have hcall : (Call.setGain gainIn gainOut).run b.session = (.finished x, s') := by
        rw [Call.run, hrun]
      obtain ⟨hw, ⟨rfl, ht⟩ | ⟨⟨f, rfl⟩, ht⟩⟩ := Session.setGain_cases ready hrun
      · refine of_wrote taken (by rw [hcall]; exact hw) ?_
        rw [hcall, ht]
        exact told.withGains gainIn gainOut
      · refine of_wrote taken (by rw [hcall]; exact hw) ?_
        rw [hcall, ht]
        exact told.givenUp _
    | frame f => exact frame ready taken told f

/-- A whole run. Induction on the moves, one lemma for each. -/
theorem run (h : Sound b) (moves : List (Move L)) : Sound (b.run moves) := by
  induction moves generalizing b with
  | nil => exact h
  | cons m later ih =>
    cases m with
    | attach l hl => exact ih (attach b l hl)
    | interrupt i => exact ih (h.interrupt i)
    | call c => exact ih (h.call c)

theorem writtenBy_of_closed (h : b.session.isOpen = false) (c : Call) : b.writtenBy c = [] := by
  have hclosed := (c.isOpen_run b.session).trans h
  rw [writtenBy, Session.taken_of_closed hclosed, List.drop_nil]

/-- A frame that goes out is entered last, behind entries that told the chip its rate and its gain. -/
theorem frame_sent (h : Sound b) (f : FrameCall) (hsent : f.packet ∈ b.writtenBy (.frame f)) :
    ∃ earlier t, (b.call (.frame f)).entries = earlier ++ [⟨f.packet, false⟩] ∧ Told t earlier ∧
      t.rate = f.rate ∧ t.gain f.direction = f.gain := by
  cases h with
  | closed h =>
    rw [writtenBy_of_closed h] at hsent
    cases hsent
  | opened ready taken told =>
    have hcourse := f.course ready
    -- requests are of other kinds than frames, so only the last course writes the frame's packet
    have hrate : ∀ p ∈ b.session.settings.rateStep f.rate, p ≠ f.packet := fun p hp h =>
      f.classify_packet.1 (by rw [← h]; exact Settings.classify_of_mem_rateStep hp)
    have hgain : ∀ p ∈ b.session.settings.gainStep f.direction f.gain, p ≠ f.packet := fun p hp h =>
      f.classify_packet.2 (by rw [← h]; exact Settings.classify_of_mem_gainStep hp)
    rcases hrun : f.run b.session with ⟨o, s'⟩
    rw [hrun] at hcourse
    have hcall : (Call.frame f).run b.session = (o, s') := hrun
    rw [writtenBy, hcall] at hsent
    cases hcourse with
    | tooSmall hfits =>
      rw [(Session.Wrote.nil ready).drop_taken] at hsent
      cases hsent
    | rateGivenUp hpolicy hother hrequest hw ht ho =>
      rw [hw.drop_taken, List.mem_singleton] at hsent
      exact absurd (classify_rateRequest hrequest) (hsent ▸ f.classify_packet.1)
    | gainGivenUp hpolicy hother hw ht ho =>
      rw [hw.drop_taken] at hsent
      rcases List.mem_append.mp hsent with hmem | hmem
      · exact absurd rfl (hrate _ hmem)
      · exact absurd rfl (hgain _ hmem)
    | sent hfits hw ht hfault =>
      refine ⟨b.entries ++ kept _, _, ?_, told.steps f, ?_, ?_⟩
      · show b.entries ++ Entry.ofCall _ (b.writtenBy (.frame f)) = _
        rw [writtenBy, hcall, Call.gaveUp_of_fault hfault, hw.drop_taken, ofCall_false, kept_append,
          ← List.append_assoc]
        rfl
      · cases f.direction <;> rfl
      · cases f.direction <;> rfl

end Sound

/-! ## Frames go out at what the chip was told -/

/-- The byte of a gain request that carries the gain of a direction. -/
def gainIndex : Direction → Nat
  | .input => 5
  | .output => 6

/-- What the chip was told last is this rate; there is nothing to tell for the rate `none`. -/
def TellsRate (rate : Rate) (e : Option Entry) : Prop :=
  rate ≠ .none → e.map Entry.packet = rate.request?

/-- What the chip was told last carries this gain, clamped, in its direction; without a request the chip
is without gain. -/
def TellsGain (d : Direction) (gain : Int) : Option Entry → Prop
  | none => gain = 0
  | some e => signedByte (e.packet.getD (gainIndex d) 0) = clampGain gain

theorem tellsGain_of_told {t : Settings} {es : List Entry} (h : Told t es) (d : Direction) :
    TellsGain d (t.gain d) (latestKept .gain es) := by
  have hgain := h.gain
  rcases hlatest : latestKept .gain es with _ | e
  all_goals rw [hlatest] at hgain
  · cases d with
    | input => exact hgain.1
    | output => exact hgain.2
  · have hpacket : e.packet = gainRequest t.gainIn t.gainOut := hgain
    rw [TellsGain, hpacket]
    cases d with
    | input => exact signedByte_gainByte t.gainIn
    | output => exact signedByte_gainByte t.gainOut

/-- **A frame goes out at the settings that the chip was told last and that were not given up.** In every
run, over either policy and whatever is heard, what the port took since the session was attached are the
entries of the ledger; and when a frame's packet is written, it comes behind entries of which the latest
kept one of each kind tells the frame's rate, and carries its gain. So the latest entry of each kind does
exactly if it was kept, or was given up but tells the same. -/
theorem frame_told (c : SessionConfig) (moves : List (Move L)) (f : FrameCall) :
    let b := (start c : Ledger L).run moves
    let b' := b.call (.frame f)
    f.packet ∈ b.writtenBy (.frame f) →
      b'.session.taken = b'.before ++ b'.entries.map Entry.packet ∧
      ∃ earlier, b'.entries = earlier ++ [⟨f.packet, false⟩] ∧
        TellsRate f.rate (latestKept .rate earlier) ∧
        (TellsRate f.rate (latest .rate earlier) ↔
          ∀ e, latest .rate earlier = some e → e.givenUp = true → TellsRate f.rate (some e)) ∧
        TellsGain f.direction f.gain (latestKept .gain earlier) ∧
        (TellsGain f.direction f.gain (latest .gain earlier) ↔
          ∀ e, latest .gain earlier = some e → e.givenUp = true →
            TellsGain f.direction f.gain (some e)) := by
  intro b b' hsent
  have hsound : Sound b := (Sound.start c).run moves
  obtain ⟨earlier, t, hentries, told, hrate, hgain⟩ := hsound.frame_sent f hsent
  have hkeptRate : TellsRate f.rate (latestKept .rate earlier) := by
    rw [← hrate]
    exact told.rate
  have hkeptGain : TellsGain f.direction f.gain (latestKept .gain earlier) := by
    rw [← hgain]
    exact tellsGain_of_told told f.direction
  refine ⟨?_, earlier, hentries, hkeptRate, latest_iff hkeptRate, hkeptGain, latest_iff hkeptGain⟩
  cases hsound.call (.frame f) with
  | closed h =>
    -- a session that is closed behind the call was closed ahead of it
    have hopen : b.session.isOpen = false := (Call.isOpen_run (.frame f) b.session).symm.trans h
    rw [Sound.writtenBy_of_closed hopen] at hsent
    cases hsent
  | opened ready taken told => exact taken

/-- A decoding at a rate and with a gain, of a frame that is all zero. -/
def zeroFrame (rate : Rate) (gain : Int) : FrameCall :=
  .decode (List.replicate rate.voiceBytes 0) (AudioBlock.fill 0) rate gain

/-- A bench line that answers the identification, and then as told. -/
def answering (replies : List (List UInt8)) : Move BenchLine :=
  .attach { replies := [0x61, 0x00, 0x02, 0x00, 0x30, 0x41] :: replies } ⟨rfl, rfl⟩

/-- The gains are acknowledged, a rate is not, and then the line falls silent. -/
def silentMoves : List (Move BenchLine) :=
  [ answering [[0x61, 0x00, 0x02, 0x00, 0x4b, 0x00]],
    .call (.setGain 200 (-7)),
    .call (.setRate .r4400),
    .interrupt (.ofBench [.failReads true] (by decide)) ]

/-- Behind these moves a frame at another rate tells its rate, and the gain it needs was told before. -/
theorem frame_told_silentMoves :
    (zeroFrame .r2450 (-7)).packet ∈
        ((start {}).run silentMoves).writtenBy (.frame (zeroFrame .r2450 (-7))) ∧
      ∃ earlier, (((start {}).run silentMoves).call (.frame (zeroFrame .r2450 (-7)))).entries =
          earlier ++ [⟨(zeroFrame .r2450 (-7)).packet, false⟩] ∧
        TellsRate .r2450 (latestKept .rate earlier) ∧
        TellsGain .output (-7) (latestKept .gain earlier) := by
  have hwritten : ((start {}).run silentMoves).writtenBy (.frame (zeroFrame .r2450 (-7))) =
      Rate.r2450.request?.toList ++ [(zeroFrame .r2450 (-7)).packet] := by
    cbv
  have hsent : (zeroFrame .r2450 (-7)).packet ∈
      ((start {}).run silentMoves).writtenBy (.frame (zeroFrame .r2450 (-7))) := by
    rw [hwritten]
    exact List.mem_append_right _ List.mem_cons_self
  obtain ⟨-, earlier, hentries, hrate, -, hgain, -⟩ :=
    frame_told {} silentMoves (zeroFrame .r2450 (-7)) hsent
  exact ⟨hsent, earlier, hentries, hrate, hgain⟩

/-- A direct change to another rate fails after a frame. -/
def failedSetRate : List (Move BenchLine) :=
  [answering [], .call (.frame (zeroFrame .r2450 0)), .call (.setRate .r4400)]

/-- A frame at another rate fails with its reconfiguration after a frame whose rate was acknowledged. -/
def failedFrame : List (Move BenchLine) :=
  [ answering [[0x61, 0x00, 0x02, 0x00, 0x0a, 0x00]],
    .call (.frame (zeroFrame .r2450 0)),
    .call (.frame (zeroFrame .r4400 0)) ]

def failedSetGain : List (Move BenchLine) :=
  [answering [], .call (.setGain 5 5)]

/-- **What was given up may be in the way.** Under either policy a frame goes out while the rate told last
is another one, and while the gain told last is: the change to it had failed, and the frame went back to
what the session believes. -/
theorem exists_frame_not_told :
    (∃ (moves : List (Move BenchLine)) (f : FrameCall),
      f.packet ∈ ((start { cachePolicy := .always }).run moves).writtenBy (.frame f) ∧
        ¬ TellsRate f.rate
          (latest .rate (((start { cachePolicy := .always }).run moves).call (.frame f)).entries)) ∧
    (∃ (moves : List (Move BenchLine)) (f : FrameCall),
      f.packet ∈ ((start { cachePolicy := .onSuccess }).run moves).writtenBy (.frame f) ∧
        ¬ TellsRate f.rate
          (latest .rate (((start { cachePolicy := .onSuccess }).run moves).call (.frame f)).entries)) ∧
    ∃ (moves : List (Move BenchLine)) (f : FrameCall),
      f.packet ∈ ((start { cachePolicy := .always }).run moves).writtenBy (.frame f) ∧
        ¬ TellsGain f.direction f.gain
          (latest .gain (((start { cachePolicy := .always }).run moves).call (.frame f)).entries) := by
  refine ⟨⟨failedSetRate, zeroFrame .r2450 0, ?_, ?_⟩, ⟨failedFrame, zeroFrame .r2450 0, ?_, ?_⟩,
    ⟨failedSetGain, zeroFrame .none 0, ?_, ?_⟩⟩
  · have hwritten : ((start { cachePolicy := .always }).run failedSetRate).writtenBy
        (.frame (zeroFrame .r2450 0)) = [(zeroFrame .r2450 0).packet] := by
      cbv
    rw [hwritten]
    exact List.mem_cons_self
  · have hlatest : (latest .rate (((start { cachePolicy := .always }).run failedSetRate).call
        (.frame (zeroFrame .r2450 0))).entries).map Entry.packet = Rate.r4400.request? := by
      cbv
    intro h
    exact absurd (hlatest.symm.trans (h (by decide))) (by decide)
  · have hwritten : ((start { cachePolicy := .onSuccess }).run failedFrame).writtenBy
        (.frame (zeroFrame .r2450 0)) = [(zeroFrame .r2450 0).packet] := by
      cbv
    rw [hwritten]
    exact List.mem_cons_self
  · have hlatest : (latest .rate (((start { cachePolicy := .onSuccess }).run failedFrame).call
        (.frame (zeroFrame .r2450 0))).entries).map Entry.packet = Rate.r4400.request? := by
      cbv
    intro h
    exact absurd (hlatest.symm.trans (h (by decide))) (by decide)
  · have hwritten : ((start { cachePolicy := .always }).run failedSetGain).writtenBy
        (.frame (zeroFrame .none 0)) = [(zeroFrame .none 0).packet] := by
      cbv
    rw [hwritten]
    exact List.mem_cons_self
  · have hlatest : latest .gain (((start { cachePolicy := .always }).run failedSetGain).call
        (.frame (zeroFrame .none 0))).entries = some ⟨gainRequest 5 5, true⟩ := by
      cbv
    rw [hlatest]
    show ¬ signedByte ((gainRequest 5 5).getD 6 0) = clampGain 0
    decide

end Ledger

end Vocoder
