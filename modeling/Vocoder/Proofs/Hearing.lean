import Mathlib
import Vocoder.Proofs.Custody
import Vocoder.Proofs.Devices
import Vocoder.Proofs.Faults
import Vocoder.Proofs.Resumption

/-!
# What a device hears

A scripted device behind a link logs the requests it receives. A device that let itself be identified hears
everything from then on, so its log says what the session sent, request by request.

* **`Link.Heard`** — a link to a device that hears, and what it has received.
* **`Metered.kept_heard`** — sending a request adds it to the log of the device, receiving adds nothing.
* **`Session.openLine_heard`** — after a line was opened the device has received the query.
* **`FrameCall.standing`** — under the policy `always` a frame that fits is written, after the requests for
  the settings it needs and whatever the answers to these are.
-/

namespace Vocoder

/-! ## Links to devices -/

namespace Link

/-- There is a scripted device at the far end, and it is not in the middle of a request. -/
def Rests : Link → Prop
  | bench _ | datagram _ => False
  | datagramDevice _ => True
  | serialDevice d => d.unfinished = []

/-- There is a scripted device at the far end that hears what is sent. -/
def Hears : Link → Prop
  | bench _ | datagram _ => False
  | datagramDevice d => d.Hears
  | serialDevice d => d.Hears

/-- The device at the far end hears, and has received these requests. -/
def Heard (requests : List (List UInt8)) (l : Link) : Prop :=
  l.Hears ∧ l.requests? = some requests

variable {requests : List (List UInt8)} {l l' : Link}

theorem send_wrapped {L : Type} [Line L] (wrap : L → Link)
    (hwrite : ∀ l bytes, Line.write (wrap l) bytes = put wrap (Line.write l bytes)) (l : L)
    (bytes : List UInt8) : Line.send (wrap l) bytes = put wrap (Line.send l bytes) := by
  unfold Line.send
  rw [hwrite]
  rcases Line.write l bytes with ⟨f | n, l'⟩
  · rfl
  · simp only [put]
    split <;> rfl

theorem send_datagramDevice (d : DatagramDevice) (bytes : List UInt8) :
    Line.send (datagramDevice d) bytes = put datagramDevice (Line.send d bytes) :=
  send_wrapped datagramDevice (fun _ _ => rfl) d bytes

theorem send_serialDevice (d : SerialDevice) (bytes : List UInt8) :
    Line.send (serialDevice d) bytes = put serialDevice (Line.send d bytes) :=
  send_wrapped serialDevice (fun _ _ => rfl) d bytes

theorem Heard.send (h : Heard requests l) {request : List UInt8} (hq : IsRequest request) :
    ∃ l', Line.send l request = (.ok (), l') ∧ Heard (requests ++ [request]) l' := by
  obtain ⟨hears, hlog⟩ := h
  cases l with
  | bench | datagram => exact hears.elim
  | datagramDevice d =>
    have hears : d.Hears := hears
    rw [send_datagramDevice, DatagramDevice.send_eq hears]
    refine ⟨_, rfl, DatagramDevice.hears_answered hears request, ?_⟩
    rw [← Option.some.inj hlog]
    rfl
  | serialDevice d =>
    have hears : d.Hears := hears
    rw [send_serialDevice, SerialDevice.send_request hears hq]
    refine ⟨_, rfl, SerialDevice.hears_answered hears request, ?_⟩
    rw [← Option.some.inj hlog]
    rfl

theorem Heard.prepare (h : Heard requests l) : Heard requests (Line.prepare l).2 := by
  obtain ⟨hears, hlog⟩ := h
  cases l with
  | bench | datagram => exact hears.elim
  | datagramDevice d =>
    have hears : d.Hears := hears
    have hline : (d.line.prepare.2).isOpen = true ∧ (d.line.prepare.2).route = .up := by
      unfold DatagramLine.prepare
      rw [if_pos hears.isOpen]
      split <;> exact ⟨hears.isOpen, hears.route⟩
    exact ⟨⟨hline.1, hline.2⟩, hlog⟩
  | serialDevice d => exact ⟨hears, hlog⟩

theorem Heard.read (h : Heard requests l) (n : Nat) : Heard requests (Line.read l n).2 := by
  obtain ⟨hears, hlog⟩ := h
  cases l with
  | bench | datagram => exact hears.elim
  | datagramDevice d =>
    have hears : d.Hears := hears
    have hread : (d.line.read n).2.isOpen = true ∧ (d.line.read n).2.route = .up := by
      unfold DatagramLine.read
      rw [if_pos hears.isOpen]
      exact ⟨hears.isOpen, hears.route⟩
    exact ⟨⟨hread.1, hread.2⟩, hlog⟩
  | serialDevice d =>
    have hears : d.Hears := hears
    have hread : (d.line.read n).2.isOpen = true ∧ (d.line.read n).2.hungUp = false := by
      unfold SerialLine.read
      split
      · exact ⟨hears.isOpen, hears.hungUp⟩
      · split <;> exact ⟨hears.isOpen, hears.hungUp⟩
    exact ⟨⟨hread.1, hread.2, hears.unfinished⟩, hlog⟩

/-- A reader sees the same, whether or not one minds what the device has received. -/
theorem alike_heard (requests : List (List UInt8)) :
    Line.Alike fun l m : Link => m = l ∧ Heard requests l where
  prepare := by
    rintro l l' _ x ⟨rfl, h⟩ hprepare
    have h' := h.prepare
    rw [hprepare] at h'
    exact ⟨l', hprepare, rfl, h'⟩
  read := by
    rintro l l' _ n x ⟨rfl, h⟩ hread
    have h' := h.read n
    rw [hread] at h'
    exact ⟨l', hread, rfl, h'⟩

theorem Heard.receive (h : Heard requests l) {r r' : Reader} {x : Except Fault Response}
    (hs : r.receive l = (x, r', l')) : Heard requests l' := by
  obtain ⟨-, -, -, h'⟩ := Reader.receive_alike (alike_heard requests) ⟨rfl, h⟩ hs
  exact h'

/-- A device hears if it has let itself be asked for its name. -/
theorem hears_of_send (h : l.Rests) (hs : Line.send l productQuery = (.ok (), l')) : l.Hears := by
  cases l with
  | bench | datagram => exact h.elim
  | datagramDevice d =>
    have hopen : d.line.isOpen = true := by
      by_contra hclosed
      rw [send_datagramDevice, DatagramDevice.send_of_closed (by simpa using hclosed)] at hs
      cases hs
    have hroute : d.line.route = .up := by
      cases hroute : d.line.route with
      | up => rfl
      | down =>
        have hwrite : Line.write d productQuery = (.error (.write Route.unreachable), d) := by
          show d.write productQuery = _
          simp [DatagramDevice.write, DatagramLine.write, hopen, hroute]
        rw [send_datagramDevice, Line.send, hwrite] at hs
        cases hs
    exact ⟨hopen, hroute⟩
  | serialDevice d =>
    have hopen : d.line.isOpen = true := by
      by_contra hclosed
      rw [send_serialDevice, SerialDevice.send_of_closed (by simpa using hclosed)] at hs
      cases hs
    have hthere : d.line.hungUp = false := by
      by_contra hgone
      have hwrite : Line.write d productQuery = (.error (.write SerialLine.gone), d) := by
        show d.write productQuery = _
        simp_all [SerialDevice.write, SerialLine.write]
      rw [send_serialDevice, Line.send, hwrite] at hs
      cases hs
    exact ⟨hopen, hthere, h⟩

end Link

/-! ## Devices on the meter -/

/-- The device has received what it had received before, and what is on the meter. -/
def Metered.Heard (before : List (List UInt8)) (m : Metered Link) : Prop :=
  m.line.Heard (before ++ m.writings.map Writing.bytes)

theorem Metered.kept_heard (before : List (List UInt8)) : Port.Kept (Metered.Heard before) where
  send {m bytes} hbytes h := by
    obtain ⟨l', hsend, h'⟩ := Link.Heard.send h hbytes
    rw [Metered.send_eq hsend]
    show Link.Heard _ l'
    rw [List.map_append, ← List.append_assoc]
    exact h'
  receive {m} r h := by
    rcases hreceive : r.receive m.line with ⟨x, r', l'⟩
    rw [Metered.receive_eq hreceive]
    exact Link.Heard.receive h hreceive

/-- The session on a meter that stands at nothing. -/
def Session.metered (s : Session Link) : Session (Metered Link) :=
  s.mapLine fun l => { line := l }

theorem Session.line_metered {s : Session Link} {l : Link} (hline : s.line = some l) :
    s.metered.line = some { line := l } := by
  show s.line.map _ = _
  rw [hline]
  rfl

theorem Session.mapLine_metered (s : Session Link) : s.metered.mapLine Metered.line = s := by
  cases s with
  | mk config line held settings productName stats => cases line <;> rfl

/-- The session holds a device that hears it, and that has received these requests. -/
def Session.Heard (requests : List (List UInt8)) (s : Session Link) : Prop :=
  ∃ l, s.line = some l ∧ l.Heard requests

/-- **Opening a line to a device** that then identifies itself: it was asked, and it hears from now on. -/
theorem Session.openLine_heard {s : Session Link} {l : Link} {before : List (List UInt8)}
    (hrests : l.Rests) (hbefore : l.requests? = some before)
    (hopened : (s.openLine (.ok l)).1 = .ok ()) :
    let s' := (s.openLine (.ok l)).2.1
    s'.Heard (before ++ [productQuery]) ∧ s'.config = s.config ∧ s'.settings = {} ∧ s'.stats = {} := by
  intro s'
  -- the session over a metered link is closed first, as the other one is
  let m : Session (Metered Link) := { s with line := none }
  have herase : ({ s with line := none } : Session Link).attach l =
      ((m.attach { line := l }).1, (m.attach { line := l }).2.1.mapLine Metered.line,
        (m.attach { line := l }).2.2.map Metered.line) := Metered.erases.attach m { line := l }
  have hs' : s' = (m.attach { line := l }).2.1.mapLine Metered.line := congrArg (·.2.1) herase
  have hok : (m.attach { line := l }).1 = .ok () := by
    rw [← hopened]
    exact (congrArg (·.1) herase).symm
  rcases hattach : m.attach { line := l } with ⟨x, m', released⟩
  rw [hattach] at hok hs'
  have hx : x = .ok () := hok
  subst hx
  obtain ⟨-, hconfig, htaken, hsettings, hstats⟩ := attach_spec trivial hattach
  refine ⟨?_, by rw [hs']; exact hconfig, by rw [hs']; exact hsettings, by rw [hs']; exact hstats⟩
  rcases m.attach_cases { line := l } with ⟨name, r, l', hidentify, hcase⟩ | ⟨f, r, l', -, hcase⟩
  all_goals
    rw [hattach] at hcase
    cases hcase
  obtain ⟨l₁, hsend⟩ := send_of_identify hidentify
  have hears : l.Hears := by
    rcases hline : Line.send l productQuery with ⟨y, l₂⟩
    rw [Metered.send_eq hline] at hsend
    cases hsend
    exact Link.hears_of_send hrests hline
  have hheard := (Metered.kept_heard before).identify m.reader m.config.identifyAttempts
    (l := { line := l }) ⟨hears, by simpa using hbefore⟩
  rw [hidentify] at hheard
  have hwritten : l'.writings.map Writing.bytes = [productQuery] := htaken
  have hheard : l'.line.Heard (before ++ l'.writings.map Writing.bytes) := hheard
  rw [hwritten] at hheard
  rw [hs']
  exact ⟨l'.line, rfl, hheard⟩

/-! ## Frames under the policy `always` -/

namespace Session

variable {L : Type} [Port L] {s s' : Session L}

omit [Port L] in
theorem settle_always (hpolicy : s.config.cachePolicy = .always) (what : String) (t : Settings)
    (x : Except Fault Unit) : settle what t (x, s) = (.ok (), s.believe t) := by
  cases x with
  | ok _ => rfl
  | error f => rw [settle, hpolicy]

theorem adoptRate_always (hpolicy : s.config.cachePolicy = .always) (rate : Rate) :
    ∃ s', s.adoptRate rate = (.ok (), s') ∧ s'.config = s.config ∧ s'.isOpen = s.isOpen ∧
      s'.stats.frames = s.stats.frames := by
  have hconfig := (Kept.of_config s.config).requestRate rate rfl
  have hopen := (Kept.of_isOpen s.isOpen).requestRate rate rfl
  have hframes := s.requestRate_frames rate
  unfold adoptRate
  split
  · exact ⟨s, rfl, rfl, rfl, rfl⟩
  · rcases hrequest : s.requestRate rate with ⟨x, s₁⟩
    rw [hrequest] at hconfig hopen hframes
    exact ⟨_, settle_always (by rw [hconfig, hpolicy]) .., hconfig, hopen, hframes⟩

theorem adoptGain_always (hpolicy : s.config.cachePolicy = .always) (d : Direction) (gain : Int) :
    ∃ s', s.adoptGain d gain = (.ok (), s') ∧ s'.stats.frames = s.stats.frames := by
  have hconfig := (Kept.of_config s.config).requestGain (s.settings.withGain d gain) rfl
  have hframes := s.requestGain_frames (s.settings.withGain d gain)
  unfold adoptGain
  split
  · exact ⟨s, rfl, rfl⟩
  · rcases hrequest : s.requestGain (s.settings.withGain d gain) with ⟨x, s₁⟩
    rw [hrequest] at hconfig hframes
    exact ⟨_, settle_always (by rw [hconfig, hpolicy]) .., hframes⟩

theorem fetch_stats (s : Session L) (request : List UInt8) (expected : Response) (n : Nat) :
    (s.fetch request expected n).2.stats = s.stats := by
  have hstats := s.exchange_stats request expected
  unfold fetch
  rcases hexchange : s.exchange request expected with ⟨_ | _, s₁⟩
  all_goals
    rw [hexchange] at hstats
    exact hstats

end Session

/-- The counts with a frame more, or with a failure to exchange one. -/
def Stats.addFrame (c : Stats) (d : Direction) (failed : Bool) : Stats :=
  match failed, d with
  | true, _ => { c with failedExchanges := c.failedExchanges + 1 }
  | false, .input => { c with framesEncoded := c.framesEncoded + 1 }
  | false, .output => { c with framesDecoded := c.framesDecoded + 1 }

theorem Stats.frames_addFrame {c c' : Stats} (h : c.frames = c'.frames) (d : Direction) (failed : Bool) :
    (c.addFrame d failed).frames = (c'.addFrame d failed).frames := by
  simp only [frames, Prod.mk.injEq] at h
  obtain ⟨hencoded, hdecoded, hfailed⟩ := h
  cases failed <;> cases d <;> simp [addFrame, frames, hencoded, hdecoded, hfailed]

namespace FrameCall

theorem prepare_always {L : Type} [Port L] {s : Session L} {f : FrameCall}
    (hpolicy : s.config.cachePolicy = .always) (hopen : s.isOpen = true) (hfits : f.Fits) :
    ∃ s', f.prepare s = (.ok (), s') ∧ s'.stats.frames = s.stats.frames := by
  obtain ⟨s₁, hrate, hconfig, hopen₁, hframes₁⟩ := Session.adoptRate_always hpolicy f.rate
  obtain ⟨s₂, hgain, hframes₂⟩ :=
    Session.adoptGain_always (s := s₁) (by rw [hconfig, hpolicy]) f.direction f.gain
  exact ⟨s₂, (prepare_of_rate_ok hopen hfits hrate).trans hgain, hframes₂.trans hframes₁⟩

/-- A frame that comes to be written is counted once. -/
theorem frames_run {L : Type} [Port L] {s s₁ : Session L} {f : FrameCall}
    (hprepare : f.prepare s = (.ok (), s₁)) (hframes : s₁.stats.frames = s.stats.frames) :
    (f.run s).2.stats.frames =
      (s.stats.addFrame f.direction (f.run s).1.fault?.isSome).frames := by
  rcases hfetch : s₁.fetch f.packet f.response f.width with ⟨x, s₂⟩
  have hstats : s₂.stats = s₁.stats := by
    have := s₁.fetch_stats f.packet f.response f.width
    rwa [hfetch] at this
  rw [run_of_prepare_ok hprepare hfetch, ← Stats.frames_addFrame hframes, ← hstats]
  cases x with
  | error e =>
    show _ = (s₂.stats.addFrame f.direction (f.failed e).fault?.isSome).frames
    rw [fault_failed]
    rfl
  | ok data =>
    show _ = (s₂.stats.addFrame f.direction (f.delivered data).fault?.isSome).frames
    rw [fault_delivered]
    cases f.direction <;> rfl

/-- The counts after a frame that was written, with the requests made for it. -/
def account (f : FrameCall) (t : Settings) (c : Stats) (failed : Bool) : Stats :=
  { c.addFrame f.direction failed with
    rateRequests := c.rateRequests + (t.rateStep f.rate).length
    gainRequests := c.gainRequests + (t.gainStep f.direction f.gain).length }

end FrameCall

/-- The session holds a device that hears it and has received these requests; these are its settings and its
counts; and the policy is `always`. -/
structure Session.Standing (s : Session Link) (requests : List (List UInt8)) (t : Settings) (c : Stats) :
    Prop where
  heard : s.Heard requests
  policy : s.config.cachePolicy = .always
  settings : s.settings = t
  stats : s.stats = c

theorem Session.Standing.of_eq {s : Session Link} {requests requests' : List (List UInt8)}
    {t t' : Settings} {c c' : Stats} (h : s.Standing requests t c) (hrequests : requests = requests')
    (hsettings : t = t') (hstats : c = c') : s.Standing requests' t' c' := by
  subst hrequests hsettings hstats
  exact h

namespace FrameCall

theorem stats_eq_account {L : Type} [Port L] {f : FrameCall} {s s' : Session L} {failed : Bool}
    (hframes : s'.stats.frames = (s.stats.addFrame f.direction failed).frames)
    (hrates : s'.stats.rateRequests = s.stats.rateRequests + (s.settings.rateStep f.rate).length)
    (hgains : s'.stats.gainRequests =
      s.stats.gainRequests + (s.settings.gainStep f.direction f.gain).length) :
    s'.stats = f.account s.settings s.stats failed := by
  simp only [Stats.frames, Prod.mk.injEq] at hframes
  obtain ⟨hencoded, hdecoded, hfailed⟩ := hframes
  show s'.stats = ⟨_, _, _, _, _⟩
  rw [← hencoded, ← hdecoded, ← hfailed, ← hrates, ← hgains]

/-- Under the policy `always` a frame that fits is always written, after the requests that it needs. -/
theorem wrote_always {L : Type} [Port L] [Recording L] {f : FrameCall} {s : Session L} (hready : s.Ready)
    (hpolicy : s.config.cachePolicy = .always) (hfits : f.Fits) :
    s.Wrote (f.run s).2 (f.schedule s.settings) (s.settings.rateStep f.rate).length
        (s.settings.gainStep f.direction f.gain).length ∧
      (f.run s).2.settings = (s.settings.withRate f.rate).withGain f.direction f.gain := by
  have hcourse : f.Course s (f.run s).1 (f.run s).2 := f.course hready
  generalize (f.run s).2 = s' at hcourse ⊢
  cases hcourse with
  | tooSmall hnarrow => exact absurd hfits hnarrow
  | rateGivenUp hgaveUp | gainGivenUp hgaveUp =>
    rw [hpolicy] at hgaveUp
    cases hgaveUp
  | sent _ hwrote hsettings => exact ⟨hwrote, hsettings⟩

/-- **Under the policy `always` a frame is written with all that it needs**, and counted once, whatever the
device answers. -/
theorem standing {f : FrameCall} {s : Session Link} {requests : List (List UInt8)} {t : Settings}
    {c : Stats} (h : s.Standing requests t c) (hfits : f.Fits) :
    (f.run s).2.Standing (requests ++ f.schedule t)
      ((t.withRate f.rate).withGain f.direction f.gain)
      (f.account t c (f.run s).1.fault?.isSome) := by
  obtain ⟨⟨l, hline, hheard⟩, hpolicy, rfl, rfl⟩ := h
  have hmetered := Session.line_metered hline
  obtain ⟨hwrote, hsettings⟩ := wrote_always (s := s.metered) ⟨_, hmetered, trivial⟩ hpolicy hfits
  obtain ⟨s₁, hprepare, hframes⟩ := prepare_always (s := s) hpolicy (by simp [Session.isOpen, hline]) hfits
  -- what the meter shows is what the device has received
  have hkept := (Metered.kept_heard requests).session.frame f (s := s.metered) (by
    rw [hmetered]
    rintro _ ⟨⟩
    simpa [Metered.Heard] using hheard)
  obtain ⟨l', hline', -⟩ := hwrote.ready
  have htaken : l'.writings.map Writing.bytes = f.schedule s.settings := by
    have := hwrote.taken
    rw [Session.taken, Session.taken, hline', hmetered] at this
    exact this
  have hheard' : l'.line.Heard (requests ++ l'.writings.map Writing.bytes) := hkept l' hline'
  rw [htaken] at hheard'
  -- the meter changes nothing about the call
  have herased : f.run s = ((f.run s.metered).1, (f.run s.metered).2.mapLine Metered.line) := by
    have := Metered.erases.call s.metered (.frame f)
    rwa [Session.mapLine_metered] at this
  have hcounted := frames_run hprepare hframes
  rw [herased] at hcounted ⊢
  exact
    { heard := ⟨l'.line, by show (f.run s.metered).2.line.map _ = _; rw [hline']; rfl, hheard'⟩
      policy := by
        rw [← hpolicy]
        exact congrArg SessionConfig.cachePolicy hwrote.config
      settings := hsettings
      stats := stats_eq_account hcounted hwrote.rates hwrote.gains }

end FrameCall

end Vocoder
