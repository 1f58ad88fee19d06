import Mathlib
import Vocoder.Proofs.Metered

/-!
# The counts of a session account for every packet

A session counts requests for rates and gains before it sends them, and frames after it has heard of
them, as encoded, decoded or failed. Between calls nothing is on its way, so the counts come to what was
written since the session was attached.

* `Stats.Account` — counts account for some writings, but for frames that are not counted yet. One lemma
  for each kind of packet that can be written, and one for counting a frame.
* `Session.exchange_metered` — an exchange writes its request, and prepares the line once if the line
  accepts all of it.
* `Session.Balanced` — the counts of a session account for what the meter shows. Whole requests keep it, so
  every call does.
* `Session.stats_account` — the account of a session that was attached.
-/

namespace Vocoder

/-! ## Accounts -/

def Writing.isFrame (w : Writing) : Bool :=
  w.kind = .audio ∨ w.kind = .voice

theorem Writing.isFrame_of_packet {w : Writing} {f : FrameCall} (hw : w.bytes = f.packet) :
    w.isFrame = true := by
  have hkind : w.kind = f.kind := by rw [kind, hw, f.classify_eq_kind]
  cases f with
  | encode | decode => simp [isFrame, hkind, FrameCall.kind]

/-- The counts account for some writings, but for `pending` frames that are sent and not counted yet. -/
structure Stats.Account (stats : Stats) (ws : List Writing) (pending : Nat) : Prop where
  rate : ws.countP (·.kind = .rate) = stats.rateRequests
  gain : ws.countP (·.kind = .gain) = stats.gainRequests
  frame : ws.countP Writing.isFrame =
    stats.framesEncoded + stats.framesDecoded + stats.failedExchanges + pending
  total : ws.length =
    stats.rateRequests + stats.gainRequests + stats.framesEncoded + stats.framesDecoded +
      stats.failedExchanges + pending

namespace Stats.Account

variable {stats : Stats} {ws : List Writing} {pending : Nat} {w : Writing}

theorem none : Account {} [] 0 :=
  ⟨rfl, rfl, rfl, rfl⟩

theorem addRate (h : stats.Account ws pending) (hw : w.kind = .rate) :
    Account { stats with rateRequests := stats.rateRequests + 1 } (ws ++ [w]) pending := by
  obtain ⟨hrate, hgain, hframe, htotal⟩ := h
  have hframe' : w.isFrame = false := by simp [Writing.isFrame, hw]
  constructor
  · simp [hrate, hw]
  · simp [hgain, hw]
  · simp [hframe, hframe']
  · simp [htotal]
    omega

theorem addGain (h : stats.Account ws pending) (hw : w.kind = .gain) :
    Account { stats with gainRequests := stats.gainRequests + 1 } (ws ++ [w]) pending := by
  obtain ⟨hrate, hgain, hframe, htotal⟩ := h
  have hframe' : w.isFrame = false := by simp [Writing.isFrame, hw]
  constructor
  · simp [hrate, hw]
  · simp [hgain, hw]
  · simp [hframe, hframe']
  · simp [htotal]
    omega

theorem addFrame (h : stats.Account ws pending) (hw : w.isFrame = true) :
    Account stats (ws ++ [w]) (pending + 1) := by
  obtain ⟨hrate, hgain, hframe, htotal⟩ := h
  have hrate' : w.kind ≠ .rate := by
    intro hkind
    simp [Writing.isFrame, hkind] at hw
  have hgain' : w.kind ≠ .gain := by
    intro hkind
    simp [Writing.isFrame, hkind] at hw
  constructor
  · simp [hrate, hrate']
  · simp [hgain, hgain']
  · simp [hframe, hw]
    omega
  · simp [htotal]
    omega

end Stats.Account

/-! ## The meter of a session -/

namespace Session

variable {L : Type} [Line L] {s : Session (Metered L)} {m₀ m : Metered L} {pending : Nat}

/-- **An exchange writes its request**, and it prepares the line once if all of it was accepted. -/
theorem exchange_metered (hline : s.line = some m) (request : List UInt8) (expected : Response) :
    ∃ w m', w.bytes = request ∧ (s.exchange request expected).2.line = some m' ∧
      m'.writings = m.writings ++ [w] ∧ m'.prepares = m.prepares + [w].countP Writing.full ∧
      (s.exchange request expected).2.stats = s.stats := by
  rw [exchange, hline]
  dsimp only
  rcases hsend : Line.send m.line request with ⟨f | _, l₁⟩
  · rw [Metered.send_eq hsend]
    exact ⟨⟨request, false⟩, _, rfl, rfl, rfl, rfl, rfl⟩
  · rw [Metered.send_eq hsend]
    dsimp only
    rcases hreceive : s.reader.receive l₁ with ⟨f | got, r, l₂⟩
    · rw [Metered.receive_eq (m := { m with line := l₁, writings := _ }) hreceive]
      exact ⟨⟨request, true⟩, _, rfl, rfl, rfl, rfl, rfl⟩
    · rw [Metered.receive_eq (m := { m with line := l₁, writings := _ }) hreceive]
      exact ⟨⟨request, true⟩, _, rfl, rfl, rfl, rfl, rfl⟩

/-- The counts of the session account for what its meter shows since it stood at `m₀`. The line was
prepared once for every writing that was accepted. -/
def Balanced (m₀ : Metered L) (pending : Nat) (s : Session (Metered L)) : Prop :=
  ∃ m ws, s.line = some m ∧ m.writings = m₀.writings ++ ws ∧
    m.prepares = m₀.prepares + ws.countP Writing.full ∧ (∀ w ∈ ws, IsRequest w.bytes) ∧
    s.stats.Account ws pending

theorem Balanced.exchange (h : Balanced m₀ pending s) {request : List UInt8}
    (hrequest : IsRequest request) (expected : Response) {stats : Stats} {pending' : Nat}
    (henter : ∀ {ws w}, w.bytes = request → s.stats.Account ws pending →
      stats.Account (ws ++ [w]) pending') :
    Balanced m₀ pending' (({ s with stats := stats } : Session (Metered L)).exchange request expected).2 := by
  obtain ⟨m, ws, hline, hwritings, hprepares, hrequests, haccount⟩ := h
  obtain ⟨w, m', hw, hline', hwritings', hprepares', hstats⟩ :=
    exchange_metered (s := { s with stats := stats }) hline request expected
  refine ⟨m', ws ++ [w], hline', ?_, ?_, ?_, ?_⟩
  · rw [hwritings', hwritings, List.append_assoc]
  · rw [hprepares', hprepares, List.countP_append]
    omega
  · intro w' hw'
    rcases List.mem_append.mp hw' with hw' | hw'
    · exact hrequests w' hw'
    · rw [List.mem_singleton.mp hw', hw]
      exact hrequest
  · rw [hstats]
    exact henter hw haccount

omit [Line L] in
theorem Balanced.countFrame (h : Balanced m₀ (pending + 1) s) (d : Direction)
    (x : Except Fault (List UInt8)) : Balanced m₀ pending (s.countFrame d x) := by
  obtain ⟨m, ws, hline, hwritings, hprepares, hrequests, hrate, hgain, hframe, htotal⟩ := h
  -- a frame is counted as failed or in its direction, in any case once
  cases x with
  | error f =>
    refine ⟨m, ws, hline, hwritings, hprepares, hrequests, hrate, hgain, ?_, ?_⟩
    · simp only [Session.countFrame, count]
      omega
    · simp only [Session.countFrame, count]
      omega
  | ok data =>
    cases d with
    | input | output =>
      refine ⟨m, ws, hline, hwritings, hprepares, hrequests, hrate, hgain, ?_, ?_⟩
      · simp only [Session.countFrame, count]
        omega
      · simp only [Session.countFrame, count]
        omega

/-- **Every whole request leaves the account balanced.** -/
theorem conserved_balanced (m₀ : Metered L) : Conserved (Balanced m₀ 0) where
  requestRate {s} rate h := by
    rw [requestRate]
    cases hrequest : rate.request? with
    | none => exact h
    | some request =>
      refine h.exchange (.rate hrequest) .rate fun hw haccount => haccount.addRate ?_
      rw [Writing.kind, hw]
      exact classify_rateRequest hrequest
  requestGain {s} t h := by
    refine h.exchange (.gain ..) .gain fun hw haccount => haccount.addGain ?_
    rw [Writing.kind, hw]
    exact classify_gainRequest t.gainIn t.gainOut
  believe _ h := h
  frame {s f} hfits h := by
    have hsent : Balanced m₀ 1 (s.exchange f.packet f.response).2 :=
      h.exchange (f.isRequest_packet hfits) f.response fun hw haccount => haccount.addFrame (Writing.isFrame_of_packet hw)
    have hfetch : (s.fetch f.packet f.response f.width).2 = (s.exchange f.packet f.response).2 := by
      rw [fetch]
      rcases s.exchange f.packet f.response with ⟨_ | _, s₁⟩
      · rfl
      · rfl
    rw [hfetch]
    exact hsent.countFrame f.direction _

theorem Balanced.run (h : Balanced m₀ 0 s) (hs : List (Happening L)) :
    Balanced m₀ 0 (Happening.run s (hs.map Happening.metered)) := by
  induction hs generalizing s with
  | nil => exact h
  | cons happening later ih =>
    cases happening with
    | call c => exact ih ((conserved_balanced m₀).call c h)
    | change f =>
      -- what befalls the line does not show on the meter
      obtain ⟨m, ws, hline, hwritings, hprepares, hrequests, haccount⟩ := h
      refine ih ⟨{ m with line := f m.line }, ws, ?_, hwritings, hprepares, hrequests, haccount⟩
      show s.line.map _ = _
      rw [hline]
      rfl

/-- **The counts account for every packet.** Over any line and under both policies, whatever calls are made
after an attach that succeeds and whatever befalls the line between them: what was written since the
attach are requests, as many as the counts come to, and of each kind as many as were counted. If the line
accepted all of them in full, it was prepared just as often. The meter changes nothing about the run. -/
theorem stats_account {s : Session (Metered L)} {l : L} (hattach : (s.attach { line := l }).1 = .ok ())
    (hs : List (Happening L)) :
    let s₀ := (s.attach { line := l }).2.1
    let s' := Happening.run s₀ (hs.map Happening.metered)
    let total := s'.stats.rateRequests + s'.stats.gainRequests + s'.stats.framesEncoded +
      s'.stats.framesDecoded + s'.stats.failedExchanges
    ∃ m₀ m ws, s₀.line = some m₀ ∧ s'.line = some m ∧ m.writings = m₀.writings ++ ws ∧
      (∀ w ∈ ws, IsRequest w.bytes) ∧ ws.length = total ∧
      ((∀ w ∈ ws, w.full = true) → m.prepares = m₀.prepares + total) ∧
      ws.countP (·.kind = .rate) = s'.stats.rateRequests ∧
      ws.countP (·.kind = .gain) = s'.stats.gainRequests ∧
      ws.countP (fun w => w.kind = .audio ∨ w.kind = .voice) =
        s'.stats.framesEncoded + s'.stats.framesDecoded + s'.stats.failedExchanges ∧
      s'.mapLine Metered.line = Happening.run ((s.mapLine Metered.line).attach l).2.1 hs := by
  intro s₀ s' total
  have hstart : ∃ m₀, s₀.line = some m₀ ∧ Balanced m₀ 0 s₀ := by
    rcases s.attach_cases { line := l } with ⟨name, r, m₀, -, hok⟩ | ⟨f, r, m₀, -, hfailed⟩
    · have hs₀ : s₀ = (s.attach { line := l }).2.1 := rfl
      rw [hok] at hs₀
      rw [hs₀]
      exact ⟨m₀, rfl, m₀, [], rfl, by simp, rfl, nofun, .none⟩
    · rw [hfailed] at hattach
      cases hattach
  obtain ⟨m₀, hline₀, hbalanced⟩ := hstart
  obtain ⟨m, ws, hline, hwritings, hprepares, hrequests, hrate, hgain, hframe, htotal⟩ :=
    hbalanced.run hs
  refine ⟨m₀, m, ws, hline₀, hline, hwritings, hrequests, htotal, fun hfull => ?_, hrate, hgain, hframe,
    ?_⟩
  · rw [hprepares, List.countP_eq_length.mpr hfull, htotal]
    rfl
  · rw [congrArg (·.2.1) (Metered.erases.attach s { line := l })]
    exact (Happening.erase_metered _ hs).symm

/-- A line that gives a name and acknowledges a rate, and then falls silent. -/
def fallingSilent : BenchLine :=
  { replies := [[0x61, 0x00, 0x02, 0x00, 0x30, 0x41], [0x61, 0x00, 0x02, 0x00, 0x0a, 0x00]] }

/-- No rate, a rate, a frame that is too short, a frame that nobody answers, and gains on a line that
cannot be read. -/
def mostlyUnanswered : List (Happening BenchLine) :=
  [ .call (.setRate .none),
    .call (.setRate .r2450),
    .call (.frame (.decode [] (AudioBlock.fill 0) .r2450 0)),
    .call (.frame (.decode [1, 2, 3, 4, 5, 6, 7] (AudioBlock.fill 0) .r2450 0)),
    .change fun l => { l with failReads := true },
    .call (.setGain 3 (-100)) ]

def silenced : Session (Metered BenchLine) :=
  (({} : Session (Metered BenchLine)).attach { line := fallingSilent }).2.1

theorem stats_account_mostlyUnanswered :
    (({} : Session (Metered BenchLine)).attach { line := fallingSilent }).1 = .ok () ∧
      let s := Happening.run silenced (mostlyUnanswered.map Happening.metered)
      s.stats = { rateRequests := 1, gainRequests := 1, failedExchanges := 1 } ∧
        s.line.map (fun m => (m.writings.map fun w => (w.kind, w.full), m.prepares)) =
          some ([(.productId, true), (.rate, true), (.voice, true), (.gain, true)], 1 + 3) ∧
        ∃ m₀ m ws, silenced.line = some m₀ ∧ s.line = some m ∧ m.writings = m₀.writings ++ ws ∧
          ws.length = 3 ∧ ws.countP (·.kind = .rate) = 1 ∧ ws.countP (·.kind = .gain) = 1 := by
  have hattach : (({} : Session (Metered BenchLine)).attach { line := fallingSilent }).1 = .ok () := by
    cbv
  have hstats : (Happening.run silenced (mostlyUnanswered.map Happening.metered)).stats =
      { rateRequests := 1, gainRequests := 1, failedExchanges := 1 } := by
    cbv
  obtain ⟨m₀, m, ws, hline₀, hline, hwritings, -, htotal, -, hrate, hgain, -⟩ :=
    stats_account hattach mostlyUnanswered
  refine ⟨hattach, hstats, ?_, m₀, m, ws, hline₀, hline, hwritings, ?_, ?_, ?_⟩
  · cbv
  · rw [htotal, ← silenced, hstats]
    rfl
  · rw [hrate, ← silenced, hstats]
  · rw [hgain, ← silenced, hstats]

end Session

end Vocoder
