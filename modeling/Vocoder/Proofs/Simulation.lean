import Vocoder.Session

/-!
# Sessions over corresponding ports

A session does to its port only three things: it sends a request, it receives a packet, and it lets go.
So two sessions in the same state behave alike over two ports of different kinds, as long as these three
operations give the same results on both and keep the ports in correspondence. This is shown once for
every operation of a session.

* `IsRequest` — what a session sends, and nothing else.
* `Port.Simulation` — the obligations on two kinds of ports. A fault of the first may go by another name
  on the second, and while an answer is outstanding the ports may correspond in another way.
* `Port.Simulation.Similar` — two sessions that differ in their ports only. The lemmas from `exchange` to
  `decode` carry it through every operation.
-/

namespace Vocoder

/-! ## What a session sends -/

/-- The bytes are one of the packets that a session sends. -/
inductive IsRequest : List UInt8 → Prop where
  | identify : IsRequest productQuery
  | rate {rate : Rate} {bytes : List UInt8} (h : rate.request? = some bytes) : IsRequest bytes
  | gain (gainIn gainOut : Int) : IsRequest (gainRequest gainIn gainOut)
  | audio (block : AudioBlock) : IsRequest (audioPacket block)
  | voice {voice : List UInt8} {rate : Rate} {bytes : List UInt8}
      (h : voicePacket voice rate .host = .ok bytes) : IsRequest bytes

/-- The faults a session finds on its own, whatever its port. -/
def Fault.IsOfSession : Fault → Prop
  | notOpen | notIdentified | unrecognized | unexpectedResponse .. | truncated ..
  | reconfigurationFailed _ | bufferTooSmall .. => True
  | _ => False

/-- The reader works as a configuration has it. -/
def Reader.Fits (c : SessionConfig) (r : Reader) : Prop :=
  r.lengthField = c.lengthField ∧ r.timeoutMs = c.responseTimeoutMs

/-- Receiving changes only what a reader holds. -/
theorem Reader.fits_receive {L : Type} [Line L] {c : SessionConfig} {r r' : Reader} {l l' : L} {x}
    (hr : r.Fits c) (h : r.receive l = (x, r', l')) : r'.Fits c := by
  have hheld : ∃ held, r' = { r with held := held } := by
    rw [Reader.receive] at h
    rcases hprepare : Line.prepare l with ⟨_ | _, l₁⟩
    · rw [hprepare] at h
      cases h
      exact ⟨[], rfl⟩
    · rw [hprepare] at h
      dsimp only at h
      rcases hseek : Reader.seekMarker r.timeoutMs l₁ with ⟨_ | _, l₂⟩
      · rw [hseek] at h
        cases h
        exact ⟨[], rfl⟩
      · rw [hseek] at h
        cases h
        exact ⟨_, rfl⟩
  obtain ⟨held, rfl⟩ := hheld
  exact hr

/-! ## Corresponding ports -/

theorem mapError_id {ε α : Type} (x : Except ε α) : x.mapError id = x := by
  cases x <;> rfl

theorem mapError_ok {ε ε' α : Type} (g : ε → ε') (a : α) : (Except.ok a).mapError g = .ok a := rfl

theorem mapError_error {ε ε' α : Type} (g : ε → ε') (f : ε) :
    (Except.error f : Except ε α).mapError g = .error (g f) := rfl

/-- Two kinds of ports that sessions of one configuration cannot tell apart, but for the names of
faults. -/
structure Port.Simulation (L M : Type) [Port L] [Port M] (c : SessionConfig) where
  /-- The ports correspond, and nobody waits for an answer. -/
  Rel : L → M → Prop
  /-- The ports correspond, and a request may be unanswered. -/
  Asked : L → M → Prop
  /-- What a fault of the first port is called on the second. -/
  rename : Fault → Fault
  rename_of_session : ∀ f, f.IsOfSession → rename f = f
  asked_of_rel : ∀ {l m}, Rel l m → Asked l m
  send_ok : ∀ {l l' m bytes}, Rel l m → IsRequest bytes → Port.send l bytes = (.ok (), l') →
    ∃ m', Port.send m bytes = (.ok (), m') ∧ Asked l' m'
  send_error : ∀ {l l' m bytes f}, Rel l m → IsRequest bytes →
    Port.send l bytes = (.error f, l') →
    ∃ m', Port.send m bytes = (.error (rename f), m') ∧ Rel l' m'
  receive : ∀ {l l' m r r' x}, Asked l m → r.Fits c → Port.receive r l = (x, r', l') →
    ∃ m', Port.receive r m = (x.mapError rename, r', m') ∧ r'.Fits c ∧ Rel l' m'
  close : ∀ {l m}, Asked l m → Rel (Port.close l) (Port.close m)

namespace Port.Simulation

/-- What keeps every name keeps those of the session's own faults. -/
theorem id_of_session (f : Fault) (_ : f.IsOfSession) : id f = f := rfl

variable {L M : Type} [Port L] [Port M] {c : SessionConfig} (S : Port.Simulation L M c)

/-- Two sessions that differ in their ports only, and whose ports correspond. -/
structure Similar (s : Session L) (t : Session M) : Prop where
  config_left : s.config = c
  config_right : t.config = c
  line : Option.Rel S.Rel s.line t.line
  held : t.held = s.held
  settings : t.settings = s.settings
  productName : t.productName = s.productName
  stats : t.stats = s.stats

variable {S} {s s' : Session L} {t : Session M}

namespace Similar

/-- Both sessions are closed, or both hold a port. -/
theorem ports (h : S.Similar s t) :
    (s.line = none ∧ t.line = none) ∨ ∃ l m, s.line = some l ∧ t.line = some m ∧ S.Rel l m := by
  have hline := h.line
  cases hs : s.line with
  | none =>
    cases ht : t.line with
    | none => exact .inl ⟨rfl, rfl⟩
    | some m =>
      rw [hs, ht] at hline
      cases hline
  | some l =>
    cases ht : t.line with
    | none =>
      rw [hs, ht] at hline
      cases hline
    | some m =>
      rw [hs, ht] at hline
      cases hline with
      | some hR => exact .inr ⟨l, m, rfl, rfl, hR⟩

theorem isOpen (h : S.Similar s t) : t.isOpen = s.isOpen := by
  unfold Session.isOpen
  rcases h.ports with ⟨hs, ht⟩ | ⟨l, m, hs, ht, -⟩
  · rw [hs, ht]
    rfl
  · rw [hs, ht]
    rfl

theorem reader (h : S.Similar s t) : t.reader = s.reader := by
  rw [Session.reader, Session.reader, h.config_left, h.config_right, h.held]

theorem reader_fits (h : S.Similar s t) : s.reader.Fits c :=
  ⟨congrArg SessionConfig.lengthField h.config_left,
    congrArg SessionConfig.responseTimeoutMs h.config_left⟩

theorem withLine (h : S.Similar s t) {l : L} {m : M} (r : Reader) (hR : S.Rel l m) :
    S.Similar (s.withLine l r) (t.withLine m r) :=
  { h with line := .some hR, held := rfl }

theorem count (h : S.Similar s t) (f : Stats → Stats) : S.Similar (s.count f) (t.count f) :=
  { h with stats := congrArg f h.stats }

theorem countFrame (h : S.Similar s t) (d : Direction) (x : Except Fault (List UInt8)) :
    S.Similar (s.countFrame d x) (t.countFrame d (x.mapError S.rename)) := by
  cases x with
  | error f => exact h.count fun c => { c with failedExchanges := c.failedExchanges + 1 }
  | ok data =>
    cases d with
    | input => exact h.count fun c => { c with framesEncoded := c.framesEncoded + 1 }
    | output => exact h.count fun c => { c with framesDecoded := c.framesDecoded + 1 }

theorem believe (h : S.Similar s t) (u : Settings) : S.Similar (s.believe u) (t.believe u) :=
  { h with settings := rfl }

end Similar

/-! ## What a session finds wrong on its own -/

theorem rename_error {α : Type} {f : Fault} (hf : f.IsOfSession) :
    (Except.error f : Except Fault α) = (Except.error f).mapError S.rename :=
  congrArg Except.error (S.rename_of_session f hf).symm

theorem rename_refusal {α β : Type} {f : Fault} (hf : f.IsOfSession) (y : β) :
    ((Except.error f : Except Fault α), y) = ((Except.error f).mapError S.rename, y) :=
  Prod.ext (rename_error hf) rfl

/-- What a session finds wrong with a response has the same name on both ports. -/
theorem rename_require (expected got : Response) :
    Session.require expected got = (Session.require expected got).mapError S.rename := by
  unfold Session.require
  split
  · rfl
  · split <;> exact rename_error (by trivial)

theorem rename_frameData (r : Reader) (n : Nat) :
    Session.frameData r n = (Session.frameData r n).mapError S.rename := by
  unfold Session.frameData
  split
  · exact rename_error (by trivial)
  · rfl

/-! ## Every operation of a session -/

namespace Similar

/-- An exchange: the request, and the answer if the request went out. -/
theorem exchange (h : S.Similar s t) {request : List UInt8} (hq : IsRequest request)
    {expected : Response} {x : Except Fault Unit} (hs : s.exchange request expected = (x, s')) :
    ∃ t', t.exchange request expected = (x.mapError S.rename, t') ∧ S.Similar s' t' := by
  rw [Session.exchange] at hs ⊢
  rcases h.ports with ⟨hl, hm⟩ | ⟨l, m, hl, hm, hR⟩
  · rw [hl] at hs
    rw [hm]
    cases hs
    exact ⟨t, rename_refusal (by trivial) _, h⟩
  · rw [hl] at hs
    rw [hm]
    dsimp only at hs ⊢
    rcases hsend : Port.send l request with ⟨_ | _, l₁⟩
    · -- the request was refused, so no answer is outstanding
      obtain ⟨m₁, hsend', hR₁⟩ := S.send_error hR hq hsend
      rw [hsend] at hs
      rw [hsend']
      cases hs
      exact ⟨_, rfl, { h with line := .some hR₁ }⟩
    · -- an answer is outstanding now; receiving settles it, whatever is received
      obtain ⟨m₁, hsend', hA₁⟩ := S.send_ok hR hq hsend
      rw [hsend] at hs
      rw [hsend', h.reader]
      dsimp only at hs ⊢
      rcases hreceive : Port.receive s.reader l₁ with ⟨_ | got, r, l₂⟩
      · obtain ⟨m₂, hreceive', -, hR₂⟩ := S.receive hA₁ h.reader_fits hreceive
        rw [hreceive] at hs
        rw [hreceive']
        cases hs
        exact ⟨_, rfl, h.withLine r hR₂⟩
      · obtain ⟨m₂, hreceive', -, hR₂⟩ := S.receive hA₁ h.reader_fits hreceive
        rw [hreceive] at hs
        rw [hreceive']
        cases hs
        exact ⟨_, Prod.ext (rename_require ..) rfl, h.withLine r hR₂⟩

theorem requestRate (h : S.Similar s t) {rate : Rate} {x : Except Fault Unit}
    (hs : s.requestRate rate = (x, s')) :
    ∃ t', t.requestRate rate = (x.mapError S.rename, t') ∧ S.Similar s' t' := by
  rw [Session.requestRate] at hs ⊢
  cases hq : rate.request? with
  | none =>
    rw [hq] at hs
    cases hs
    exact ⟨t, rfl, h⟩
  | some request =>
    rw [hq] at hs
    exact exchange (h.count _) (.rate hq) hs

theorem requestGain (h : S.Similar s t) {u : Settings} {x : Except Fault Unit}
    (hs : s.requestGain u = (x, s')) :
    ∃ t', t.requestGain u = (x.mapError S.rename, t') ∧ S.Similar s' t' :=
  exchange (h.count _) (.gain ..) hs

theorem setRate (h : S.Similar s t) {rate : Rate} {x : Except Fault Unit}
    (hs : s.setRate rate = (x, s')) :
    ∃ t', t.setRate rate = (x.mapError S.rename, t') ∧ S.Similar s' t' := by
  rw [Session.setRate] at hs ⊢
  rw [h.isOpen]
  by_cases hopen : s.isOpen = true
  · rw [if_pos hopen] at hs ⊢
    rcases hrequest : s.requestRate rate with ⟨_ | _, s₁⟩
    all_goals
      obtain ⟨t₁, hrequest', h₁⟩ := requestRate h hrequest
      rw [hrequest] at hs
      rw [hrequest']
      cases hs
    · exact ⟨_, rfl, h₁⟩
    · exact ⟨_, rfl, by
        rw [h₁.settings]
        exact h₁.believe _⟩
  · rw [if_neg hopen] at hs ⊢
    cases hs
    exact ⟨t, rename_refusal (by trivial) _, h⟩

theorem setGain (h : S.Similar s t) {gainIn gainOut : Int} {x : Except Fault Unit}
    (hs : s.setGain gainIn gainOut = (x, s')) :
    ∃ t', t.setGain gainIn gainOut = (x.mapError S.rename, t') ∧ S.Similar s' t' := by
  rw [Session.setGain] at hs ⊢
  rw [h.isOpen, h.settings]
  by_cases hopen : s.isOpen = true
  · rw [if_pos hopen] at hs ⊢
    rcases hrequest : s.requestGain { s.settings with gainIn := gainIn, gainOut := gainOut } with
      ⟨_ | _, s₁⟩
    all_goals
      obtain ⟨t₁, hrequest', h₁⟩ := requestGain h hrequest
      rw [hrequest] at hs
      rw [hrequest']
      cases hs
    · exact ⟨_, rfl, h₁⟩
    · exact ⟨_, rfl, by
        rw [h₁.settings]
        exact h₁.believe _⟩
  · rw [if_neg hopen] at hs ⊢
    cases hs
    exact ⟨t, rename_refusal (by trivial) _, h⟩

/-- The policy decides alike, since both sessions have the same one. -/
theorem settle (h : S.Similar s t) {what : String} {u : Settings} {x y : Except Fault Unit}
    (hs : Session.settle what u (x, s) = (y, s')) :
    ∃ t', Session.settle what u (x.mapError S.rename, t) = (y.mapError S.rename, t') ∧
      S.Similar s' t' := by
  cases x with
  | ok _ =>
    cases hs
    exact ⟨_, rfl, h.believe u⟩
  | error f =>
    have hconfig : t.config = s.config := h.config_right.trans h.config_left.symm
    rw [mapError_error]
    simp only [Session.settle, hconfig] at hs ⊢
    cases hp : s.config.cachePolicy with
    | always =>
      rw [hp] at hs
      cases hs
      exact ⟨_, rfl, h.believe u⟩
    | onSuccess =>
      rw [hp] at hs
      cases hs
      exact ⟨_, rename_refusal (by trivial) _, h⟩

theorem adoptRate (h : S.Similar s t) {rate : Rate} {x : Except Fault Unit}
    (hs : s.adoptRate rate = (x, s')) :
    ∃ t', t.adoptRate rate = (x.mapError S.rename, t') ∧ S.Similar s' t' := by
  rw [Session.adoptRate] at hs ⊢
  rw [h.settings]
  split at hs
  · cases hs
    rename_i hsame
    rw [if_pos hsame]
    exact ⟨t, rfl, h⟩
  · rename_i hother
    rw [if_neg hother]
    rcases hrequest : s.requestRate rate with ⟨y, s₁⟩
    obtain ⟨t₁, hrequest', h₁⟩ := requestRate h hrequest
    rw [hrequest] at hs
    rw [hrequest']
    exact settle h₁ hs

theorem adoptGain (h : S.Similar s t) {d : Direction} {gain : Int} {x : Except Fault Unit}
    (hs : s.adoptGain d gain = (x, s')) :
    ∃ t', t.adoptGain d gain = (x.mapError S.rename, t') ∧ S.Similar s' t' := by
  rw [Session.adoptGain] at hs ⊢
  rw [h.settings]
  split at hs
  · cases hs
    rename_i hsame
    rw [if_pos hsame]
    exact ⟨t, rfl, h⟩
  · rename_i hother
    rw [if_neg hother]
    rcases hrequest : s.requestGain (s.settings.withGain d gain) with ⟨y, s₁⟩
    obtain ⟨t₁, hrequest', h₁⟩ := requestGain h hrequest
    rw [hrequest] at hs
    rw [hrequest']
    exact settle h₁ hs

theorem prepareFrame (h : S.Similar s t) {available : Nat} {rate : Rate} {d : Direction} {gain : Int}
    {x : Except Fault Unit} (hs : s.prepareFrame available rate d gain = (x, s')) :
    ∃ t', t.prepareFrame available rate d gain = (x.mapError S.rename, t') ∧ S.Similar s' t' := by
  rw [Session.prepareFrame] at hs ⊢
  rw [h.isOpen]
  by_cases hopen : s.isOpen = true
  · rw [if_pos hopen] at hs ⊢
    by_cases hsmall : available < rate.voiceBytes
    · rw [if_pos hsmall] at hs ⊢
      cases hs
      exact ⟨t, rename_refusal (by trivial) _, h⟩
    · rw [if_neg hsmall] at hs ⊢
      rcases hrate : s.adoptRate rate with ⟨_ | _, s₁⟩
      all_goals
        obtain ⟨t₁, hrate', h₁⟩ := adoptRate h hrate
        rw [hrate] at hs
        rw [hrate']
      · cases hs
        exact ⟨t₁, rfl, h₁⟩
      · exact adoptGain h₁ hs
  · rw [if_neg hopen] at hs ⊢
    cases hs
    exact ⟨t, rename_refusal (by trivial) _, h⟩

theorem fetch (h : S.Similar s t) {request : List UInt8} (hq : IsRequest request)
    {expected : Response} {n : Nat} {x : Except Fault (List UInt8)}
    (hs : s.fetch request expected n = (x, s')) :
    ∃ t', t.fetch request expected n = (x.mapError S.rename, t') ∧ S.Similar s' t' := by
  rw [Session.fetch] at hs ⊢
  rcases hexchange : s.exchange request expected with ⟨_ | _, s₁⟩
  all_goals
    obtain ⟨t₁, hexchange', h₁⟩ := exchange h hq hexchange
    rw [hexchange] at hs
    rw [hexchange']
    cases hs
  · exact ⟨t₁, rfl, h₁⟩
  · refine ⟨t₁, ?_, h₁⟩
    show (Session.frameData t₁.reader n, t₁) = _
    rw [h₁.reader, ← rename_frameData]

theorem encode (h : S.Similar s t) {audio : AudioBlock} {buffer buffer' : List UInt8} {rate : Rate}
    {gain : Int} {x : Except Fault Nat} (hs : s.encode audio buffer rate gain = (x, buffer', s')) :
    ∃ t', t.encode audio buffer rate gain = (x.mapError S.rename, buffer', t') ∧
      S.Similar s' t' := by
  rw [Session.encode] at hs ⊢
  rcases hprepare : s.prepareFrame buffer.length rate .input gain with ⟨_ | _, s₁⟩
  all_goals
    obtain ⟨t₁, hprepare', h₁⟩ := prepareFrame h hprepare
    rw [hprepare] at hs
    rw [hprepare']
  · cases hs
    exact ⟨t₁, rfl, h₁⟩
  · rw [mapError_ok]
    dsimp only at hs ⊢
    rcases hfetch : s₁.fetch (audioPacket audio) .voice rate.voiceBytes with ⟨_ | _, s₂⟩
    all_goals
      obtain ⟨t₂, hfetch', h₂⟩ := fetch h₁ (.audio audio) hfetch
      rw [hfetch] at hs
      rw [hfetch']
      cases hs
      exact ⟨_, rfl, h₂.countFrame .input _⟩

theorem decode (h : S.Similar s t) {voice : List UInt8} {audio audio' : AudioBlock} {rate : Rate}
    {gain : Int} {x : Except Fault Unit} (hs : s.decode voice audio rate gain = (x, audio', s')) :
    ∃ t', t.decode voice audio rate gain = (x.mapError S.rename, audio', t') ∧
      S.Similar s' t' := by
  rw [Session.decode] at hs ⊢
  rcases hprepare : s.prepareFrame voice.length rate .output gain with ⟨_ | _, s₁⟩
  all_goals
    obtain ⟨t₁, hprepare', h₁⟩ := prepareFrame h hprepare
    rw [hprepare] at hs
    rw [hprepare']
  · cases hs
    exact ⟨t₁, rfl, h₁⟩
  · rw [mapError_ok]
    dsimp only at hs ⊢
    cases hpacket : voicePacket voice rate .host with
    | error f =>
      -- the caller's frame is refused before the ports come into it
      rw [hpacket] at hs
      cases hs
      have hf : f.IsOfSession := by
        unfold voicePacket at hpacket
        split at hpacket
        · cases hpacket
          trivial
        · cases hpacket
      exact ⟨t₁, rename_refusal hf _, h₁⟩
    | ok request =>
      rw [hpacket] at hs
      dsimp only at hs ⊢
      rcases hfetch : s₁.fetch request .audio blockBytes with ⟨_ | _, s₂⟩
      all_goals
        obtain ⟨t₂, hfetch', h₂⟩ := fetch h₁ (.voice hpacket) hfetch
        rw [hfetch] at hs
        rw [hfetch']
        cases hs
        exact ⟨_, rfl, h₂.countFrame .output _⟩

/-! ## Opening and closing -/

/-- Letting go: what is handed back corresponds. -/
theorem close (h : S.Similar s t) :
    S.Similar s.close.1 t.close.1 ∧ Option.Rel S.Rel s.close.2 t.close.2 := by
  refine ⟨{ h with line := .none }, ?_⟩
  unfold Session.close
  rcases h.ports with ⟨hl, hm⟩ | ⟨l, m, hl, hm, hR⟩
  · rw [hl, hm]
    exact .none
  · rw [hl, hm]
    exact .some (S.close (S.asked_of_rel hR))

end Similar

/-- Waiting for the name, by induction on the packets still to be inspected. -/
theorem awaitName :
    ∀ (n : Nat) {r r' : Reader} {l l' : L} {m : M} {x}, S.Asked l m → r.Fits c →
      Session.awaitName r n l = (x, r', l') →
      ∃ m', Session.awaitName r n m = (x.mapError S.rename, r', m') ∧ S.Asked l' m' ∧
        (∀ name, x = .ok name → S.Rel l' m') := by
  intro n
  induction n with
  | zero =>
    intro r r' l l' m x hA hr hs
    cases hs
    exact ⟨m, rename_refusal (by trivial) _, hA, fun name hx => by cases hx⟩
  | succ n ih =>
    intro r r' l l' m x hA hr hs
    rw [Session.awaitName] at hs ⊢
    rcases hreceive : Port.receive r l with ⟨_ | got, r₁, l₁⟩
    all_goals
      obtain ⟨m₁, hreceive', hr₁, hR₁⟩ := S.receive hA hr hreceive
      rw [hreceive] at hs
      rw [hreceive']
    · cases hs
      exact ⟨m₁, rfl, S.asked_of_rel hR₁, fun name hx => by cases hx⟩
    · -- only an identification ends the wait
      cases got with
      | productId =>
        cases hs
        exact ⟨m₁, rfl, S.asked_of_rel hR₁, fun _ _ => hR₁⟩
      | audio | voice | rate | gain | unknown => exact ih (S.asked_of_rel hR₁) hr₁ hs

theorem identify {r r' : Reader} {l l' : L} {m : M} {n : Nat} {x} (hR : S.Rel l m) (hr : r.Fits c)
    (hs : Session.identify r n l = (x, r', l')) :
    ∃ m', Session.identify r n m = (x.mapError S.rename, r', m') ∧ S.Asked l' m' ∧
      (∀ name, x = .ok name → S.Rel l' m') := by
  rw [Session.identify] at hs ⊢
  rcases hsend : Port.send l productQuery with ⟨_ | _, l₁⟩
  · obtain ⟨m₁, hsend', hR₁⟩ := S.send_error hR .identify hsend
    rw [hsend] at hs
    rw [hsend']
    cases hs
    exact ⟨m₁, rfl, S.asked_of_rel hR₁, fun name hx => by cases hx⟩
  · obtain ⟨m₁, hsend', hA₁⟩ := S.send_ok hR .identify hsend
    rw [hsend] at hs
    rw [hsend']
    exact awaitName n hA₁ hr hs

namespace Similar

/-- Attaching corresponding ports to closed sessions: both open, or both hand back a closed port. -/
theorem attach (h : S.Similar s t) (hclosed : s.line = none) {l : L} {m : M} (hR : S.Rel l m)
    {x : Except Fault Unit} {released : List L} (hs : s.attach l = (x, s', released)) :
    ∃ t' released', t.attach m = (x.mapError S.rename, t', released') ∧ S.Similar s' t' ∧
      (released = [] ∧ released' = [] ∧ s'.line.isSome ∨
        s'.line = none ∧ ∃ l' m', released = [l'] ∧ released' = [m'] ∧ S.Rel l' m') := by
  have hclosed' : t.line = none := by
    rcases h.ports with ⟨-, ht⟩ | ⟨l, m, hl, -⟩
    · exact ht
    · rw [hclosed] at hl
      cases hl
  have h₁ : S.Similar { s with line := none } { t with line := none } := { h with line := .none }
  rw [Session.attach] at hs ⊢
  simp only [Session.close, hclosed, hclosed', Option.map_none, Option.toList_none] at hs ⊢
  have hreader : ({ t with line := none } : Session M).reader =
      ({ s with line := none } : Session L).reader := h₁.reader
  have hattempts : t.config.identifyAttempts = s.config.identifyAttempts := by
    rw [h.config_left, h.config_right]
  rw [hreader, hattempts]
  rcases hidentify : Session.identify ({ s with line := none } : Session L).reader
    s.config.identifyAttempts l with ⟨_ | name, r, l₁⟩
  all_goals
    obtain ⟨m₁, hidentify', hA₁, hok⟩ := identify hR h₁.reader_fits hidentify
    rw [hidentify] at hs
    rw [hidentify']
    cases hs
  · -- closing is allowed while an answer is outstanding
    refine ⟨_, _, rfl, { h₁ with held := rfl }, .inr ⟨rfl, _, _, rfl, rfl, S.close hA₁⟩⟩
  · refine ⟨_, _, rfl, ?_, .inl ⟨rfl, rfl, rfl⟩⟩
    exact { h₁.withLine r (hok name rfl) with settings := rfl, productName := rfl, stats := rfl }

end Similar

end Port.Simulation

end Vocoder
