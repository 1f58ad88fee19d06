import Mathlib
import Vocoder.Proofs.Faults
import Vocoder.Proofs.RequestStream

/-!
# The handshake

A chip is asked once who it is, and then so many packets are inspected at most. The outcome is a search
over whatever the line delivers: noise, packets of other kinds, broken packets, names.

* **`Reader.receive_ok`** — a packet is taken off the line together with the noise before it, and
  what is behind it can still be read.
* **`Search`** — the three ways to wait for a name: one comes within the budget, a receive fails before it
  does, or the budget is used up by other packets.
* **`Handshake`** — the query, and then the search.
* **`Session.attach_handshake`** — every attach is the outcome of its handshake, with one write and one
  preparation of the line for each receive.
-/

namespace Vocoder

/-! ## What a receive takes off a line -/

namespace Reader

variable {L : Type} [Line L]

theorem readable_of_seekMarker {timeoutMs : Nat} : ∀ {l l' : L},
    seekMarker timeoutMs l = (.ok (), l') →
      ∃ noise, startMarker ∉ noise ∧
        Line.readable l = noise ++ startMarker :: Line.readable l' := by
  intro l
  -- induction on what the line still has to give
  induction hsize : (Line.readable l).length using Nat.strongRecOn generalizing l with
  | ind size ih =>
    intro l' h
    rcases hread : Line.read l 1 with ⟨_ | _ | ⟨b, bs⟩, l₁⟩
    · rw [seekMarker_of_error hread] at h
      cases h
    · rw [seekMarker_of_nil hread] at h
      cases h
    · obtain ⟨hfront, hlength⟩ := Line.read_ok hread
      have hbs : bs = [] := by
        rw [List.length_cons] at hlength
        exact List.eq_nil_of_length_eq_zero (by omega)
      rw [hbs] at hfront
      rw [seekMarker_of_cons hread] at h
      by_cases hb : b = startMarker
      · rw [if_pos hb] at h
        cases h
        refine ⟨[], by simp, ?_⟩
        rw [hfront, hb]
        rfl
      · -- noise: what is behind it is searched
        rw [if_neg hb] at h
        by_cases ht : timeoutMs = 0
        · rw [if_pos ht] at h
          cases h
        · rw [if_neg ht] at h
          have hless := Line.readable_lt_of_read hread
          obtain ⟨noise, hnoise, hreadable⟩ := ih _ (by omega) rfl h
          refine ⟨b :: noise, ?_, ?_⟩
          · simpa [hnoise] using Ne.symm hb
          · rw [hfront, hreadable]
            rfl

theorem readable_of_gather {stage : Stage} {target : Nat} : ∀ {held held' : List UInt8} {l l' : L},
    gather stage target held l = (.ok (), held', l') →
      held' ++ Line.readable l' = held ++ Line.readable l := by
  intro held
  -- induction on what is missing
  induction hmissing : target - held.length using Nat.strongRecOn generalizing held with
  | ind missing ih =>
    intro held' l l' h
    unfold gather at h
    split at h
    · rcases hread : Line.read l (target - held.length) with ⟨_ | _ | ⟨b, bs⟩, l₁⟩
      all_goals rw [hread] at h
      · cases h
      · cases h
      · have hless : target - (held ++ b :: bs).length < missing := by
          rw [List.length_append, List.length_cons]
          omega
        rw [ih _ hless rfl h, (Line.read_ok hread).1, List.append_assoc]
    · cases h
      rfl

theorem completePacket_ok {field : LengthField} {held : List UInt8} {l l' : L} {got : Response}
    (h : completePacket field l = (.ok got, held, l')) :
    Response.classify held = got ∧
      held ++ Line.readable l' = startMarker :: Line.readable l := by
  unfold completePacket at h
  rcases hheader : gather .packetHeader headerLength [startMarker] l with ⟨_ | _, header, l₁⟩
  all_goals rw [hheader] at h
  · cases h
  · dsimp only at h
    split at h
    · cases h
    · -- the header is in, and the payload is gathered behind it
      rcases hpayload : gather .packetPayload (field.total header) header l₁ with ⟨_ | _, whole, l₂⟩
      all_goals rw [hpayload] at h
      · cases h
      · cases h
        refine ⟨rfl, ?_⟩
        rw [readable_of_gather hpayload, readable_of_gather hheader]
        rfl

/-- **A packet is taken off the line with the noise before it**, and nothing else is. -/
theorem receive_ok {r r' : Reader} {l l' : L} {got : Response} (h : r.receive l = (.ok got, r', l')) :
    Response.classify r'.held = got ∧
      ∃ l₁ noise, Line.prepare l = (.ok (), l₁) ∧ startMarker ∉ noise ∧
        Line.readable l₁ = noise ++ r'.held ++ Line.readable l' := by
  unfold receive at h
  rcases hprepare : Line.prepare l with ⟨_ | _, l₁⟩
  all_goals rw [hprepare] at h
  · cases h
  · dsimp only at h
    rcases hseek : seekMarker r.timeoutMs l₁ with ⟨_ | _, l₂⟩
    all_goals rw [hseek] at h
    · cases h
    · rcases hpacket : completePacket r.lengthField l₂ with ⟨x, held, l₃⟩
      dsimp only at h
      rw [hpacket] at h
      cases h
      obtain ⟨hkind, htaken⟩ := completePacket_ok hpacket
      obtain ⟨noise, hnoise, hreadable⟩ := readable_of_seekMarker hseek
      refine ⟨hkind, l₁, noise, rfl, hnoise, ?_⟩
      rw [hreadable, ← htaken, List.append_assoc]

/-! ## Many receives -/

theorem receives_succ {r r₁ r₂ : Reader} {l l₁ l₂ : L} {x : Except Fault Response}
    {heard : List (Except Fault Response × List UInt8)} {n : Nat} (hfirst : r.receive l = (x, r₁, l₁))
    (hlater : r₁.receives l₁ n = (heard, r₂, l₂)) :
    r.receives l (n + 1) = ((x, r₁.held) :: heard, r₂, l₂) := by
  rw [receives, hfirst]
  dsimp only
  rw [hlater]

theorem receives_cons {r r₁ : Reader} {l l₁ : L} {x : Except Fault Response}
    (hfirst : r.receive l = (x, r₁, l₁)) (n : Nat) :
    r.receives l (n + 1) = ((x, r₁.held) :: (r₁.receives l₁ n).1, (r₁.receives l₁ n).2) :=
  receives_succ hfirst rfl

end Reader

/-- What was received is a packet, and it is no product identification. -/
def Reader.Foreign (x : Except Fault Response × List UInt8) : Prop :=
  ∃ got, x.1 = .ok got ∧ got ≠ .productId

open Reader (Foreign)

/-! ## The search for a name -/

/-- How the wait for a name ends, within a budget of receives: with what, and after how many of them. -/
inductive Search {L : Type} [Line L] (r : Reader) (attempts : Nat) (l : L) :
    Except Fault String → Reader → L → Nat → Prop where
  /-- Behind `j` packets of other kinds comes the one that names the chip. -/
  | named {j : Nat} {heard : List (Except Fault Response × List UInt8)} {r₁ r' : Reader} {l₁ l' : L}
    (hj : j < attempts) (hheard : r.receives l j = (heard, r₁, l₁))
    (hforeign : ∀ x ∈ heard, Foreign x) (hname : r₁.receive l₁ = (.ok .productId, r', l')) :
    Search r attempts l (.ok (r'.productName?.getD "")) r' l' (j + 1)
  /-- Behind `j` packets of other kinds a receive fails. -/
  | broken {j : Nat} {heard : List (Except Fault Response × List UInt8)} {r₁ r' : Reader} {l₁ l' : L}
    {f : Fault} (hj : j < attempts) (hheard : r.receives l j = (heard, r₁, l₁))
    (hforeign : ∀ x ∈ heard, Foreign x) (hfault : r₁.receive l₁ = (.error f, r', l')) :
    Search r attempts l (.error f) r' l' (j + 1)
  /-- The budget is used up by packets of other kinds. -/
  | unnamed {heard : List (Except Fault Response × List UInt8)} {r' : Reader} {l' : L}
    (hheard : r.receives l attempts = (heard, r', l')) (hforeign : ∀ x ∈ heard, Foreign x) :
    Search r attempts l (.error .notIdentified) r' l' attempts

namespace Search

variable {L : Type} [Line L] {r r' : Reader} {l l' : L} {attempts n : Nat} {x : Except Fault String}

theorem receives_le (h : Search r attempts l x r' l' n) : n ≤ attempts := by
  cases h with
  | named hj | broken hj => exact hj
  | unnamed => exact Nat.le_refl _

/-- A packet of another kind ahead puts the end of the search off by one receive. -/
theorem later {r₁ : Reader} {l₁ : L} {got : Response} (hfirst : r.receive l = (.ok got, r₁, l₁))
    (hgot : got ≠ .productId) (h : Search r₁ attempts l₁ x r' l' n) :
    Search r (attempts + 1) l x r' l' (n + 1) := by
  have hall : ∀ {heard : List (Except Fault Response × List UInt8)}, (∀ x ∈ heard, Foreign x) →
      ∀ x ∈ (Except.ok got, r₁.held) :: heard, Foreign x := by
    intro heard hheard x hx
    rcases List.mem_cons.mp hx with rfl | hx
    · exact ⟨got, rfl, hgot⟩
    · exact hheard x hx
  cases h with
  | named hj hheard hforeign hname =>
    exact .named (by omega) (Reader.receives_succ hfirst hheard) (hall hforeign) hname
  | broken hj hheard hforeign hfault =>
    exact .broken (by omega) (Reader.receives_succ hfirst hheard) (hall hforeign) hfault
  | unnamed hheard hforeign =>
    exact .unnamed (Reader.receives_succ hfirst hheard) (hall hforeign)

/-- **Every wait for a name ends in one of the three ways.** Induction on the budget. -/
theorem exists_of (r : Reader) (attempts : Nat) (l : L) :
    ∃ x r' l' n, Search r attempts l x r' l' n := by
  induction attempts generalizing r l with
  | zero => exact ⟨_, r, l, 0, .unnamed rfl (by simp)⟩
  | succ attempts ih =>
    rcases hfirst : r.receive l with ⟨f | got, r₁, l₁⟩
    · exact ⟨_, r₁, l₁, 1, .broken (j := 0) (by omega) rfl (by simp) hfirst⟩
    · by_cases hgot : got = .productId
      · rw [hgot] at hfirst
        exact ⟨_, r₁, l₁, 1, .named (j := 0) (by omega) rfl (by simp) hfirst⟩
      · obtain ⟨x, r', l', n, h⟩ := ih r₁ l₁
        exact ⟨x, r', l', n + 1, h.later hfirst hgot⟩

/-- Packets of other kinds are passed over. -/
theorem awaitName_skip : ∀ (j : Nat) {r r₁ : Reader} {l l₁ : L}
    {heard : List (Except Fault Response × List UInt8)}, r.receives l j = (heard, r₁, l₁) →
      (∀ x ∈ heard, Foreign x) → ∀ n, Session.awaitName r (j + n) l = Session.awaitName r₁ n l₁ := by
  intro j
  induction j with
  | zero =>
    intro r r₁ l l₁ heard hheard _ n
    cases hheard
    rw [Nat.zero_add]
  | succ j ih =>
    intro r r₁ l l₁ heard hheard hforeign n
    rcases hfirst : r.receive l with ⟨x, r₂, l₂⟩
    rcases hlater : r₂.receives l₂ j with ⟨heard', r₃, l₃⟩
    rw [Reader.receives_succ hfirst hlater] at hheard
    cases hheard
    obtain ⟨⟨got, hgot, hne⟩, hrest⟩ := List.forall_mem_cons.mp hforeign
    have hgot : x = .ok got := hgot
    subst hgot
    have hport : Port.receive r l = (.ok got, r₂, l₂) := hfirst
    rw [← ih hlater hrest n, Nat.add_right_comm, Session.awaitName, hport]
    cases got with
    | productId => exact absurd rfl hne
    | audio | voice | rate | gain | unknown => rfl

theorem awaitName_eq (h : Search r attempts l x r' l' n) :
    Session.awaitName r attempts l = (x, r', l') := by
  cases h with
  | @named j heard r₁ _ l₁ _ hj hheard hforeign hname =>
    obtain ⟨k, rfl⟩ : ∃ k, attempts = j + (k + 1) := ⟨attempts - j - 1, by omega⟩
    have hport : Port.receive r₁ l₁ = (.ok .productId, r', l') := hname
    rw [awaitName_skip j hheard hforeign, Session.awaitName, hport]
  | @broken j heard r₁ _ l₁ _ f hj hheard hforeign hfault =>
    obtain ⟨k, rfl⟩ : ∃ k, attempts = j + (k + 1) := ⟨attempts - j - 1, by omega⟩
    have hport : Port.receive r₁ l₁ = (.error f, r', l') := hfault
    rw [awaitName_skip j hheard hforeign, Session.awaitName, hport]
  | unnamed hheard hforeign => exact awaitName_skip attempts hheard hforeign 0

end Search

/-! ## The handshake as a whole -/

/-- How a chip is asked for its name: what comes of it, and how often something is received. -/
inductive Handshake {L : Type} [Line L] (r : Reader) (attempts : Nat) (l : L) :
    Except Fault String → Reader → L → Nat → Prop where
  /-- The line refuses the query. -/
  | refused {f : Fault} {l' : L} (hwrite : Line.write l productQuery = (.error f, l')) :
    Handshake r attempts l (.error f) r l' 0
  /-- The line takes another number of bytes than the query has. -/
  | short {k : Nat} {l' : L} (hwrite : Line.write l productQuery = (.ok k, l'))
    (hshort : k ≠ productQuery.length) :
    Handshake r attempts l (.error (.shortWrite k productQuery.length)) r l' 0
  | asked {l₁ l' : L} {r' : Reader} {x : Except Fault String} {n : Nat}
    (hwrite : Line.write l productQuery = (.ok productQuery.length, l₁))
    (hsearch : Search r attempts l₁ x r' l' n) : Handshake r attempts l x r' l' n

namespace Handshake

variable {L : Type} [Line L] {r r' : Reader} {l l' : L} {attempts n : Nat} {x : Except Fault String}

theorem exists_of (r : Reader) (attempts : Nat) (l : L) :
    ∃ x r' l' n, Handshake r attempts l x r' l' n := by
  rcases hwrite : Line.write l productQuery with ⟨f | k, l₁⟩
  · exact ⟨_, r, l₁, 0, .refused hwrite⟩
  · by_cases hk : k = productQuery.length
    · rw [hk] at hwrite
      obtain ⟨x, r', l', n, h⟩ := Search.exists_of r attempts l₁
      exact ⟨x, r', l', n, .asked hwrite h⟩
    · exact ⟨_, r, l₁, 0, .short hwrite hk⟩

theorem receives_le (h : Handshake r attempts l x r' l' n) : n ≤ attempts := by
  cases h with
  | refused | short => exact Nat.zero_le _
  | asked _ hsearch => exact hsearch.receives_le

/-- A query that the line refuses ends the handshake before any receive. -/
theorem of_refused (h : Handshake r attempts l x r' l' n) {f : Fault} {l₁ : L}
    (hline : Line.write l productQuery = (.error f, l₁)) : x = .error f ∧ n = 0 ∧ l' = l₁ := by
  cases h with
  | refused hwrite =>
    rw [hline] at hwrite
    cases hwrite
    exact ⟨rfl, rfl, rfl⟩
  | short hwrite | asked hwrite =>
    rw [hline] at hwrite
    cases hwrite

/-- So does a query that the line takes in part. -/
theorem of_short (h : Handshake r attempts l x r' l' n) {k : Nat} {l₁ : L}
    (hline : Line.write l productQuery = (.ok k, l₁)) (hshort : k ≠ productQuery.length) :
    x = .error (.shortWrite k productQuery.length) ∧ n = 0 ∧ l' = l₁ := by
  cases h with
  | refused hwrite =>
    rw [hline] at hwrite
    cases hwrite
  | short hwrite =>
    rw [hline] at hwrite
    cases hwrite
    exact ⟨rfl, rfl, rfl⟩
  | asked hwrite =>
    rw [hline] at hwrite
    cases hwrite
    exact absurd rfl hshort

theorem identify_eq (h : Handshake r attempts l x r' l' n) :
    Session.identify r attempts l = (x, r', l') := by
  rw [Session.identify, show Port.send l productQuery = Line.send l productQuery from rfl, Line.send]
  cases h with
  | refused hwrite => rw [hwrite]
  | short hwrite hshort =>
    rw [hwrite]
    dsimp only
    rw [if_neg hshort]
  | asked hwrite hsearch =>
    rw [hwrite]
    dsimp only
    rw [if_pos rfl]
    exact hsearch.awaitName_eq

end Handshake

/-! ## On a metered line -/

namespace Metered

variable {L : Type} [Line L] {m : Metered L} {r r' : Reader} {l' : L} {attempts n : Nat}
  {x : Except Fault String}

theorem receives_eq : ∀ (n : Nat) {m : Metered L} {r r' : Reader} {l' : L}
    {heard : List (Except Fault Response × List UInt8)}, r.receives m.line n = (heard, r', l') →
      r.receives m n = (heard, r', { m with line := l', prepares := m.prepares + n }) := by
  intro n
  induction n with
  | zero =>
    intro m r r' l' heard h
    cases h
    rfl
  | succ n ih =>
    intro m r r' l' heard h
    rcases hfirst : r.receive m.line with ⟨y, r₁, l₁⟩
    rcases hlater : r₁.receives l₁ n with ⟨heard', r₂, l₂⟩
    rw [Reader.receives_succ hfirst hlater] at h
    cases h
    have hrest := ih (m := { m with line := l₁, prepares := m.prepares + 1 }) hlater
    rw [Reader.receives_succ (Metered.receive_eq hfirst) hrest, Nat.add_assoc, Nat.add_comm 1]

theorem search (h : Search r attempts m.line x r' l' n) :
    Search r attempts m x r' { m with line := l', prepares := m.prepares + n } n := by
  cases h with
  | @named j heard r₁ _ l₁ _ hj hheard hforeign hname =>
    have hmetered := Metered.receives_eq j hheard
    exact .named hj hmetered hforeign
      (Metered.receive_eq (m := { m with line := l₁, prepares := m.prepares + j }) hname)
  | @broken j heard r₁ _ l₁ _ f hj hheard hforeign hfault =>
    have hmetered := Metered.receives_eq j hheard
    exact .broken hj hmetered hforeign
      (Metered.receive_eq (m := { m with line := l₁, prepares := m.prepares + j }) hfault)
  | unnamed hheard hforeign => exact .unnamed (Metered.receives_eq attempts hheard) hforeign

/-- The line after a handshake: asked once, and prepared once for each receive. -/
def asked (m : Metered L) (l' : L) (n : Nat) : Metered L where
  line := l'
  prepares := m.prepares + n
  writings := m.writings ++ [.of productQuery (Line.write m.line productQuery).1]

theorem handshake (h : Handshake r attempts m.line x r' l' n) :
    Handshake r attempts m x r' (m.asked l' n) n := by
  have hwrite : Line.write m productQuery =
      ((Line.write m.line productQuery).1, m.asked (Line.write m.line productQuery).2 0) := rfl
  cases h with
  | refused hline =>
    rw [hline] at hwrite
    exact .refused hwrite
  | short hline hshort =>
    rw [hline] at hwrite
    exact .short hwrite hshort
  | @asked l₁ _ _ _ _ hline hsearch =>
    rw [hline] at hwrite
    have hmetered := search (m := m.asked l₁ 0) hsearch
    exact .asked hwrite hmetered

end Metered

namespace Session

variable {L : Type} [Line L]

/-- **The identification handshake.** Every attach has just one outcome, that of the handshake on the line
handed over, of which the constructors of `Handshake` and `Search` say what it is. It writes the query once
and prepares the line once for each receive, no more often than it may try. If a packet comes that names
the chip, the session holds the line and starts at rate `none`, without gain, with all counts at zero, and
under the name in that packet; what the line has behind the packet can still be read. In every other case
the fault is handed on as it is, the line is closed, and so is the session. The line held before is let go
of first.

On a link a query that is refused, because the link is closed or its write failed, and a query that is taken
in part end the handshake before any receive. The meter changes nothing about the attach. -/
theorem attach_handshake (s : Session (Metered L)) (m : Metered L) :
    (∃ x r l n, Handshake s.reader s.config.identifyAttempts m.line x r l n) ∧
    (∀ {x r l n}, Handshake s.reader s.config.identifyAttempts m.line x r l n →
      n ≤ s.config.identifyAttempts ∧
      s.attach m =
        match x with
        | .ok name =>
          (.ok (),
            { s with
              line := some (m.asked l n)
              held := r.held
              settings := {}
              productName := some name
              stats := {} },
            s.close.2.toList)
        | .error f =>
          (.error f, { s with line := none, held := r.held },
            s.close.2.toList ++ [Port.close (m.asked l n)])) ∧
    (∀ {r r' : Reader} {l l' : L} {got}, r.receive l = (.ok got, r', l') →
      Response.classify r'.held = got ∧
      ∃ l₁ noise, Line.prepare l = (.ok (), l₁) ∧ startMarker ∉ noise ∧
        Line.readable l₁ = noise ++ r'.held ++ Line.readable l') ∧
    (∀ {r r' : Reader} {attempts n : Nat} {l l' l₁ : Link} {x},
      Handshake r attempts l x r' l' n →
      (∀ {f}, Line.write l productQuery = (.error f, l₁) →
        x = .error f ∧ n = 0 ∧ l' = l₁ ∧ (f = .closed ∨ ∃ cause, f = .write cause)) ∧
      ∀ {k}, Line.write l productQuery = (.ok k, l₁) → k ≠ productQuery.length →
        x = .error (.shortWrite k productQuery.length) ∧ n = 0 ∧ l' = l₁) ∧
    (s.mapLine Metered.line).attach m.line =
      ((s.attach m).1, (s.attach m).2.1.mapLine Metered.line, (s.attach m).2.2.map Metered.line) := by
  refine ⟨Handshake.exists_of .., ?_, Reader.receive_ok, ?_, Metered.erases.attach s m⟩
  · intro x r l n h
    refine ⟨h.receives_le, ?_⟩
    have hidentify := (Metered.handshake h).identify_eq
    rcases s.attach_cases m with ⟨name, r', m', hasked, hattach⟩ | ⟨f, r', m', hasked, hattach⟩
    all_goals
      rw [hidentify] at hasked
      cases hasked
      exact hattach
  · intro r r' attempts n l l' l₁ x h
    refine ⟨fun {f} hwrite => ?_, fun {k} hwrite hshort => h.of_short hwrite hshort⟩
    obtain ⟨hx, hn, hl⟩ := h.of_refused hwrite
    exact ⟨hx, hn, hl, Link.fault_of_write hwrite⟩

/-- A line whose chip sends noise and the acknowledgement of a rate before its name, and begins another packet
behind it. -/
def reluctant : Metered BenchLine where
  line :=
    { replies :=
        [ [0x00, 0x07] ++ packet controlType [rateSubtype, 0x00] ++
            packet controlType [productSubtype, 0x44, 0x56] ++ [startMarker] ] }

/-- A session that inspects so many packets for the name. -/
def inspecting (attempts : Nat) : Session (Metered BenchLine) where
  config := { identifyAttempts := attempts }

/-- Two receives find the name; with one, it comes too late. -/
theorem attach_handshake_reluctant :
    ((inspecting 2).attach reluctant).1 = .ok () ∧
      ((inspecting 2).attach reluctant).2.1.productName = some "DV" ∧
      ((inspecting 2).attach reluctant).2.1.line.map
          (fun m => (m.prepares, m.writings, Line.readable m.line)) =
        some (2, [⟨productQuery, true⟩], [startMarker]) ∧
      (∃ x r l n, Handshake (inspecting 1).reader 1 reluctant.line x r l n ∧ n ≤ 1 ∧
        x = .error .notIdentified ∧ ((inspecting 1).attach reluctant).2.1.line = none ∧
        ((inspecting 1).attach reluctant).2.2 = [Port.close (reluctant.asked l n)]) := by
  obtain ⟨⟨x, r, l, n, h⟩, houtcome, -⟩ := attach_handshake (inspecting 1) reluctant
  obtain ⟨hn, hattach⟩ := houtcome h
  have hfailed : ((inspecting 1).attach reluctant).1 = .error .notIdentified := by
    decide +kernel
  refine ⟨by decide +kernel, by decide +kernel, by decide +kernel, x, r, l, n, h, hn, ?_⟩
  cases x with
  | ok name =>
    rw [hattach] at hfailed
    cases hfailed
  | error f =>
    rw [hattach] at hfailed ⊢
    cases hfailed
    exact ⟨rfl, rfl, rfl⟩

end Session

end Vocoder
