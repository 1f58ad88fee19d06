import Vocoder.Proofs.Call

/-!
# Ports that carry more

A port may carry something along that its operations do not depend on: a log, a count, a number. Left
out of the port, it is left out of everything a session does over it.

* `Session.attach_cases` — the two ways an attach can go.
* `Port.Erases` — what it takes of a function that leaves something out.
* `Port.Erases.call`, `Port.Erases.attach`, `Port.Erases.openLine` — what a session does over the port
  that carries more is what it does over the other one.
* `Happening` — what may befall an open session: a call, or any change of its line. A run of such things
  is the same over both ports, too (`Port.Erases.run`).
-/

namespace Vocoder

open Workbench (Outcome)

/-! ## Attaching -/

theorem Session.send_of_identify {L : Type} [Port L] {r r' : Reader} {n : Nat} {l l' : L} {name : String}
    (h : identify r n l = (.ok name, r', l')) : ∃ l₁, Port.send l productQuery = (.ok (), l₁) := by
  rw [identify] at h
  rcases hsend : Port.send l productQuery with ⟨f | _, l₁⟩
  · rw [hsend] at h
    cases h
  · exact ⟨l₁, rfl⟩

/-- **The two ways an attach can go.** Either way the line held before is closed and handed back. -/
theorem Session.attach_cases {L : Type} [Port L] (s : Session L) (l : L) :
    (∃ name r l', identify s.reader s.config.identifyAttempts l = (.ok name, r, l') ∧
      s.attach l =
        (.ok (),
          { s with
            line := some l'
            held := r.held
            settings := {}
            productName := some name
            stats := {} },
          s.close.2.toList)) ∨
    ∃ f r l', identify s.reader s.config.identifyAttempts l = (.error f, r, l') ∧
      s.attach l =
        (.error f, { s with line := none, held := r.held }, s.close.2.toList ++ [Port.close l']) := by
  have hreader : ({ s with line := none } : Session L).reader = s.reader := rfl
  unfold attach
  dsimp only [close]
  rw [hreader]
  rcases identify s.reader s.config.identifyAttempts l with ⟨f | name, r, l'⟩
  · exact .inr ⟨f, r, l', rfl, rfl⟩
  · exact .inl ⟨name, r, l', rfl, rfl⟩

/-! ## Leaving something out -/

/-- The session over another line, which takes the place of the one held. -/
def Session.mapLine {L M : Type} (s : Session L) (f : L → M) : Session M where
  config := s.config
  line := s.line.map f
  held := s.held
  settings := s.settings
  productName := s.productName
  stats := s.stats

/-- What the function leaves out of a port, the operations of the port do not depend on. -/
structure Port.Erases {M L : Type} [Port M] [Port L] (f : M → L) : Prop where
  send : ∀ {m m' bytes x}, Port.send m bytes = (x, m') → Port.send (f m) bytes = (x, f m')
  receive : ∀ {c m m' r r' x}, r.Fits c → Port.receive r m = (x, r', m') →
    Port.receive r (f m) = (x, r', f m') ∧ r'.Fits c
  close : ∀ m, Port.close (f m) = f (Port.close m)

namespace Port.Erases

variable {M L : Type} [Port M] [Port L] {f : M → L}

def simulation (E : Port.Erases f) (c : SessionConfig) : Port.Simulation M L c where
  Rel m l := f m = l
  Asked m l := f m = l
  rename := id
  rename_of_session := Port.Simulation.id_of_session
  asked_of_rel h := h
  send_ok := by
    rintro m m' _ bytes rfl _ hs
    exact ⟨f m', E.send hs, rfl⟩
  send_error := by
    rintro m m' _ bytes e rfl _ hs
    exact ⟨f m', E.send hs, rfl⟩
  receive := by
    rintro m m' _ r r' x rfl hr hs
    obtain ⟨hreceive, hfits⟩ := E.receive hr hs
    exact ⟨f m', by rw [mapError_id]; exact hreceive, hfits, rfl⟩
  close := by
    rintro m _ rfl
    exact (E.close m).symm

theorem similar (E : Port.Erases f) (s : Session M) : (E.simulation s.config).Similar s (s.mapLine f) where
  config_left := rfl
  config_right := rfl
  line := by
    unfold Session.mapLine
    cases s.line with
    | none => exact .none
    | some m => exact .some rfl
  held := rfl
  settings := rfl
  productName := rfl
  stats := rfl

theorem eq_of_similar (E : Port.Erases f) {c : SessionConfig} {s : Session M} {t : Session L}
    (h : (E.simulation c).Similar s t) : t = s.mapLine f := by
  -- field by field; only the line is not the same
  obtain ⟨config, line, held, settings, productName, stats⟩ := t
  have hline : line = s.line.map f := by
    rcases h.ports with ⟨hs, ht⟩ | ⟨m, l, hs, ht, hR⟩
    · simp_all
    · have hR : f m = l := hR
      simp_all
  have hconfig : config = s.config := h.config_right.trans h.config_left.symm
  have hheld : held = s.held := h.held
  have hsettings : settings = s.settings := h.settings
  have hname : productName = s.productName := h.productName
  have hstats : stats = s.stats := h.stats
  subst hline hconfig hheld hsettings hname hstats
  rfl

/-- **Calls over a port that carries more are calls over the other one.** -/
theorem call (E : Port.Erases f) (s : Session M) (c : Call) :
    c.run (s.mapLine f) = ((c.run s).1, (c.run s).2.mapLine f) := by
  obtain ⟨t, ht, h⟩ := (E.similar s).call c
  rw [ht, E.eq_of_similar h]
  exact Prod.ext (Outcome.mapFault_id _) rfl

theorem identify (E : Port.Erases f) {c : SessionConfig} {r r' : Reader} {n : Nat} {m m' : M}
    {x : Except Fault String} (hr : r.Fits c) (h : Session.identify r n m = (x, r', m')) :
    Session.identify r n (f m) = (x, r', f m') := by
  obtain ⟨l', hidentify, hl', -⟩ :=
    Port.Simulation.identify (S := E.simulation c) (show f m = f m from rfl) hr h
  have hl' : f m' = l' := hl'
  rw [hidentify, hl']
  exact Prod.ext (mapError_id x) rfl

/-- **Attaching a port that carries more is attaching the other one.** -/
theorem attach (E : Port.Erases f) (s : Session M) (m : M) :
    (s.mapLine f).attach (f m) =
      ((s.attach m).1, (s.attach m).2.1.mapLine f, (s.attach m).2.2.map f) := by
  have hfits : s.reader.Fits s.config := ⟨rfl, rfl⟩
  have hreader : (s.mapLine f).reader = s.reader := rfl
  have hold : (s.mapLine f).close.2.toList = s.close.2.toList.map f := by
    unfold Session.mapLine Session.close
    cases s.line with
    | none => rfl
    | some m => exact congrArg (fun l => [l]) (E.close m)
  -- the chip is asked for its name on both, and answers alike
  rcases s.attach_cases m with ⟨name, r, m', hidentify, hattach⟩ | ⟨e, r, m', hidentify, hattach⟩
  all_goals
    have hidentify' := E.identify hfits hidentify
    rw [hattach]
    rcases (s.mapLine f).attach_cases (f m) with ⟨name', r', l', hasked, hattach'⟩ | ⟨e', r', l', hasked, hattach'⟩
    all_goals
      rw [hreader, show (s.mapLine f).config = s.config from rfl, hidentify'] at hasked
      cases hasked
    rw [hattach', hold]
  · rfl
  · rw [List.map_append, E.close]
    rfl

theorem openLine (E : Port.Erases f) (s : Session M) (m : M) :
    ((s.mapLine f).openLine (.ok (f m))).2.1 = (s.openLine (.ok m)).2.1.mapLine f :=
  congrArg (·.2.1) (E.attach s.close.1 m)

end Port.Erases

/-! ## What befalls an open session -/

/-- Something that befalls a session: a call, or a change of the line it holds. -/
inductive Happening (L : Type) where
  | call (c : Call)
  | change (f : L → L)

namespace Happening

def step {L : Type} [Port L] (s : Session L) : Happening L → Session L
  | call c => (c.run s).2
  | change f => s.mapLine f

def run {L : Type} [Port L] (s : Session L) (hs : List (Happening L)) : Session L :=
  hs.foldl step s

end Happening

/-- What every call keeps, a run of calls keeps. -/
theorem Session.Kept.run_calls {L : Type} [Port L] {P : Session L → Prop} (K : Session.Kept P)
    {s : Session L} (h : P s) (calls : List Call) : P (Happening.run s (calls.map .call)) := by
  induction calls generalizing s with
  | nil => exact h
  | cons c later ih => exact ih (K.call c h)

/-- **A run over a port that carries more is the run over the other one**, if the changes of the one port
are changes of the other. -/
theorem Port.Erases.run {M L : Type} [Port M] [Port L] {f : M → L} (E : Port.Erases f)
    {lift : Happening L → Happening M} (hcall : ∀ c, lift (.call c) = .call c)
    (hchange : ∀ g, ∃ g', lift (.change g) = .change g' ∧ ∀ m, f (g' m) = g (f m)) (s : Session M)
    (hs : List (Happening L)) :
    Happening.run (s.mapLine f) hs = (Happening.run s (hs.map lift)).mapLine f := by
  -- each step leaves another session, so the induction is for all of them
  induction hs generalizing s with
  | nil => rfl
  | cons h later ih =>
    have hstep : Happening.step (s.mapLine f) h = (Happening.step s (lift h)).mapLine f := by
      cases h with
      | call c =>
        rw [hcall]
        exact congrArg Prod.snd (E.call s c)
      | change g =>
        obtain ⟨g', hg', herase⟩ := hchange g
        have hcommutes : f ∘ g' = g ∘ f := funext herase
        simp only [hg', Happening.step, Session.mapLine, Option.map_map, hcommutes]
    show Happening.run (Happening.step (s.mapLine f) h) later = _
    rw [hstep]
    exact ih (Happening.step s (lift h))

end Vocoder
