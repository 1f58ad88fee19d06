import Vocoder.Proofs.Alike
import Vocoder.Proofs.Erasure

/-!
# Metered lines

A meter counts how often a line was prepared and logs every write with whether it was accepted in full.
It changes nothing about the line.

* `Metered.send_eq` — to send a request is one write.
* `Metered.receive_eq` — to receive a packet is to prepare the line once, and to write nothing.
* `Metered.erases`, `Happening.erase_metered` — a session over a metered line does what it does over the
  line itself.
-/

namespace Vocoder

/-- One write, and whether all of the bytes were accepted. -/
structure Writing where
  bytes : List UInt8
  full : Bool
  deriving DecidableEq, Repr

def Writing.kind (w : Writing) : Response :=
  Response.classify w.bytes

def Writing.of (bytes : List UInt8) (accepted : Except Fault Nat) : Writing where
  bytes := bytes
  full :=
    match accepted with
    | .ok n => n = bytes.length
    | .error _ => false

structure Metered (L : Type) where
  line : L
  /-- How often the line was prepared. -/
  prepares : Nat := 0
  /-- Every write, oldest first. -/
  writings : List Writing := []

namespace Metered

variable {L : Type} [Line L]

instance : Line (Metered L) where
  prepare m :=
    ((Line.prepare m.line).1,
      { m with line := (Line.prepare m.line).2, prepares := m.prepares + 1 })
  read m n := ((Line.read m.line n).1, { m with line := (Line.read m.line n).2 })
  write m bytes :=
    ((Line.write m.line bytes).1,
      { m with
        line := (Line.write m.line bytes).2
        writings := m.writings ++ [.of bytes (Line.write m.line bytes).1] })
  close m := { m with line := Line.close m.line }
  readable m := Line.readable m.line
  read_ok h := by
    obtain ⟨hr, hl⟩ := Prod.mk.inj h
    subst hl
    exact Line.read_ok (Prod.ext hr rfl)

/-- **To send is one write**, accepted in full just if the sending succeeds. -/
theorem send_eq {m : Metered L} {bytes : List UInt8} {x : Except Fault Unit} {l : L}
    (h : Line.send m.line bytes = (x, l)) :
    Port.send m bytes = (x, { m with line := l, writings := m.writings ++ [⟨bytes, x.isOk⟩] }) := by
  show Line.send m bytes = _
  have hwrite : Line.write m bytes =
      ((Line.write m.line bytes).1,
        { m with
          line := (Line.write m.line bytes).2
          writings := m.writings ++ [.of bytes (Line.write m.line bytes).1] }) := rfl
  rw [Line.send] at h ⊢
  rw [hwrite]
  rcases hline : Line.write m.line bytes with ⟨f | n, l₁⟩
  all_goals rw [hline] at h
  · cases h
    rfl
  · dsimp only at h ⊢
    by_cases hn : n = bytes.length
    · rw [if_pos hn] at h ⊢
      cases h
      simp [Writing.of, hn, Except.isOk, Except.toBool]
    · rw [if_neg hn] at h ⊢
      cases h
      simp [Writing.of, hn, Except.isOk, Except.toBool]

theorem readsAlike (m : Metered L) :
    Line.ReadsAlike fun (l : L) (m' : Metered L) => m' = { m with line := l } where
  read := by
    rintro l l' _ n x rfl h
    have hread : Line.read { m with line := l } n =
        ((Line.read l n).1, { m with line := (Line.read l n).2 }) := rfl
    exact ⟨{ m with line := l' }, by rw [hread, h], rfl⟩

/-- **To receive is to prepare the line once**, whatever comes of it. -/
theorem receive_eq {m : Metered L} {r r' : Reader} {x : Except Fault Response} {l : L}
    (h : r.receive m.line = (x, r', l)) :
    Port.receive r m = (x, r', { m with line := l, prepares := m.prepares + 1 }) := by
  show r.receive m = _
  have hprepare : Line.prepare m =
      ((Line.prepare m.line).1,
        { m with line := (Line.prepare m.line).2, prepares := m.prepares + 1 }) := rfl
  rw [Reader.receive] at h ⊢
  rw [hprepare]
  rcases hline : Line.prepare m.line with ⟨f | _, l₁⟩
  all_goals rw [hline] at h
  · cases h
    rfl
  · -- from here on the line is read and nothing else
    have A := readsAlike { m with prepares := m.prepares + 1 }
    dsimp only at h ⊢
    rcases hseek : Reader.seekMarker r.timeoutMs l₁ with ⟨y, l₂⟩
    obtain ⟨_, hseek', rfl⟩ := Reader.seekMarker_alike A _ rfl hseek
    rw [hseek] at h
    rw [hseek']
    cases y with
    | error f =>
      cases h
      rfl
    | ok _ =>
      dsimp only at h ⊢
      rcases hpacket : Reader.completePacket r.lengthField l₂ with ⟨z, held, l₃⟩
      obtain ⟨_, hpacket', rfl⟩ := Reader.completePacket_alike A _ rfl hpacket
      rw [hpacket] at h
      rw [hpacket']
      cases h
      rfl

theorem erases : Port.Erases (Metered.line : Metered L → L) where
  send {m m' bytes x} hs := by
    rcases hline : Line.send m.line bytes with ⟨y, l⟩
    rw [send_eq hline] at hs
    cases hs
    exact hline
  receive {c m m' r r' x} hr hs := by
    rcases hline : r.receive m.line with ⟨y, r₁, l⟩
    rw [receive_eq hline] at hs
    cases hs
    exact ⟨hline, Reader.fits_receive hr hline⟩
  close _ := rfl

end Metered

namespace Happening

/-- The same on a metered line. A change of the line passes the meter by. -/
def metered {L : Type} : Happening L → Happening (Metered L)
  | call c => call c
  | change f => change fun m => { m with line := f m.line }

/-- **A metered run is the run.** -/
theorem erase_metered {L : Type} [Line L] (s : Session (Metered L)) (hs : List (Happening L)) :
    run (s.mapLine Metered.line) hs = (run s (hs.map metered)).mapLine Metered.line :=
  Metered.erases.run (fun _ => rfl) (fun f => ⟨fun m => { m with line := f m.line }, rfl, fun _ => rfl⟩)
    s hs

end Happening

end Vocoder
