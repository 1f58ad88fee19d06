import Vocoder.Proofs.Erasure

/-!
# The receive buffer

A reader receives into one buffer of fixed size, which is never cleared: behind the bytes of a packet
stand those of earlier ones. `Buffered.receive` works on such a buffer and on a count of the bytes that
belong to the packet. The bytes behind them never show.

* `store` — bytes written into the buffer; `take_store` says what stands in its front then, and `drop_store`
  that nothing behind changes.
* `Buffered.fill_of_gather` — filling the buffer is gathering bytes.
* `Buffered.receive_of_receive`, `Buffered.erases` — receiving into a buffer with anything in it is
  receiving, so a session does over a buffered line what it does over the line.
-/

namespace Vocoder

/-! ## Writing into a buffer -/

def store {size : Nat} (buffer : Vector UInt8 size) (position : Nat) : List UInt8 → Vector UInt8 size
  | [] => buffer
  | b :: bytes => store (buffer.setIfInBounds position b) (position + 1) bytes

theorem take_store {size : Nat} {buffer : Vector UInt8 size} {position : Nat} {bytes : List UInt8}
    (h : position + bytes.length ≤ size) :
    (store buffer position bytes).toList.take (position + bytes.length) =
      buffer.toList.take position ++ bytes := by
  induction bytes generalizing buffer position with
  | nil => simp [store]
  | cons b bytes ih =>
    rw [List.length_cons] at h
    have hfirst : (buffer.setIfInBounds position b).toList.take (position + 1) =
        buffer.toList.take position ++ [b] := by
      have hroom : position < buffer.toList.length := by simp; omega
      rw [Vector.toList_setIfInBounds, List.take_add_one, List.take_set_of_le (Nat.le_refl _)]
      simp [List.getElem?_set_self hroom]
    have hnext : position + 1 + bytes.length ≤ size := by omega
    rw [List.length_cons, show position + (bytes.length + 1) = position + 1 + bytes.length by omega,
      store, ih hnext, hfirst, List.append_assoc]
    rfl

theorem drop_store {size : Nat} (buffer : Vector UInt8 size) (position : Nat) (bytes : List UInt8) :
    (store buffer position bytes).toList.drop (position + bytes.length) =
      buffer.toList.drop (position + bytes.length) := by
  induction bytes generalizing buffer position with
  | nil => rfl
  | cons b bytes ih =>
    rw [List.length_cons, show position + (bytes.length + 1) = position + 1 + bytes.length by omega, store, ih,
      Vector.toList_setIfInBounds, List.drop_set_of_lt (by omega)]

/-! ## Receiving into a buffer -/

/-- A line that is read into a buffer. -/
structure Buffered (L : Type) where
  line : L
  buffer : Vector UInt8 maxPacketLength := Vector.replicate maxPacketLength 0

/-- The receive buffer, and how many of its bytes belong to the packet. -/
structure Receipt where
  buffer : Vector UInt8 maxPacketLength
  count : Nat

namespace Receipt

def held (b : Receipt) : List UInt8 :=
  b.buffer.toList.take b.count

def append (b : Receipt) (bytes : List UInt8) : Receipt :=
  { buffer := store b.buffer b.count bytes, count := b.count + bytes.length }

theorem held_append {b : Receipt} {bytes : List UInt8}
    (h : b.count + bytes.length ≤ maxPacketLength) : (b.append bytes).held = b.held ++ bytes :=
  take_store h

theorem length_held {b : Receipt} (h : b.count ≤ maxPacketLength) : b.held.length = b.count := by
  simp [held, h]

theorem getD_held {b : Receipt} {i : Nat} (h : i < b.count) :
    b.held.getD i 0 = b.buffer.toList.getD i 0 := by
  rw [held, List.getD_eq_getElem?_getD, List.getD_eq_getElem?_getD, List.getElem?_take_of_lt h]

end Receipt

namespace Buffered

variable {L : Type} [Line L]

/-- Read on until `target` bytes of the packet are in the buffer. -/
def fill (stage : Stage) (target : Nat) (b : Receipt) (l : L) : Except Fault Unit × Receipt × L :=
  if b.count < target then
    match Line.read l (target - b.count) with
    | (.error f, l') => (.error f, b, l')
    | (.ok [], l') => (.error (.timeout stage.name), b, l')
    | (.ok (x :: xs), l') => fill stage target (b.append (x :: xs)) l'
  else (.ok (), b, l)
termination_by target - b.count
decreasing_by
  simp only [Receipt.append, List.length_cons]
  omega

def declared (field : LengthField) (b : Receipt) : Nat :=
  headerLength + field.decode (b.buffer.toList.getD 1 0) (b.buffer.toList.getD 2 0)

def classify (b : Receipt) : Response :=
  .ofParts (b.buffer.toList.getD 3 0) (b.held.drop headerLength)

/-- The header and the payload behind a start marker. -/
def complete (field : LengthField) (b : Receipt) (l : L) : Except Fault Response × Receipt × L :=
  match fill .packetHeader headerLength b l with
  | (.error f, b₁, l₁) => (.error f, b₁, l₁)
  | (.ok (), b₁, l₁) =>
    if maxPacketLength < declared field b₁ then
      (.error (.oversized (declared field b₁) maxPacketLength), b₁, l₁)
    else
      match fill .packetPayload (declared field b₁) b₁ l₁ with
      | (.error f, b₂, l₂) => (.error f, b₂, l₂)
      | (.ok (), b₂, l₂) => (.ok (classify b₂), b₂, l₂)

/-- Take one packet off the line into the buffer, over what is in it. -/
def receive (r : Reader) (m : Buffered L) : Except Fault Response × Reader × Buffered L :=
  match Line.prepare m.line with
  | (.error f, l₁) => (.error f, { r with held := [] }, { m with line := l₁ })
  | (.ok (), l₁) =>
    match Reader.seekMarker r.timeoutMs l₁ with
    | (.error f, l₂) => (.error f, { r with held := [] }, { m with line := l₂ })
    | (.ok (), l₂) =>
      match complete r.lengthField ({ buffer := m.buffer, count := 0 : Receipt }.append [startMarker]) l₂ with
      | (result, b, l₃) => (result, { r with held := b.held }, { line := l₃, buffer := b.buffer })

instance : Port (Buffered L) where
  send m bytes := ((Line.send m.line bytes).1, { m with line := (Line.send m.line bytes).2 })
  receive := receive
  close m := { m with line := Line.close m.line }

/-! ## What was in the buffer before does not show -/

/-- **Filling is gathering.** It fills up to the target if it succeeds. -/
theorem fill_of_gather {stage : Stage} {target : Nat} {b : Receipt} {l l' : L} {x : Except Fault Unit}
    {held : List UInt8} (hcount : b.count ≤ target) (htarget : target ≤ maxPacketLength)
    (h : Reader.gather stage target b.held l = (x, held, l')) :
    ∃ b', fill stage target b l = (x, b', l') ∧ held = b'.held ∧ (x = .ok () → b'.count = target) := by
  -- induction on the number of bytes that are missing
  induction hmissing : target - b.count using Nat.strongRecOn generalizing b l with
  | ind missing ih =>
    have hlength := Receipt.length_held (b := b) (by omega)
    rw [Reader.gather, hlength] at h
    rw [fill]
    by_cases hlt : b.count < target
    · rw [if_pos hlt] at h ⊢
      rcases hread : Line.read l (target - b.count) with ⟨f | _ | ⟨y, ys⟩, l₁⟩
      all_goals rw [hread] at h
      · cases h
        exact ⟨b, rfl, rfl, nofun⟩
      · cases h
        exact ⟨b, rfl, rfl, nofun⟩
      · -- what was read fits behind what is in
        have hbytes := (Line.read_ok hread).2
        have hmore : 0 < (y :: ys).length := by simp
        have happend : (b.append (y :: ys)).count = b.count + (y :: ys).length := rfl
        dsimp only at h
        rw [← Receipt.held_append (by omega)] at h
        exact ih _ (by omega) (by omega) h rfl
    · rw [if_neg hlt] at h ⊢
      cases h
      exact ⟨b, rfl, rfl, fun _ => by omega⟩

theorem declared_eq_total {field : LengthField} {b : Receipt} (h : b.count = headerLength) :
    declared field b = field.total b.held := by
  have hheader : headerLength = 4 := rfl
  rw [declared, LengthField.total, Receipt.getD_held (by omega), Receipt.getD_held (by omega)]

theorem classify_eq {b : Receipt} (h : headerLength ≤ b.count) :
    classify b = Response.classify b.held := by
  have hheader : headerLength = 4 := rfl
  rw [classify, Response.classify, Receipt.getD_held (by omega)]

theorem complete_of_completePacket {field : LengthField} {b : Receipt} {l l' : L}
    {x : Except Fault Response} {held : List UInt8} (hcount : b.count ≤ headerLength)
    (hheld : b.held = [startMarker]) (h : Reader.completePacket field l = (x, held, l')) :
    ∃ b', complete field b l = (x, b', l') ∧ held = b'.held := by
  have hmax : headerLength ≤ maxPacketLength := by decide
  rw [Reader.completePacket, ← hheld] at h
  rw [complete]
  rcases hgather : Reader.gather .packetHeader headerLength b.held l with ⟨f | _, held₁, l₁⟩
  all_goals
    obtain ⟨b₁, hfill, hheld₁, hfull⟩ := fill_of_gather hcount hmax hgather
    rw [hgather] at h
    rw [hfill]
    dsimp only at h ⊢
  · cases h
    exact ⟨b₁, rfl, hheld₁⟩
  · -- the whole header is in, so the bytes that are looked at belong to the packet
    have hheader := hfull rfl
    rw [hheld₁, ← declared_eq_total hheader] at h
    by_cases hover : maxPacketLength < declared field b₁
    · rw [if_pos hover] at h ⊢
      cases h
      exact ⟨b₁, rfl, rfl⟩
    · rw [if_neg hover] at h ⊢
      have htotal : headerLength ≤ declared field b₁ := Nat.le_add_right ..
      rcases hgather₂ : Reader.gather .packetPayload (declared field b₁) b₁.held l₁ with
        ⟨f | _, held₂, l₂⟩
      all_goals
        obtain ⟨b₂, hfill₂, hheld₂, hfull₂⟩ := fill_of_gather (by omega) (by omega) hgather₂
        rw [hgather₂] at h
        rw [hfill₂]
        cases h
      · exact ⟨b₂, rfl, hheld₂⟩
      · have hpayload := hfull₂ rfl
        rw [hheld₂, ← classify_eq (by omega)]
        exact ⟨b₂, rfl, rfl⟩

/-- **What was in the buffer does not show.** Receiving into it gives what receiving gives. -/
theorem receive_of_receive {r r' : Reader} {m : Buffered L} {l : L} {x : Except Fault Response}
    (h : r.receive m.line = (x, r', l)) :
    ∃ buffer, Port.receive r m = (x, r', { line := l, buffer := buffer }) := by
  show ∃ buffer, receive r m = _
  rw [Reader.receive] at h
  rw [receive]
  rcases hprepare : Line.prepare m.line with ⟨f | _, l₁⟩
  all_goals rw [hprepare] at h
  · cases h
    exact ⟨m.buffer, rfl⟩
  · dsimp only at h ⊢
    rcases hseek : Reader.seekMarker r.timeoutMs l₁ with ⟨f | _, l₂⟩
    all_goals rw [hseek] at h
    · cases h
      exact ⟨m.buffer, rfl⟩
    · dsimp only at h ⊢
      rcases hpacket : Reader.completePacket r.lengthField l₂ with ⟨y, held, l₃⟩
      have hmarker : (({ buffer := m.buffer, count := 0 } : Receipt).append [startMarker]).held =
          [startMarker] := Receipt.held_append (show 0 + 1 ≤ maxPacketLength by decide)
      obtain ⟨b, hcomplete, hheld⟩ :=
        complete_of_completePacket (show 0 + 1 ≤ headerLength by decide) hmarker hpacket
      rw [hpacket] at h
      rw [hcomplete]
      cases h
      exact ⟨b.buffer, by rw [hheld]⟩

/-- The buffer can be left out. -/
theorem erases : Port.Erases (Buffered.line : Buffered L → L) where
  send {m m' bytes x} hs := by
    obtain ⟨hx, hm⟩ := Prod.mk.inj hs
    subst hm
    exact Prod.ext hx rfl
  receive {c m m' r r' x} hr hs := by
    rcases hline : r.receive m.line with ⟨y, r₁, l⟩
    obtain ⟨buffer, hreceive⟩ := receive_of_receive hline
    rw [hreceive] at hs
    cases hs
    exact ⟨hline, Reader.fits_receive hr hline⟩
  close _ := rfl

end Buffered

end Vocoder
