import Mathlib
import Vocoder.Proofs.Buffered
import Vocoder.Proofs.Characters
import Vocoder.Proofs.Handshake
import Vocoder.Proofs.Leftover

/-!
# The name of the chip

A chip gives its name behind the subtype of one control packet, up to the first NUL or the end of the
packet. The name is text for the caller, and bytes on the line.

* **`Reader.nameBytes`** — the bytes of the name in a packet. None of them is NUL, and a name that was
  written there as text is found again (`takeWhile_encode`).
* **`Answers`** — what can be read from a line that was asked for the name.
* **`Session.attach_name`** — the name of an attached session is the text of those bytes, of the packet
  that was received last and of no other.
-/

namespace Vocoder

open FlowingLine

/-! ## The name in a packet -/

namespace Reader

/-- The bytes of the name in a packet: behind the subtype, up to the first NUL or the end. -/
def nameBytes (held : List UInt8) : List UInt8 :=
  (held.drop (headerLength + 1)).takeWhile (· ≠ 0)

theorem nameIn?_getD (held : List UInt8) :
    (nameIn? held).getD "" = String.ofList (Utf8.decodeLossy (nameBytes held)) := by
  rw [nameIn?, nameBytes]
  cases held.drop (headerLength + 1) with
  | nil =>
    rw [List.takeWhile_nil, Utf8.decodeLossy, Utf8.pieces]
    rfl
  | cons b more => rfl

theorem zero_not_mem_takeWhile (raw : List UInt8) : 0 ∉ raw.takeWhile (· ≠ 0) := by
  intro h
  simpa using List.mem_takeWhile_imp h

/-- A name that is written as text ends where the text does. -/
theorem takeWhile_encode {text : List Char} (htext : '\x00' ∉ text) {tail : List UInt8}
    (htail : ∀ b ∈ tail.head?, b = 0) :
    (Utf8.encode text ++ tail).takeWhile (· ≠ 0) = Utf8.encode text := by
  have hzero := Utf8.zero_not_mem_encode htext
  have hend : tail.takeWhile (· ≠ 0) = [] := by
    cases tail with
    | nil => rfl
    | cons b more =>
      have hb : b = 0 := htail b (by simp)
      rw [List.takeWhile_cons, hb]
      rfl
  rw [List.takeWhile_append_of_pos, hend, List.append_nil]
  intro b hb
  have hne : b ≠ 0 := by
    rintro rfl
    exact hzero hb
  simpa using hne

end Reader

/-! ## Asking for the name -/

/-- What can be read from a line that was asked for the name and prepared. -/
def Answers {L : Type} [Line L] [FlowingLine L] (l : L) (bytes : List UInt8) : Prop :=
  ∃ l₁ l₂, Line.send l productQuery = (.ok (), l₁) ∧ Line.prepare l₁ = (.ok (), l₂) ∧ Flows l₂ ∧
    Line.readable l₂ = bytes

theorem AnsweringLine.answers {L : Type} [Line L] [AnsweringLine L] {l : L} {left reply : List UInt8}
    {later : List (List UInt8)} (h : Stands l left (reply :: later)) : Answers l (left ++ reply) := by
  obtain ⟨l₁, hsend, hstands, -⟩ := send_of_stands h .identify
  obtain ⟨l₂, hprepare, hflows, hstands₂⟩ := prepare_of_stands hstands
  exact ⟨l₁, l₂, hsend, hprepare, hflows, readable_of_stands hstands₂⟩

theorem DatagramDevice.answers {d : DatagramDevice} (h : d.Hears) {reply : List UInt8}
    {later : List (List UInt8)} (hinbox : d.line.inbox = []) (hreply : d.script.replies = reply :: later)
    (hne : reply ≠ []) (hfits : reply.length ≤ stagingSize) : Answers d reply := by
  have hmessage : (d.answered productQuery).line.inbox = [reply] := by
    show d.line.inbox ++ messages (d.script.replies.head?.getD []) = _
    rw [hinbox, hreply, List.head?_cons, Option.getD_some, messages, if_neg hne, List.nil_append]
  have hprepare : Line.prepare (d.answered productQuery) =
      (.ok (), (d.answered productQuery).staged reply [] 0) := by
    obtain ⟨b, more, rfl⟩ := List.exists_cons_of_ne_nil hne
    have hline : (d.answered productQuery).line.prepare =
        (.ok (), ((d.answered productQuery).staged (b :: more) [] 0).line) := by
      simp only [DatagramLine.prepare, if_pos (hears_answered h productQuery).isOpen, hmessage]
      rfl
    show (((d.answered productQuery).line.prepare).1,
      ({ d.answered productQuery with line := ((d.answered productQuery).line.prepare).2 } :
        DatagramDevice)) = _
    rw [hline]
    rfl
  refine ⟨_, _, d.send_eq h productQuery, hprepare, h.isOpen, ?_⟩
  show (reply.take stagingSize).drop 0 = reply
  rw [List.drop_zero, List.take_of_length_le hfits]

namespace Session

variable {L : Type} [Line L]

theorem identify_held (r : Reader) (held : List UInt8) (attempts : Nat) (l : L) :
    (identify { r with held := held } attempts l).1 = (identify r attempts l).1 := by
  rw [identify, identify]
  rcases Port.send l productQuery with ⟨f | _, l₁⟩
  · rfl
  · -- the first receive forgets what is held
    cases attempts with
    | zero => rfl
    | succ n => rfl

/-- **The name is the one in the packet that was received last.** That came off the line behind the
query, with noise before it at most. -/
theorem identify_ok {r r' : Reader} {attempts : Nat} {l l' : L} {name : String}
    (h : identify r attempts l = (.ok name, r', l')) :
    name = String.ofList (Utf8.decodeLossy (Reader.nameBytes r'.held)) ∧
      Response.classify r'.held = .productId ∧
      ∃ j noise, j < attempts ∧ startMarker ∉ noise ∧
        Line.readable (Line.prepare (r.receives (Line.send l productQuery).2 j).2.2).2 =
          noise ++ r'.held ++ Line.readable l' := by
  obtain ⟨x, r₂, l₂, n, hhandshake⟩ := Handshake.exists_of r attempts l
  rw [hhandshake.identify_eq] at h
  cases h
  cases hhandshake with
  | @asked l₁ _ _ _ _ hwrite hsearch =>
    have hsend : Line.send l productQuery = (.ok (), l₁) := by
      rw [Line.send, hwrite]
      exact if_pos rfl
    cases hsearch with
    | @named j heard r₁ _ l₀ _ hj hheard hforeign hname =>
      obtain ⟨hkind, l₃, noise, hprepare, hnoise, hreadable⟩ := Reader.receive_ok hname
      refine ⟨Reader.nameIn?_getD _, hkind, j, noise, hj, hnoise, ?_⟩
      rw [hsend, hheard, hprepare]
      exact hreadable

variable [FlowingLine L]

/-- A chip that answers at once is named by its answer. -/
theorem identify_of_answers {r : Reader} {attempts : Nat} (ht : 0 < r.timeoutMs) (ha : 0 < attempts)
    {l : L} {noise raw behind : List UInt8} (hnoise : startMarker ∉ noise)
    (hfits : headerLength + (productSubtype :: raw).length ≤ maxPacketLength)
    (h : Answers l (noise ++ (packet controlType (productSubtype :: raw) ++ behind))) :
    ∃ l', identify r attempts l =
      (.ok (String.ofList (Utf8.decodeLossy (raw.takeWhile (· ≠ 0)))),
        { r with held := packet controlType (productSubtype :: raw) }, l') := by
  obtain ⟨l₁, l₂, hsend, hprepare, hflows, hreadable⟩ := h
  obtain ⟨n, rfl⟩ : ∃ n, attempts = n + 1 := ⟨attempts - 1, by omega⟩
  -- the answer is the first packet behind the noise, so the first attempt finds it
  let p : WirePacket r.lengthField := .ofPayload controlType (productSubtype :: raw) hfits
  have hcut := Cut.first_of_noise_packet (.inl ht) (fun b hb hm => hnoise (hm ▸ hb)) p behind
  have hkind : p.response = .productId := Response.classify_packet ..
  have hreceive := r.receive_of_flows hprepare hflows
  rw [hreadable, show packet controlType (productSubtype :: raw) = p.bytes from rfl, hcut, hkind] at hreceive
  have hport : Port.receive r l₁ = _ := hreceive
  have hquery : Port.send l productQuery = _ := hsend
  rw [identify, hquery]
  dsimp only
  rw [awaitName, hport]
  dsimp only
  rw [Reader.productName?, Reader.nameIn?_getD]
  exact ⟨_, rfl⟩

omit [FlowingLine L] in
/-- What an attach comes to is read off what the chip answers. -/
theorem attach_eq (s : Session L) (l : L) :
    (s.attach l).1 = (identify s.reader s.config.identifyAttempts l).1.map (fun _ => ()) ∧
      (s.attach l).2.1.productName =
        match (identify s.reader s.config.identifyAttempts l).1 with
        | .ok name => some name
        | .error _ => s.productName := by
  rcases s.attach_cases l with ⟨name, r, l', hidentify, hattach⟩ | ⟨f, r, l', hidentify, hattach⟩
  all_goals
    rw [hidentify, hattach]
    exact ⟨rfl, rfl⟩

omit [FlowingLine L] in
/-- Neither what is held nor what is in the buffer shows in an attach. -/
theorem attach_reused (s : Session (Buffered L)) (m : Buffered L) (held : List UInt8)
    (buffer : Vector UInt8 maxPacketLength) :
    (({ s with held := held } : Session (Buffered L)).attach { m with buffer := buffer }).1 =
        (s.attach m).1 ∧
      (({ s with held := held } : Session (Buffered L)).attach
          { m with buffer := buffer }).2.1.productName = (s.attach m).2.1.productName := by
  let t : Session (Buffered L) := { s with held := held }
  have hold := Buffered.erases.attach s m
  have hnew := Buffered.erases.attach t { m with buffer := buffer }
  obtain ⟨hresult, hname⟩ := attach_eq (s.mapLine Buffered.line) m.line
  obtain ⟨hresult', hname'⟩ := attach_eq (t.mapLine Buffered.line) m.line
  have hsame : (identify (t.mapLine Buffered.line).reader t.config.identifyAttempts m.line).1 =
      (identify (s.mapLine Buffered.line).reader s.config.identifyAttempts m.line).1 :=
    identify_held (s.mapLine Buffered.line).reader held s.config.identifyAttempts m.line
  rw [hold] at hresult hname
  rw [hnew, show (t.mapLine Buffered.line).config = t.config from rfl, hsame] at hresult' hname'
  exact ⟨hresult'.trans hresult.symm, hname'.trans hname.symm⟩

/-- **The name of an attached session.** A chip that answers the query with a packet that names it, behind
any noise and in any pieces, opens the session. The name is the text of the bytes behind the subtype, up to
the first NUL or the end of the packet, with one replacement character for each run of them that is broken.
A name that was put there as text comes back exactly.

Whatever the line does, a session that is opened has the name in the packet that it received last, and this
packet came off the line behind the query. What the session held before, and what is left in the buffer of
longer packets, does not show. -/
theorem attach_name (s : Session (Buffered L)) (m : Buffered L) :
    (∀ {noise raw behind : List UInt8}, 0 < s.config.responseTimeoutMs → 0 < s.config.identifyAttempts →
      startMarker ∉ noise → headerLength + (productSubtype :: raw).length ≤ maxPacketLength →
      Answers m.line (noise ++ (packet controlType (productSubtype :: raw) ++ behind)) →
      ∃ s' name, s.attach m = (.ok (), s', s.close.2.toList) ∧ s'.isOpen = true ∧
        s'.productName = some name ∧ Utf8.Lossy (raw.takeWhile (· ≠ 0)) name.toList ∧
        ∀ (text : String) (tail : List UInt8), '\x00' ∉ text.toList → (∀ b ∈ tail.head?, b = 0) →
          raw = Utf8.encode text.toList ++ tail → name = text) ∧
    (∀ {s' released}, s.attach m = (.ok (), s', released) →
      ∃ name m', s'.productName = some name ∧ s'.line = some m' ∧ '\x00' ∉ name.toList ∧
        (∀ text, Utf8.Lossy (Reader.nameBytes s'.held) text ↔ text = name.toList) ∧
        Response.classify s'.held = .productId ∧
        ∃ j noise, j < s.config.identifyAttempts ∧ startMarker ∉ noise ∧
          Line.readable (Line.prepare (s.reader.receives (Line.send m.line productQuery).2 j).2.2).2 =
            noise ++ s'.held ++ Line.readable m'.line) ∧
    ∀ held buffer,
      (({ s with held := held } : Session (Buffered L)).attach { m with buffer := buffer }).1 =
          (s.attach m).1 ∧
        (({ s with held := held } : Session (Buffered L)).attach
            { m with buffer := buffer }).2.1.productName = (s.attach m).2.1.productName := by
  -- what is asked over the buffer is asked over the line itself
  have hbuffered : ∀ {x r m'}, identify s.reader s.config.identifyAttempts m = (x, r, m') →
      identify s.reader s.config.identifyAttempts m.line = (x, r, m'.line) :=
    Buffered.erases.identify (c := s.config) ⟨rfl, rfl⟩
  refine ⟨?_, ?_, s.attach_reused m⟩
  · intro noise raw behind ht ha hnoise hfits hanswers
    obtain ⟨l', hidentified⟩ :=
      identify_of_answers (r := s.reader) ht ha hnoise hfits hanswers
    rcases s.attach_cases m with ⟨name, r, m', hidentify, hattach⟩ | ⟨f, r, m', hidentify, hattach⟩
    all_goals
      rw [hbuffered hidentify] at hidentified
      cases hidentified
    refine ⟨_, _, hattach, rfl, rfl, ?_, ?_⟩
    · rw [String.toList_ofList]
      exact Utf8.lossy_iff.mpr rfl
    · intro text tail htext htail hraw
      rw [hraw, Reader.takeWhile_encode htext htail, Utf8.decodeLossy_encode, String.ofList_toList]
  · intro s' released h
    rcases s.attach_cases m with ⟨name, r, m', hidentify, hattach⟩ | ⟨f, r, m', hidentify, hattach⟩
    all_goals
      rw [hattach] at h
      cases h
    obtain ⟨hname, hkind, j, noise, hj, hnoise, hreadable⟩ := identify_ok (hbuffered hidentify)
    have hlossy : Utf8.Lossy (Reader.nameBytes r.held) name.toList := by
      rw [hname, String.toList_ofList]
      exact Utf8.lossy_iff.mpr rfl
    refine ⟨name, m', rfl, rfl, ?_, ?_, hkind, j, noise, hj, hnoise, hreadable⟩
    · exact Utf8.not_mem_of_lossy hlossy (Reader.zero_not_mem_takeWhile _)
    · intro text
      rw [Utf8.lossy_iff, ← Utf8.lossy_iff.mp hlossy]
      exact eq_comm

/-- A line that sends noise, a name and something behind the end of it, two bytes at a time, into a buffer
full of an earlier name. -/
def renamed : Buffered BenchLine where
  line :=
    { replies := [[0x07] ++ (packet controlType [productSubtype, 0xc3, 0xa9, 0x00, 0x7a] ++ [0x61])]
      readChunk := 2 }
  buffer := Vector.replicate maxPacketLength 0x41

/-- A server whose name is the bytes of one half of a surrogate pair. -/
def misspelt : Buffered DatagramDevice where
  line := { script := { replies := [packet controlType [productSubtype, 0xed, 0xa0, 0x80]] } }

/-- The first name is the text that was sent. The second has one replacement character for each byte. -/
theorem attach_name_renamed_misspelt :
    (∃ s' : Session (Buffered BenchLine),
      ({ held := [0x61, 0x41] } : Session (Buffered BenchLine)).attach renamed = (.ok (), s', []) ∧
        s'.productName = some "é") ∧
    ∃ (s' : Session (Buffered DatagramDevice)) (name : String),
      ({} : Session (Buffered DatagramDevice)).attach misspelt = (.ok (), s', []) ∧
        s'.productName = some name ∧ Utf8.Lossy [0xed, 0xa0, 0x80] name.toList ∧
        '\x00' ∉ name.toList := by
  refine ⟨?_, ?_⟩
  · obtain ⟨hanswered, -, -⟩ := attach_name { held := [0x61, 0x41] } renamed
    have hstands : AnsweringLine.Stands renamed.line [] renamed.line.replies :=
      ⟨⟨rfl, rfl⟩, rfl, rfl, rfl, rfl, rfl⟩
    have hreplied := AnsweringLine.answers hstands
    have hanswers : Answers renamed.line
        ([0x07] ++ (packet controlType [productSubtype, 0xc3, 0xa9, 0x00, 0x7a] ++ [0x61])) := hreplied
    obtain ⟨s', name, hattach, -, hname, -, htext⟩ :=
      hanswered (by decide) (by decide) (by decide) (by decide) hanswers
    refine ⟨s', hattach, ?_⟩
    have htext : name = "é" := htext "é" [0x00, 0x7a] (by simp) (by simp) (by decide +kernel)
    rw [hname, htext]
  · obtain ⟨hanswered, hopened, -⟩ := attach_name {} misspelt
    have hears : misspelt.line.Hears := ⟨rfl, rfl⟩
    have hanswers : Answers misspelt.line
        ([] ++ (packet controlType [productSubtype, 0xed, 0xa0, 0x80] ++ [])) :=
      DatagramDevice.answers hears rfl rfl (by decide) (by decide)
    obtain ⟨s', name, hattach, -, hname, hlossy, -⟩ :=
      hanswered (by decide) (by decide) (by decide) (by decide) hanswers
    obtain ⟨name', -, hname', -, hnul, -⟩ := hopened hattach
    rw [hname] at hname'
    cases hname'
    exact ⟨s', name, hattach, hname, hlossy, hnul⟩

end Session

end Vocoder
