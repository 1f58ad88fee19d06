import Mathlib
import Vocoder.Proofs.Custody
import Vocoder.Proofs.Devices
import Vocoder.Proofs.Metered

/-!
# The requests of a session as a stream

Requests are written one after the other with nothing between them, and samples, gains and voice bytes may
hold start markers. Still the stream can be taken apart again, by the packet reader of a session and by
the length fields alone, since each request is as long as it declares.

* `RequestKind` — the requests, and what a reader takes each of them for.
* `splitPackets_flatten` — the length fields alone take a row of requests apart.
* `Reader.receives_requests` — a reader receives a row of requests one by one, and leaves nothing.
* `Metered.kept_requests` — over any line and through everything, only requests are written.
* `Custody.writings_read_back` — so what was written to a line can be read back.
-/

namespace Vocoder

open Workbench (Outcome)

/-! ## Kinds of requests -/

/-- The bytes are a request, and a packet of this kind. -/
inductive RequestKind : Response → List UInt8 → Prop where
  | identify : RequestKind .productId productQuery
  | rate {rate : Rate} {bytes : List UInt8} (h : rate.request? = some bytes) : RequestKind .rate bytes
  | gain (gainIn gainOut : Int) : RequestKind .gain (gainRequest gainIn gainOut)
  | audio (block : AudioBlock) : RequestKind .audio (audioPacket block)
  | voice {voice : List UInt8} {rate : Rate} {bytes : List UInt8}
      (h : voicePacket voice rate .host = .ok bytes) : RequestKind .voice bytes

theorem classify_voicePacket {voice : List UInt8} {rate : Rate} {bytes : List UInt8}
    (h : voicePacket voice rate .host = .ok bytes) : Response.classify bytes = .voice := by
  by_cases hsmall : voice.length < rate.voiceBytes
  · rw [voicePacket, if_pos hsmall] at h
    cases h
  · rw [voicePacket_host (Nat.le_of_not_lt hsmall)] at h
    cases h
    rw [Response.classify_packet]
    rfl

theorem RequestKind.classify_eq {kind : Response} {bytes : List UInt8} (h : RequestKind kind bytes) :
    Response.classify bytes = kind := by
  cases h with
  | identify => rfl
  | rate h => exact classify_rateRequest h
  | gain gainIn gainOut => exact classify_gainRequest gainIn gainOut
  | audio block => exact classify_audioPacket block
  | voice h => exact classify_voicePacket h

/-- **A reader takes each request for what it is.** -/
theorem IsRequest.kind_iff {bytes : List UInt8} (h : IsRequest bytes) (kind : Response) :
    RequestKind kind bytes ↔ Response.classify bytes = kind := by
  have hkind : ∃ kind, RequestKind kind bytes := by
    cases h with
    | identify => exact ⟨_, .identify⟩
    | rate h => exact ⟨_, .rate h⟩
    | gain gainIn gainOut => exact ⟨_, .gain gainIn gainOut⟩
    | audio block => exact ⟨_, .audio block⟩
    | voice h => exact ⟨_, .voice h⟩
  obtain ⟨own, hown⟩ := hkind
  refine ⟨RequestKind.classify_eq, ?_⟩
  rintro rfl
  rwa [hown.classify_eq]

theorem IsRequest.exists_wirePacket {bytes : List UInt8} (h : IsRequest bytes) (field : LengthField) :
    ∃ p : WirePacket field, p.bytes = bytes := by
  obtain ⟨kind, payload, rfl, hmax⟩ := h.exists_packet
  exact ⟨.ofPayload kind payload hmax, rfl⟩

/-! ## By their length fields -/

theorem splitPackets_append {bytes : List UInt8} (h : IsRequest bytes) (behind : List UInt8) :
    splitPackets (bytes ++ behind) = (bytes :: (splitPackets behind).1, (splitPackets behind).2) := by
  obtain ⟨kind, payload, rfl, hmax⟩ := h.exists_packet
  have hlength := length_packet kind payload
  -- the length bytes are the same, whatever comes behind
  have htotal : LengthField.full.total (packet kind payload ++ behind) = (packet kind payload).length :=
    LengthField.full.total_packet hmax
  have hheader : ¬ (packet kind payload ++ behind).length < headerLength := by
    rw [List.length_append]
    omega
  have hwhole : ¬ (packet kind payload ++ behind).length < (packet kind payload).length := by
    rw [List.length_append]
    omega
  rw [splitPackets, if_neg hheader, htotal, if_neg hwhole, List.drop_left, List.take_left]

/-- **Length fields alone take a row of requests apart.** -/
theorem splitPackets_flatten {requests : List (List UInt8)} (h : ∀ w ∈ requests, IsRequest w) :
    splitPackets requests.flatten = (requests, []) := by
  induction requests with
  | nil =>
    show splitPackets [] = _
    rw [splitPackets, if_pos (by decide)]
  | cons w later ih =>
    obtain ⟨hw, hlater⟩ := List.forall_mem_cons.mp h
    rw [List.flatten_cons, splitPackets_append hw, ih hlater]

/-! ## By a packet reader -/

namespace Reader

/-- Receive so many times, with what comes of each and what is held then. -/
def receives {L : Type} [Line L] (r : Reader) (l : L) :
    Nat → List (Except Fault Response × List UInt8) × Reader × L
  | 0 => ([], r, l)
  | n + 1 =>
    match r.receive l with
    | (x, r₁, l₁) =>
      match r₁.receives l₁ n with
      | (heard, r₂, l₂) => ((x, r₁.held) :: heard, r₂, l₂)

theorem receive_request (r : Reader) {l : BenchLine} (hprepare : l.failPrepare = false)
    (hopen : l.isClosed = false) (hreads : l.failReads = false) {request behind : List UInt8}
    (hrequest : IsRequest request) (hincoming : l.incoming = request ++ behind) :
    r.receive l =
      (.ok (Response.classify request), { r with held := request },
        { l with incoming := behind, prepareCalls := l.prepareCalls + 1 }) := by
  obtain ⟨p, rfl⟩ := hrequest.exists_wirePacket r.lengthField
  have hcut : Cut.first r.lengthField r.timeoutMs (p.bytes ++ behind) =
      ⟨.ok p.response, p.bytes, ([] : List UInt8).length + p.bytes.length⟩ :=
    Cut.first_of_noise_packet (.inr rfl) nofun p behind
  rw [r.receive_bench, hincoming]
  simp only [hprepare, hopen, hreads, hcut, Bool.false_eq_true, if_false]
  simp [WirePacket.response]

/-- **A reader receives a row of requests one by one**, in whatever pieces the line gives them and however
little time there is, and leaves what comes behind them. -/
theorem receives_requests {requests : List (List UInt8)} (h : ∀ w ∈ requests, IsRequest w) (r : Reader)
    {l : BenchLine} (hprepare : l.failPrepare = false) (hopen : l.isClosed = false)
    (hreads : l.failReads = false) {behind : List UInt8}
    (hincoming : l.incoming = requests.flatten ++ behind) :
    ∃ held, r.receives l requests.length =
      (requests.map fun w => (.ok (Response.classify w), w), { r with held := held },
        { l with incoming := behind, prepareCalls := l.prepareCalls + requests.length }) := by
  induction requests generalizing r l with
  | nil =>
    refine ⟨r.held, ?_⟩
    have hincoming : l.incoming = behind := hincoming
    rw [← hincoming]
    rfl
  | cons w later ih =>
    obtain ⟨hw, hlater⟩ := List.forall_mem_cons.mp h
    rw [List.flatten_cons, List.append_assoc] at hincoming
    have hfirst := r.receive_request hprepare hopen hreads hw hincoming
    obtain ⟨held, hrest⟩ := ih hlater { r with held := w }
      (l := { l with incoming := later.flatten ++ behind, prepareCalls := l.prepareCalls + 1 })
      hprepare hopen hreads rfl
    refine ⟨held, ?_⟩
    rw [List.length_cons, receives, hfirst]
    dsimp only
    rw [hrest]
    simp [Nat.add_assoc, Nat.add_comm 1]

end Reader

/-! ## What is written -/

variable {L : Type} [Line L]

def Metered.Requests (m : Metered L) : Prop :=
  ∀ w ∈ m.writings, IsRequest w.bytes

theorem Metered.kept_requests : Port.Kept (Metered.Requests : Metered L → Prop) where
  send {m bytes} hbytes h := by
    rcases hline : Line.send m.line bytes with ⟨x, l⟩
    rw [Metered.send_eq hline]
    intro w hw
    rcases List.mem_append.mp hw with hw | hw
    · exact h w hw
    · rw [List.mem_singleton.mp hw]
      exact hbytes
  receive {m} r h := by
    rcases hline : r.receive m.line with ⟨x, r', l⟩
    rw [Metered.receive_eq hline]
    exact h

omit [Line L] in
/-- A deed with lines that are metered from the start. What happens to a line passes the meter by. -/
def Deed.metered : Deed L → Deed (Metered L)
  | .bring l => .bring { line := l }
  | .change number f => .change number fun m => { m with line := f m.line }
  | .attach number => .attach number
  | .openLine opened => .openLine (opened.map fun l => { line := l })
  | .close => .close
  | .call c => .call c

omit [Line L] in
theorem Deed.keeps_metered (d : Deed L) : d.metered.Keeps Metered.Requests := by
  cases d with
  | bring l => exact nofun
  | change number f => exact fun _ h => h
  | attach | close | call => trivial
  | openLine opened =>
    cases opened with
    | error f => trivial
    | ok l => exact nofun

omit [Line L] in
theorem Deed.over_metered (d : Deed L) : Deed.Over Metered.line d.metered d := by
  have hlift : d.metered = d.lift (fun l => { line := l }) fun f m => { m with line := f m.line } := by
    cases d with
    | _ => rfl
  rw [hlift]
  exact Deed.over_lift (fun _ => rfl) (fun _ _ => rfl) d

namespace Custody

theorem requests_run (c : SessionConfig) (deeds : List (Deed L)) {m : Lent (Metered L)}
    (hm : m ∈ ((start c).run (deeds.map Deed.metered)).lines) : m.line.Requests := by
  have hclose : ∀ m : Metered L, m.Requests → (Port.close m).Requests := fun _ h => h
  refine (invariant_lines Metered.kept_requests hclose).run (y := start c) nofun ?_ m hm
  intro d hd
  obtain ⟨d₀, -, rfl⟩ := List.mem_map.mp hd
  exact d₀.keeps_metered

/-- **What was written can be read back.** Whatever is done with a session and any lines: what was written
to a line, or some of it, such as what the line accepted, are requests; put one behind the other, their
length fields alone take them apart again; and so does a reader, for either reading of lengths and in
whatever pieces it gets the stream. It takes each request for what it is, holds just that request, and
leaves nothing. The meters change nothing about the run. -/
theorem writings_read_back (c : SessionConfig) (deeds : List (Deed L)) {m : Lent (Metered L)}
    (hm : m ∈ ((start c).run (deeds.map Deed.metered)).lines) {requests : List (List UInt8)}
    (hrequests : requests.Sublist (m.line.writings.map Writing.bytes)) :
    (∀ w ∈ requests, ∀ kind, RequestKind kind w ↔ Response.classify w = kind) ∧
      splitPackets requests.flatten = (requests, []) ∧
      (∀ (r : Reader) (l : BenchLine), l.failPrepare = false → l.isClosed = false → l.failReads = false →
        l.incoming = requests.flatten →
        ∃ held, r.receives l requests.length =
          (requests.map fun w => (.ok (Response.classify w), w), { r with held := held },
            { l with incoming := [], prepareCalls := l.prepareCalls + requests.length })) ∧
      ((start c).run (deeds.map Deed.metered)).map Metered.line = (start c).run deeds := by
  have hall : ∀ w ∈ requests, IsRequest w := by
    intro w hw
    obtain ⟨writing, hwriting, rfl⟩ := List.mem_map.mp (hrequests.subset hw)
    exact requests_run c deeds hm writing hwriting
  refine ⟨fun w hw => (hall w hw).kind_iff, splitPackets_flatten hall, ?_, ?_⟩
  · intro r l hprepare hopen hreads hincoming
    exact Reader.receives_requests hall r hprepare hopen hreads (by rw [hincoming, List.append_nil])
  · exact (map_run Metered.erases Deed.over_metered (start c) deeds).symm

/-- A line is attached, a rate is set, gains are, and voice bytes that look like packets are decoded; the
line answers none of it but the name. -/
def unanswered : List (Deed BenchLine) :=
  [ .bring { replies := [[0x61, 0x00, 0x02, 0x00, 0x30, 0x41]] },
    .attach 0,
    .call (.setRate .r2450),
    .call (.setGain 0x61 (-100)),
    .call (.frame (.decode [0x61, 0x00, 0x01, 0x00, 0x61, 0x61, 0x00] (AudioBlock.fill 0) .r2450 0)) ]

def unheard : List (List UInt8) :=
  let rate := [0x61, 0x00, 0x0d, 0x00, 0x0a, 0x04, 0x31, 0x07, 0x54, 0x24, 0, 0, 0, 0, 0, 0, 0]
  [ productQuery,
    rate,
    [0x61, 0x00, 0x03, 0x00, 0x4b, 0x5a, 0xa6],
    rate,
    [0x61, 0x00, 0x09, 0x01, 0x01, 0x31, 0x61, 0x00, 0x01, 0x00, 0x61, 0x61, 0x00] ]

/-- A line that brings all of it back, byte by byte. -/
def echoing : BenchLine :=
  { incoming := unheard.flatten, readChunk := 1 }

theorem writings_read_back_unanswered :
    ∃ m ∈ ((start {}).run (unanswered.map Deed.metered)).lines,
      m.line.writings.map Writing.bytes = unheard ∧
        (∀ w ∈ unheard, ∀ kind, RequestKind kind w ↔ Response.classify w = kind) ∧
        splitPackets unheard.flatten = (unheard, []) ∧
        ∃ held, ({ lengthField := .masked } : Reader).receives echoing unheard.length =
          (unheard.map fun w => (.ok (Response.classify w), w), { lengthField := .masked, held := held },
            { echoing with incoming := [], prepareCalls := unheard.length }) := by
  have hlines : ((start {}).run (unanswered.map Deed.metered)).lines.map
      (fun m => m.line.writings.map Writing.bytes) = [unheard] := by
    cbv
  obtain ⟨m, hm, hwritings⟩ := List.mem_map.mp (hlines ▸ List.mem_singleton_self unheard)
  have hsame : unheard.Sublist (m.line.writings.map Writing.bytes) := hwritings ▸ List.Sublist.refl unheard
  obtain ⟨hkinds, hsplit, hreader, -⟩ := writings_read_back {} unanswered hm hsame
  obtain ⟨held, hreceives⟩ := hreader { lengthField := .masked } echoing rfl rfl rfl rfl
  exact ⟨m, hm, hwritings, hkinds, hsplit, held, hreceives⟩

end Custody

end Vocoder
