import Mathlib
import Vocoder.Proofs.Devices
import Vocoder.Proofs.Recording

/-!
# What a failed call leaves on a byte stream

An answer carries no number. On a byte stream a session takes it from the front of what is readable, and
nothing is thrown away before a request; so what an earlier exchange left there comes first.

* `AnsweringLine` — a byte stream to a far end that answers each request at once. Bench lines are such,
  and scripted devices behind a serial line.
* `Session.exchange_eq_cut` — an exchange cuts one packet off what was left and the answer behind it.
* `Clear` — what was left does not hide an answer. `Session.frame_answered`: then a frame whose requests
  are answered is delivered.
* `FailedCall.next_encode` — so an encoding after a failed call returns its own voice frame if what the
  failed call left is clear. If it is not, some answer is not returned.
-/

namespace Vocoder

open Workbench (Outcome)

/-! ## Lines with a far end that answers -/

/-- A kind of byte stream to a far end that answers every request at once. -/
class AnsweringLine (L : Type) [Line L] extends FlowingLine L where
  /-- Nothing fails on the line, these bytes are readable, and the next requests get these answers. -/
  Stands : L → List UInt8 → List (List UInt8) → Prop
  /-- The requests that went out, oldest first. -/
  requests : L → List (List UInt8)
  exists_stands : ∀ left answers, ∃ l, Stands l left answers
  readable_of_stands : ∀ {l left answers}, Stands l left answers → Line.readable l = left
  prepare_of_stands : ∀ {l left answers}, Stands l left answers →
    ∃ l', Line.prepare l = (.ok (), l') ∧ Flows l' ∧ Stands l' left answers
  stands_advance : ∀ {l left answers} k, Stands l left answers →
    Stands (advance l k) (left.drop k) answers
  send_of_stands : ∀ {l left answers request}, Stands l left answers → IsRequest request →
    ∃ l', Line.send l request = (.ok (), l') ∧ Stands l' (left ++ answers.headD []) answers.tail ∧
      requests l' = requests l ++ [request]

open AnsweringLine

instance : AnsweringLine BenchLine where
  -- none of the failures of the line is switched on
  Stands l left answers :=
    l.Flows ∧ l.failWrites = false ∧ l.failPrepare = false ∧ l.acceptLimit = none ∧
      l.incoming = left ∧ l.replies = answers
  requests l := l.sent
  exists_stands left answers :=
    ⟨{ incoming := left, replies := answers }, ⟨rfl, rfl⟩, rfl, rfl, rfl, rfl, rfl⟩
  readable_of_stands := by
    rintro l left answers ⟨-, -, -, -, hleft, -⟩
    exact hleft
  prepare_of_stands := by
    rintro l left answers ⟨hflows, hwrites, hprepare, hrest⟩
    refine ⟨{ l with prepareCalls := l.prepareCalls + 1 }, ?_, hflows, hflows, hwrites, hprepare, hrest⟩
    show l.prepare = _
    simp [BenchLine.prepare, hprepare]
  stands_advance := by
    rintro l left answers k ⟨hflows, hwrites, hprepare, haccept, rfl, hanswers⟩
    exact ⟨hflows, hwrites, hprepare, haccept, rfl, hanswers⟩
  send_of_stands := by
    rintro l left answers request ⟨hflows, hwrites, hprepare, haccept, rfl, rfl⟩ -
    let l' : BenchLine :=
      { l with
        sent := l.sent ++ [request]
        incoming := l.incoming ++ l.replies.headD []
        replies := l.replies.tail }
    have hwrite : Line.write l request = (.ok request.length, l') := by
      show l.write request = _
      simp [BenchLine.write, hflows.1, hwrites, haccept, l', List.headD_eq_head?_getD]
    have hsend : Line.send l request = (.ok (), l') := by
      rw [Line.send, hwrite]
      exact if_pos rfl
    exact ⟨l', hsend, ⟨hflows, hwrites, hprepare, haccept, rfl, rfl⟩, rfl⟩

instance : AnsweringLine SerialDevice where
  Stands d left answers := d.Hears ∧ d.line.incoming = left ∧ d.script.replies = answers
  requests d := d.script.requests
  exists_stands left answers :=
    ⟨{ line := { incoming := left }, script := { replies := answers } }, ⟨rfl, rfl, rfl⟩, rfl, rfl⟩
  readable_of_stands := by
    rintro d left answers ⟨-, hleft, -⟩
    exact hleft
  prepare_of_stands := by
    rintro d left answers h
    exact ⟨d, rfl, ⟨h.1.isOpen, h.1.hungUp⟩, h⟩
  stands_advance := by
    rintro d left answers k ⟨hears, rfl, hanswers⟩
    exact ⟨⟨hears.isOpen, hears.hungUp, hears.unfinished⟩, rfl, hanswers⟩
  send_of_stands := by
    rintro d left answers request ⟨hears, rfl, rfl⟩ hq
    refine ⟨_, SerialDevice.send_request hears hq, ⟨SerialDevice.hears_answered hears request, ?_, rfl⟩, rfl⟩
    show d.line.incoming ++ d.script.replies.head?.getD [] = _
    rw [List.headD_eq_head?_getD]

/-! ## Exchanges -/

namespace Session

variable {L : Type} [Line L] [AnsweringLine L] {c : SessionConfig} {s s' : Session L}
  {left : List UInt8} {answers : List (List UInt8)}

/-- The session is open on a line that stands so. -/
structure Awaits (c : SessionConfig) (s : Session L) (left : List UInt8)
    (answers : List (List UInt8)) : Prop where
  config : s.config = c
  line : ∃ l, s.line = some l ∧ Stands l left answers

theorem Awaits.isOpen (h : s.Awaits c left answers) : s.isOpen = true := by
  obtain ⟨l, hl, -⟩ := h.line
  simp [Session.isOpen, hl]

/-- **An exchange cuts one packet off what was left and the answer behind it.** -/
theorem exchange_eq_cut (h : s.Awaits c left answers) {request : List UInt8} (hq : IsRequest request)
    (expected : Response) :
    let bytes := left ++ answers.headD []
    let cut := Cut.first c.lengthField c.responseTimeoutMs bytes
    ∃ s', s.exchange request expected = (cut.result.bind (require expected), s') ∧
      s'.Awaits c (bytes.drop cut.consumed) answers.tail ∧ s'.held = cut.held ∧
      s'.settings = s.settings := by
  obtain ⟨rfl, l, hl, hstands⟩ := h
  obtain ⟨l₁, hsend, hstands₁, -⟩ := send_of_stands hstands hq
  obtain ⟨l₂, hprepare, hflows, hstands₂⟩ := prepare_of_stands hstands₁
  have hreceive := s.reader.receive_of_flows hprepare hflows
  rw [readable_of_stands hstands₂] at hreceive
  intro bytes cut
  have hstands₃ : Stands (FlowingLine.advance l₂ cut.consumed) (bytes.drop cut.consumed) answers.tail :=
    stands_advance _ hstands₂
  refine ⟨s.withLine (FlowingLine.advance l₂ cut.consumed) { s.reader with held := cut.held }, ?_,
    ⟨rfl, _, rfl, hstands₃⟩, rfl, rfl⟩
  rw [exchange, hl]
  dsimp only
  rw [show Port.send l request = (.ok (), l₁) from hsend]
  dsimp only
  rw [show Port.receive s.reader l₁ = _ from hreceive]
  show _ = (cut.result.bind (require expected), _)
  -- the answer came behind what was left, and the reader starts at the front
  have hcut : Cut.first s.reader.lengthField s.reader.timeoutMs (left ++ answers.headD []) = cut := rfl
  rw [hcut]
  cases cut.result with
  | error f => rfl
  | ok got => rfl

end Session

/-! ## What does not hide an answer -/

/-- What was left on a line can be skipped: there is time to, and no marker in it. -/
def Clear (timeoutMs : Nat) (left : List UInt8) : Prop :=
  left = [] ∨ 0 < timeoutMs ∧ startMarker ∉ left

/-- What is not clear stops a reader without time, or has a marker in it. -/
theorem marked_of_not_clear {timeoutMs : Nat} {left : List UInt8} (h : ¬ Clear timeoutMs left) :
    (timeoutMs = 0 ∧ left.takeWhile (· ≠ startMarker) ≠ []) ∨
      ∃ m behind, left.dropWhile (· ≠ startMarker) = m :: behind := by
  cases hd : left.dropWhile (· ≠ startMarker) with
  | cons m behind => exact .inr ⟨m, behind, rfl⟩
  | nil =>
    have hall := List.takeWhile_append_dropWhile (p := (· ≠ startMarker)) (l := left)
    rw [hd, List.append_nil] at hall
    -- there is no marker: it is all noise, and not clear for want of time
    by_cases ht : timeoutMs = 0
    · refine .inl ⟨ht, fun hnil => h (.inl ?_)⟩
      rw [← hall, hnil]
    · refine absurd (.inr ⟨by omega, fun hmem => ?_⟩) h
      rw [← hall] at hmem
      exact Cut.noise_of_takeWhile _ hmem rfl

namespace Cut

variable {field : LengthField} {timeoutMs : Nat} {left header : List UInt8} {width : Nat}

/-- Without time, noise is an end to the search. -/
theorem first_of_hurry (h : left.takeWhile (· ≠ startMarker) ≠ []) (more : List UInt8) :
    first field 0 (left ++ more) = ⟨.error (.timeout "start marker"), [], 1⟩ := by
  refine if_pos ⟨rfl, fun hnil => h ?_⟩
  rw [List.takeWhile_append] at hnil
  split at hnil
  · rw [(List.append_eq_nil_iff.mp hnil).1]
    rfl
  · exact hnil

/-- The first of the data bytes that are found is the sixth byte behind the first marker. If what was left
has a marker in it, that byte is fixed by what was left and the header. -/
theorem found_of_marker {m : UInt8} {behind : List UInt8}
    (hmarker : left.dropWhile (· ≠ startMarker) = m :: behind)
    (hheader : header.length = headerLength + dataOffset) (hwidth : 0 < width) {x : UInt8}
    {got : Response}
    (hgot : (first field timeoutMs (left ++ (header ++ List.replicate width x))).result = .ok got)
    (hfound : (((first field timeoutMs (left ++ (header ++ List.replicate width x))).held.drop
      headerLength).drop dataOffset).take width = List.replicate width x) :
    (behind ++ header).getD 5 0 = x := by
  obtain ⟨n, hheld⟩ := exists_take_of_first hgot
  have hdrop : (left ++ (header ++ List.replicate width x)).dropWhile (· ≠ startMarker) =
      m :: (behind ++ header) ++ List.replicate width x := by
    rw [List.dropWhile_append, hmarker]
    simp
  rw [hheld, hdrop] at hfound
  have hlength : 5 < (behind ++ header).length := by
    rw [List.length_append, hheader, headerLength, dataOffset]
    omega
  -- three bytes of the header and two of the data come between the marker and it
  have hfirst : (behind ++ (header ++ List.replicate width x))[5]? = some x := by
    have hbyte := congrArg (·[0]?) hfound
    simp [headerLength, dataOffset, List.getElem?_take, List.getElem?_drop, hwidth] at hbyte
    exact hbyte.2
  rw [← List.append_assoc, List.getElem?_append_left hlength] at hfirst
  rw [List.getD_eq_getElem?_getD, hfirst]
  rfl

/-- Behind what is not clear some answer is not found: no reader that starts there returns just these data
bytes. They are chosen to differ from the byte that would be taken for the first of them. -/
theorem exists_hidden (field : LengthField) (hleft : ¬ Clear timeoutMs left)
    (hheader : header.length = headerLength + dataOffset) (hwidth : 0 < width) :
    ∃ x, ∀ got,
      (first field timeoutMs (left ++ (header ++ List.replicate width x))).result = .ok got →
      (((first field timeoutMs (left ++ (header ++ List.replicate width x))).held.drop
        headerLength).drop dataOffset).take width ≠ List.replicate width x := by
  rcases marked_of_not_clear hleft with ⟨rfl, hnoise⟩ | ⟨m, behind, hmarker⟩
  · refine ⟨0, fun got hgot => ?_⟩
    rw [first_of_hurry hnoise] at hgot
    cases hgot
  · -- any byte but the fixed one will do
    refine ⟨(behind ++ header).getD 5 0 + 1, fun got hgot hfound => ?_⟩
    have hfixed := found_of_marker hmarker hheader hwidth hgot hfound
    exact absurd hfixed (by simp)

end Cut

namespace WirePacket

variable {field : LengthField}

/-- The data of the packet, behind field identifier and count. -/
def data (p : WirePacket field) : List UInt8 :=
  (p.bytes.drop headerLength).drop dataOffset

end WirePacket

namespace Session

variable {L : Type} [Line L] [AnsweringLine L] {c : SessionConfig} {s s' : Session L}
  {left : List UInt8} {answers : List (List UInt8)}

/-- An exchange is over with the packet that is found behind noise, and nothing is left if nothing is behind
the packet. -/
theorem exchange_behind {noise : List UInt8} {p : WirePacket c.lengthField} (h : s.Awaits c left answers)
    (hclear : Clear c.responseTimeoutMs noise) (hbytes : left ++ answers.headD [] = noise ++ p.bytes)
    {request : List UInt8} (hq : IsRequest request) :
    ∃ s', s.exchange request p.response = (.ok (), s') ∧ s'.Awaits c [] answers.tail ∧
      s'.held = p.bytes ∧ s'.settings = s.settings := by
  have htime : 0 < c.responseTimeoutMs ∨ noise = [] := hclear.elim .inr fun h => .inl h.1
  have hnoise : ∀ b ∈ noise, b ≠ startMarker := by
    rintro b hb rfl
    rcases hclear with rfl | ⟨-, hmarker⟩
    · cases hb
    · exact hmarker hb
  have hcut := Cut.first_of_noise_packet htime hnoise p []
  rw [List.append_nil] at hcut
  obtain ⟨s', hexchange, hawaits, hheld, hsettings⟩ := exchange_eq_cut h hq p.response
  rw [hbytes, hcut] at hexchange hawaits hheld
  refine ⟨s', ?_, ?_, hheld, hsettings⟩
  · rw [hexchange]
    simp [Except.bind, require]
  · rw [← List.length_append, List.drop_length] at hawaits
    exact hawaits

/-- What is fetched are the data of the packet. -/
theorem fetch_behind {noise : List UInt8} {p : WirePacket c.lengthField} (h : s.Awaits c left answers)
    (hclear : Clear c.responseTimeoutMs noise) (hbytes : left ++ answers.headD [] = noise ++ p.bytes)
    {request : List UInt8} (hq : IsRequest request) {n : Nat}
    (hwide : headerLength + dataOffset + n ≤ p.bytes.length) :
    ∃ s', s.fetch request p.response n = (.ok (p.data.take n), s') ∧ s'.Awaits c [] answers.tail := by
  obtain ⟨s', hexchange, hawaits, hheld, -⟩ := exchange_behind h hclear hbytes hq
  -- what is held is the packet of the answer, and it is wide enough
  have hdata : frameData s'.reader n = .ok (p.data.take n) := by
    have hpayload : s'.reader.payload = p.bytes.drop headerLength := by
      rw [Reader.payload, reader, hheld]
    rw [frameData, if_neg, Reader.data, hpayload]
    · rfl
    · rw [hpayload, List.length_drop]
      omega
  refine ⟨s', ?_, hawaits⟩
  rw [fetch, hexchange]
  exact congrArg (·, s') hdata

/-- The packets are of the kinds that these requests are answered by. -/
def Acknowledge (acks : List (WirePacket c.lengthField)) (requests : List (List UInt8)) : Prop :=
  List.Forall₂ (fun a q => a.response = Response.classify q) acks requests

/-- A request for settings that is acknowledged is settled, and leaves nothing. -/
theorem settle_answered {p : WirePacket c.lengthField} (h : s.Awaits c left (p.bytes :: answers))
    (hclear : Clear c.responseTimeoutMs left) {request : List UInt8} (hq : IsRequest request)
    (what : String) (t : Settings) :
    ∃ s', settle what t (s.exchange request p.response) = (.ok (), s') ∧ s'.Awaits c [] answers ∧
      s'.settings = t := by
  obtain ⟨s', hexchange, hawaits, -, -⟩ := exchange_behind h hclear rfl hq
  refine ⟨s'.believe t, ?_, ⟨hawaits.config, hawaits.line⟩, rfl⟩
  rw [hexchange]
  rfl

theorem adoptRate_answered {acks : List (WirePacket c.lengthField)} {rate : Rate}
    (h : s.Awaits c left (acks.map WirePacket.bytes ++ answers)) (hclear : Clear c.responseTimeoutMs left)
    (hacks : Acknowledge acks (s.settings.rateStep rate)) :
    ∃ s' left', s.adoptRate rate = (.ok (), s') ∧ s'.Awaits c left' answers ∧
      Clear c.responseTimeoutMs left' ∧ s'.settings = s.settings.withRate rate := by
  rw [Settings.rateStep] at hacks
  rw [adoptRate]
  by_cases hsame : rate = s.settings.rate
  · rw [if_pos hsame] at hacks ⊢
    cases hacks
    exact ⟨s, left, rfl, h, hclear, (Settings.withRate_self hsame).symm⟩
  · rw [if_neg hsame] at hacks ⊢
    rw [requestRate]
    cases hrequest : rate.request? with
    | none =>
      rw [hrequest] at hacks
      cases hacks
      exact ⟨_, left, rfl, ⟨h.config, h.line⟩, hclear, rfl⟩
    | some request =>
      rw [hrequest] at hacks
      cases hacks with
      | @cons a _ acks _ hkind hacks =>
        cases hacks
        obtain ⟨s', hsettle, hawaits, hsettings⟩ :=
          settle_answered (s := s.count fun c => { c with rateRequests := c.rateRequests + 1 })
            (p := a) ⟨h.config, h.line⟩ hclear (.rate hrequest) "rate" (s.settings.withRate rate)
        rw [hkind, classify_rateRequest hrequest] at hsettle
        exact ⟨s', [], hsettle, hawaits, .inl rfl, hsettings⟩

theorem adoptGain_answered {acks : List (WirePacket c.lengthField)} {d : Direction} {gain : Int}
    (h : s.Awaits c left (acks.map WirePacket.bytes ++ answers)) (hclear : Clear c.responseTimeoutMs left)
    (hacks : Acknowledge acks (s.settings.gainStep d gain)) :
    ∃ s' left', s.adoptGain d gain = (.ok (), s') ∧ s'.Awaits c left' answers ∧
      Clear c.responseTimeoutMs left' ∧ s'.settings = s.settings.withGain d gain := by
  rw [Settings.gainStep] at hacks
  rw [adoptGain]
  by_cases hsame : gain = s.settings.gain d
  · rw [if_pos hsame] at hacks ⊢
    cases hacks
    exact ⟨s, left, rfl, h, hclear, (Settings.withGain_self hsame).symm⟩
  · rw [if_neg hsame] at hacks ⊢
    rw [requestGain]
    cases hacks with
    | @cons a _ acks _ hkind hacks =>
      cases hacks
      obtain ⟨s', hsettle, hawaits, hsettings⟩ :=
        settle_answered (s := s.count fun c => { c with gainRequests := c.gainRequests + 1 })
          (p := a) ⟨h.config, h.line⟩ hclear (.gain ..) "gain" (s.settings.withGain d gain)
      rw [hkind, classify_gainRequest] at hsettle
      exact ⟨s', [], hsettle, hawaits, .inl rfl, hsettings⟩

/-- **A frame whose requests are answered is delivered**, if what was left on the line is clear. -/
theorem frame_answered {f : FrameCall} (hfits : f.Fits) {acks : List (WirePacket c.lengthField)}
    {p : WirePacket c.lengthField}
    (h : s.Awaits c left (acks.map WirePacket.bytes ++ (p.bytes :: answers)))
    (hclear : Clear c.responseTimeoutMs left)
    (hacks : Acknowledge acks (s.settings.rateStep f.rate ++ s.settings.gainStep f.direction f.gain))
    (hkind : p.response = f.response) (hwide : headerLength + dataOffset + f.width ≤ p.bytes.length) :
    (f.run s).1 = f.delivered (p.data.take f.width) := by
  -- the acknowledgements of the rate come first, then those of the gain
  have hrateAcks := List.forall₂_take_append _ _ _ hacks
  have hgainAcks := List.forall₂_drop_append _ _ _ hacks
  rw [← List.take_append_drop (s.settings.rateStep f.rate).length acks, List.map_append,
    List.append_assoc] at h
  obtain ⟨s₁, left₁, hrate, h₁, hclear₁, hsettings₁⟩ := adoptRate_answered h hclear hrateAcks
  rw [← Settings.gainStep_withRate _ f.rate, ← hsettings₁] at hgainAcks
  obtain ⟨s₂, left₂, hgain, h₂, hclear₂, -⟩ := adoptGain_answered h₁ hclear₁ hgainAcks
  have hprepare : s.prepareFrame f.available f.rate f.direction f.gain = (.ok (), s₂) := by
    rw [prepareFrame, if_pos h.isOpen, if_neg (Nat.not_lt.mpr hfits), hrate]
    exact hgain
  obtain ⟨s₃, hfetch, -⟩ := fetch_behind h₂ hclear₂ rfl (f.isRequest_packet hfits) hwide
  rw [hkind] at hfetch
  rw [f.run_eq, hprepare]
  dsimp only
  rw [hfetch]

/-! ## Timeouts -/

theorem Awaits.kept : Kept fun s : Session L => ∃ left answers, s.Awaits c left answers where
  exchange := by
    rintro s request expected hq ⟨left, answers, h⟩
    obtain ⟨s', hexchange, hawaits, -⟩ := exchange_eq_cut h hq expected
    rw [hexchange]
    exact ⟨_, _, hawaits⟩
  count := by
    rintro s f ⟨left, answers, h⟩
    exact ⟨left, answers, h.config, h.line⟩
  believe := by
    rintro s t ⟨left, answers, h⟩
    exact ⟨left, answers, h.config, h.line⟩

omit [Line L] [AnsweringLine L] in
theorem settle_error {what : String} {t : Settings} {x : Except Fault Unit} {e : Fault}
    (h : settle what t (x, s) = (.error e, s')) : e.IsOfSession := by
  rcases settle_cases h with ⟨hok, -⟩ | ⟨-, -, herror, -⟩
  · cases hok
  · cases herror
    trivial

theorem require_error {expected got : Response} {e : Fault} (h : require expected got = .error e) :
    e.IsOfSession := by
  rw [require] at h
  split at h
  · cases h
  · split at h
    all_goals
      cases h
      trivial

/-- What is fetched are data bytes of the packet that was cut off, whatever that packet is. -/
theorem fetch_data (h : s.Awaits c left answers) {request : List UInt8} (hq : IsRequest request)
    {expected : Response} {n : Nat} {data : List UInt8} (hs : s.fetch request expected n = (.ok data, s')) :
    let cut := Cut.first c.lengthField c.responseTimeoutMs (left ++ answers.headD [])
    ∃ got, cut.result = .ok got ∧ data = ((cut.held.drop headerLength).drop dataOffset).take n := by
  intro cut
  obtain ⟨s₁, hexchange, -, hheld, -⟩ := exchange_eq_cut h hq expected
  rw [fetch, hexchange] at hs
  cases hresult : cut.result with
  | error e =>
    rw [hresult] at hs
    cases hs
  | ok got =>
    rw [hresult] at hs
    cases hrequire : require expected got with
    | error e =>
      simp only [Except.bind, hrequire] at hs
      cases hs
    | ok _ =>
      simp only [Except.bind, hrequire, frameData] at hs
      split at hs
      · cases hs
      · cases hs
        refine ⟨got, rfl, ?_⟩
        rw [Reader.data, Reader.payload, reader, hheld]

omit [AnsweringLine L] in
theorem fetch_of_encoded (h : s.isOpen = true) {audio : AudioBlock} {buffer buffer' : List UInt8} {n : Nat}
    (hrun : ((FrameCall.encode audio buffer s.settings.rate s.settings.gainIn).run s).1 =
      .encoded (.ok n) buffer') :
    ∃ data s', s.fetch (audioPacket audio) .voice s.settings.rate.voiceBytes = (.ok data, s') ∧
      buffer' = data ++ buffer.drop s.settings.rate.voiceBytes := by
  -- at the settings believed there is nothing to ask for before the frame
  have hrate : s.adoptRate s.settings.rate = (.ok (), s) := if_pos rfl
  have hgain : s.adoptGain .input s.settings.gainIn = (.ok (), s) := if_pos rfl
  rw [FrameCall.run, encode, prepareFrame, if_pos h] at hrun
  by_cases hsmall : buffer.length < s.settings.rate.voiceBytes
  · rw [if_pos hsmall] at hrun
    cases hrun
  · rw [if_neg hsmall, hrate] at hrun
    dsimp only at hrun
    rw [hgain] at hrun
    dsimp only at hrun
    rcases hfetch : s.fetch (audioPacket audio) .voice s.settings.rate.voiceBytes with ⟨e | data, s'⟩
    all_goals
      rw [hfetch] at hrun
      cases hrun
    exact ⟨data, s', rfl, rfl⟩

theorem frameData_error {r : Reader} {n : Nat} {e : Fault} (h : frameData r n = .error e) :
    e.IsOfSession := by
  rw [frameData] at h
  split at h
  · cases h
    trivial
  · cases h

omit [AnsweringLine L] in
/-- What goes wrong before a frame is sent has a name of its own: how an exchange failed does not show. -/
theorem prepareFrame_error {available : Nat} {rate : Rate} {d : Direction} {gain : Int} {e : Fault}
    (h : s.prepareFrame available rate d gain = (.error e, s')) : e.IsOfSession := by
  rw [prepareFrame] at h
  split at h
  · split at h
    · cases h
      trivial
    · rcases hrate : s.adoptRate rate with ⟨_ | _, s₁⟩
      all_goals rw [hrate] at h
      · cases h
        rw [adoptRate] at hrate
        split at hrate
        · cases hrate
        · exact settle_error hrate
      · dsimp only at h
        rw [adoptGain] at h
        split at h
        · cases h
        · exact settle_error h
  · cases h
    trivial

omit [AnsweringLine L] in
/-- A frame that fails for another reason than the session's own fails in its last exchange. -/
theorem fetch_of_failed {f : FrameCall} {e : Fault} (he : ¬ e.IsOfSession)
    (h : (f.run s).1 = f.failed e) :
    ∃ s₁ s₂, s.prepareFrame f.available f.rate f.direction f.gain = (.ok (), s₁) ∧
      s₁.fetch f.packet f.response f.width = (.error e, s₂) ∧
      (f.run s).2 = s₂.countFrame f.direction (.error e) := by
  -- an outcome tells the fault it failed for
  have hsame : ∀ e', f.failed e' = f.failed e → e' = e := by
    intro e' hfailed
    have hfault := congrArg Outcome.fault? hfailed
    rw [f.fault_failed, f.fault_failed] at hfault
    exact Option.some.inj hfault
  rw [f.run_eq] at h ⊢
  rcases hprepare : s.prepareFrame f.available f.rate f.direction f.gain with ⟨e' | _, s₁⟩
  all_goals rw [hprepare] at h
  · rw [← hsame e' h] at he
    exact absurd (prepareFrame_error hprepare) he
  · dsimp only at h ⊢
    rcases hfetch : s₁.fetch f.packet f.response f.width with ⟨e' | data, s₂⟩
    all_goals rw [hfetch] at h
    · cases hsame e' h
      exact ⟨s₁, s₂, rfl, hfetch, rfl⟩
    · have hfault := congrArg Outcome.fault? h
      rw [f.fault_delivered, f.fault_failed] at hfault
      cases hfault

theorem fetch_timeout (h : s.Awaits c left answers) (ht : 0 < c.responseTimeoutMs)
    {request : List UInt8} (hq : IsRequest request) {expected : Response} {n : Nat} {stage : String}
    (hs : s.fetch request expected n = (.error (.timeout stage), s')) :
    s'.Awaits c [] answers.tail := by
  obtain ⟨s₁, hexchange, h₁, -⟩ := exchange_eq_cut h hq expected
  rw [fetch, hexchange] at hs
  generalize left ++ answers.headD [] = bytes at *
  cases hresult : (Cut.first c.lengthField c.responseTimeoutMs bytes).result with
  | error e =>
    rw [hresult] at hs
    cases hs
    rwa [Cut.first_consumed_of_timeout ht hresult, List.drop_length] at h₁
  | ok got =>
    -- a packet came, and what a session finds wrong with a packet is no timeout
    rw [hresult] at hs
    cases hrequire : require expected got with
    | error e =>
      simp only [Except.bind, hrequire] at hs
      cases hs
      exact (require_error hrequire).elim
    | ok _ =>
      simp only [Except.bind, hrequire] at hs
      cases hdata : frameData s₁.reader n with
      | error e =>
        rw [hdata] at hs
        cases hs
        exact (frameData_error hdata).elim
      | ok data =>
        rw [hdata] at hs
        cases hs

/-- **A frame that times out leaves nothing**, if nothing else fails on the line. -/
theorem frame_timeout (h : s.Awaits c left answers) (ht : 0 < c.responseTimeoutMs) {f : FrameCall}
    {stage : String} (hrun : (f.run s).1 = f.failed (.timeout stage)) :
    ∃ later, (f.run s).2.Awaits c [] later := by
  obtain ⟨s₁, s₂, hprepare, hfetch, hafter⟩ := fetch_of_failed id hrun
  obtain ⟨left₁, answers₁, h₁⟩ : ∃ left answers, s₁.Awaits c left answers := by
    have hkept := Awaits.kept.conserved.prepareFrame f.available f.rate f.direction f.gain ⟨left, answers, h⟩
    rwa [hprepare] at hkept
  have hfits : f.Fits := FrameCall.fits_of_prepareFrame hprepare
  have h₂ := fetch_timeout h₁ ht (f.isRequest_packet hfits) hfetch
  rw [hafter]
  exact ⟨_, h₂.config, h₂.line⟩

end Session

/-! ## Encodings after a failed call -/

/-- A frame call that failed after a request went out, on a session whose line was quiet. What the request
was answered by, and what else went wrong on the line, is open. -/
structure FailedCall (L : Type) [Line L] [AnsweringLine L] where
  session : Session L
  line : L
  holds : session.line = some line
  quiet : Line.readable line = []
  call : FrameCall
  fault : Fault
  failed : (call.run session).1 = call.failed fault
  lineAfter : L
  leaves : (call.run session).2.line = some lineAfter
  wrote : requests lineAfter ≠ requests line

/-- Answers to the requests of an encoding: one packet of the awaited kind each, and the voice packet
carries a whole frame. -/
structure EncodeAnswers {L : Type} (s : Session L) (rate : Rate) (gain : Int) where
  acks : List (WirePacket s.config.lengthField)
  voice : WirePacket s.config.lengthField
  acknowledge : Session.Acknowledge acks (s.settings.rateStep rate ++ s.settings.gainStep .input gain)
  kind : voice.response = .voice
  wide : headerLength + dataOffset + rate.voiceBytes ≤ voice.bytes.length

namespace EncodeAnswers

variable {L : Type} {s : Session L} {rate : Rate} {gain : Int}

def bytes (a : EncodeAnswers s rate gain) : List (List UInt8) :=
  a.acks.map WirePacket.bytes ++ [a.voice.bytes]

/-- The buffer with the voice frame of these answers. -/
def frame (a : EncodeAnswers s rate gain) (buffer : List UInt8) : List UInt8 :=
  a.voice.data.take rate.voiceBytes ++ buffer.drop rate.voiceBytes

/-- A session asks for nothing at the settings that it believes. -/
theorem acknowledge_same (s : Session L) :
    Session.Acknowledge ([] : List (WirePacket s.config.lengthField))
      (s.settings.rateStep s.settings.rate ++ s.settings.gainStep .input s.settings.gainIn) := by
  have hgain : s.settings.gainIn = s.settings.gain .input := rfl
  rw [Settings.rateStep, if_pos rfl, Settings.gainStep, if_pos hgain]
  exact .nil

/-- The payload of a voice packet whose data bytes are all this one. -/
def uniformVoice (r : Rate) (x : UInt8) : List UInt8 :=
  channelField :: UInt8.ofNat r.voiceBits :: List.replicate r.voiceBytes x

theorem uniformVoice_fits (r : Rate) (x : UInt8) :
    headerLength + (uniformVoice r x).length ≤ maxPacketLength := by
  have := r.voiceBytes_le
  simp only [uniformVoice, List.length_cons, List.length_replicate, headerLength, maxPacketLength]
  rw [Rate.maxVoiceBytes] at this
  omega

theorem wide_uniformVoice (r : Rate) (x : UInt8) :
    headerLength + dataOffset + r.voiceBytes ≤ (packet voiceType (uniformVoice r x)).length := by
  rw [length_packet]
  simp only [uniformVoice, List.length_cons, List.length_replicate, headerLength, dataOffset]
  omega

/-- The answer to an encoding that needs no requests but its own. -/
def bare (s : Session L) (x : UInt8) : EncodeAnswers s s.settings.rate s.settings.gainIn where
  acks := []
  voice := .ofPayload voiceType (uniformVoice s.settings.rate x) (uniformVoice_fits _ x)
  acknowledge := acknowledge_same s
  kind := Response.classify_packet ..
  wide := wide_uniformVoice s.settings.rate x

end EncodeAnswers

namespace FailedCall

variable {L : Type} [Line L] [AnsweringLine L]

def after (c : FailedCall L) : Session L :=
  (c.call.run c.session).2

def timeoutMs (c : FailedCall L) : Nat :=
  c.session.config.responseTimeoutMs

theorem config_after (c : FailedCall L) : c.after.config = c.session.config :=
  (Session.Kept.of_config c.session.config).frame c.call rfl

def left (c : FailedCall L) : List UInt8 :=
  Line.readable c.lineAfter

/-- The session after the call, when its line has become another one. -/
def resume (c : FailedCall L) (l : L) : Session L :=
  { c.after with line := some l }

theorem awaits_resume (c : FailedCall L) {l : L} {answers : List (List UInt8)}
    (h : Stands l c.left answers) : (c.resume l).Awaits c.after.config c.left answers :=
  ⟨rfl, l, rfl, h⟩

theorem left_of_timeout (c : FailedCall L) {left : List UInt8} {answers : List (List UInt8)}
    (h : Stands c.line left answers) (ht : 0 < c.session.config.responseTimeoutMs) {stage : String}
    (hfault : c.fault = .timeout stage) : c.left = [] := by
  have hrun := c.failed
  rw [hfault] at hrun
  obtain ⟨later, hawaits⟩ := Session.frame_timeout ⟨rfl, _, c.holds, h⟩ ht hrun
  obtain ⟨l, hl, hstands⟩ := hawaits.line
  have hsame : c.lineAfter = l := Option.some.inj (c.leaves.symm.trans hl)
  show Line.readable c.lineAfter = []
  rw [hsame]
  exact readable_of_stands hstands

theorem next_encode_of_clear (c : FailedCall L) (hclear : Clear c.timeoutMs c.left) {rate : Rate}
    {gain : Int} (a : EncodeAnswers c.after rate gain) {l : L} {more : List (List UInt8)}
    (h : Stands l c.left (a.bytes ++ more)) (audio : AudioBlock) {buffer : List UInt8}
    (hbuffer : rate.voiceBytes ≤ buffer.length) :
    ((FrameCall.encode audio buffer rate gain).run (c.resume l)).1 =
      .encoded (.ok rate.voiceBytes) (a.frame buffer) := by
  have hawaits := c.awaits_resume h
  rw [EncodeAnswers.bytes, List.append_assoc] at hawaits
  rw [timeoutMs, ← c.config_after] at hclear
  exact Session.frame_answered (f := .encode audio buffer rate gain) hbuffer hawaits hclear
    a.acknowledge a.kind a.wide

theorem exists_lost_of_not_clear (c : FailedCall L) (hleft : ¬ Clear c.timeoutMs c.left)
    (hwidth : 0 < c.after.settings.rate.voiceBytes) :
    ∃ (a : EncodeAnswers c.after c.after.settings.rate c.after.settings.gainIn) (l : L),
      Stands l c.left a.bytes ∧ ∀ audio buffer,
        ((FrameCall.encode audio buffer c.after.settings.rate c.after.settings.gainIn).run
          (c.resume l)).1 ≠ .encoded (.ok c.after.settings.rate.voiceBytes) (a.frame buffer) := by
  rw [timeoutMs, ← c.config_after] at hleft
  have hheader : (voiceHeader (bigEndian16 (c.after.settings.rate.voiceBytes + 2))
      c.after.settings.rate.voiceBits).length = headerLength + dataOffset := rfl
  obtain ⟨x, hx⟩ := Cut.exists_hidden c.after.config.lengthField hleft hheader hwidth
  let a := EncodeAnswers.bare c.after x
  have hbytes : a.voice.bytes =
      voiceHeader (bigEndian16 (c.after.settings.rate.voiceBytes + 2)) c.after.settings.rate.voiceBits ++
        List.replicate c.after.settings.rate.voiceBytes x := by
    show packet voiceType _ = _
    simp [packet, voiceHeader, EncodeAnswers.uniformVoice]
  have hown : a.voice.data.take c.after.settings.rate.voiceBytes =
      List.replicate c.after.settings.rate.voiceBytes x := by
    have hdrop : a.voice.bytes.drop (headerLength + dataOffset) =
        List.replicate c.after.settings.rate.voiceBytes x := by
      rw [hbytes]
      exact List.drop_left' rfl
    rw [WirePacket.data, List.drop_drop, hdrop, List.take_replicate, Nat.min_self]
  obtain ⟨l, hl⟩ := exists_stands (L := L) c.left a.bytes
  have hawaits := c.awaits_resume hl
  refine ⟨a, l, hl, ?_⟩
  intro audio buffer hrun
  obtain ⟨data, s', hfetch, hbuffer⟩ := Session.fetch_of_encoded hawaits.isOpen hrun
  obtain ⟨got, hgot, hdata⟩ := Session.fetch_data hawaits (.audio audio) hfetch
  have hhead : a.bytes.headD [] = a.voice.bytes := rfl
  rw [hhead, hbytes] at hgot hdata
  have hsame : a.voice.data.take c.after.settings.rate.voiceBytes = data :=
    List.append_cancel_right hbuffer
  exact hx got hgot (hdata.symm.trans (hsame.symm.trans hown))

/-- **The encoding after a failed call.** On a byte stream whose far end answers, and whatever the failed
call came to: if what it left can be skipped, then every encoding whose requests are answered by one packet
of the awaited kind each returns the frame of the voice packet that answered it. If it cannot be skipped,
there are such answers to an encoding at the settings believed that it does not return. A timeout leaves
nothing at all, so what is in the way comes from an answer that was longer than one packet, or was not
read to its end. -/
theorem next_encode (c : FailedCall L) :
    (Clear c.timeoutMs c.left →
      ∀ {rate : Rate} {gain : Int} (a : EncodeAnswers c.after rate gain) {l : L}
        {more : List (List UInt8)} (audio : AudioBlock) {buffer : List UInt8},
        Stands l c.left (a.bytes ++ more) → rate.voiceBytes ≤ buffer.length →
        ((FrameCall.encode audio buffer rate gain).run (c.resume l)).1 =
          .encoded (.ok rate.voiceBytes) (a.frame buffer)) ∧
    (¬ Clear c.timeoutMs c.left → 0 < c.after.settings.rate.voiceBytes →
      ∃ (a : EncodeAnswers c.after c.after.settings.rate c.after.settings.gainIn) (l : L),
        Stands l c.left a.bytes ∧ ∀ audio buffer,
          ((FrameCall.encode audio buffer c.after.settings.rate c.after.settings.gainIn).run
            (c.resume l)).1 ≠ .encoded (.ok c.after.settings.rate.voiceBytes) (a.frame buffer)) ∧
    (0 < c.timeoutMs → (∃ answers, Stands c.line [] answers) → (∃ stage, c.fault = .timeout stage) →
      c.left = []) := by
  refine ⟨?_, c.exists_lost_of_not_clear, ?_⟩
  · intro hclear rate gain a l more audio buffer hstands hbuffer
    exact c.next_encode_of_clear hclear a hstands audio hbuffer
  · rintro ht ⟨answers, hstands⟩ ⟨stage, hfault⟩
    exact c.left_of_timeout hstands ht hfault

/-- An encoding of silence into a buffer that is just large enough. -/
def encodeSilence : FrameCall :=
  .encode (AudioBlock.fill 0) (List.replicate 7 0) .r2450 0

/-- A bench line that acknowledges a rate, and then answers a frame. -/
def heldLine (answer : List UInt8) : BenchLine where
  replies := [[0x61, 0x00, 0x02, 0x00, 0x0a, 0x00], answer]
  sent := [productQuery]
  prepareCalls := 1

/-- The session that was attached to this line, when it answered the identification. -/
def heldSession (answer : List UInt8) : Session BenchLine :=
  (({} : Session BenchLine).attach
    { replies := [0x61, 0x00, 0x02, 0x00, 0x30, 0x41] :: (heldLine answer).replies }).2.1

/-- The line after the encoding: some of the answer is left. -/
def heldLineAfter (left : List UInt8) : BenchLine where
  incoming := left
  sent := [productQuery] ++ Rate.r2450.request?.toList ++ [audioPacket (AudioBlock.fill 0)]
  prepareCalls := 3

def ofAnswer (answer left : List UInt8) (fault : Fault)
    (holds : (heldSession answer).line = some (heldLine answer))
    (failed : (encodeSilence.run (heldSession answer)).1 = encodeSilence.failed fault)
    (leaves : (encodeSilence.run (heldSession answer)).2.line = some (heldLineAfter left)) :
    FailedCall BenchLine where
  session := heldSession answer
  line := heldLine answer
  holds := holds
  quiet := rfl
  call := encodeSilence
  fault := fault
  failed := failed
  lineAfter := heldLineAfter left
  leaves := leaves
  wrote := by
    show [productQuery] ++ Rate.r2450.request?.toList ++ [audioPacket (AudioBlock.fill 0)] ≠ [productQuery]
    decide

-- an audio packet is longer than the default depth
set_option maxRecDepth 10000 in
/-- The frame is answered by a packet of no known kind, and a byte of noise. -/
def noisy : FailedCall BenchLine :=
  ofAnswer [0x61, 0x00, 0x01, 0x07, 0x00, 0xaa] [0xaa] .unrecognized (by cbv) (by cbv) (by cbv)

set_option maxRecDepth 10000 in
/-- The frame is answered by a packet of no known kind, and a voice packet. -/
def doubled : FailedCall BenchLine :=
  ofAnswer
    [0x61, 0x00, 0x01, 0x07, 0x00, 0x61, 0x00, 0x09, 0x01, 0x01, 0x31, 1, 1, 1, 1, 1, 1, 1]
    [0x61, 0x00, 0x09, 0x01, 0x01, 0x31, 1, 1, 1, 1, 1, 1, 1] .unrecognized (by cbv) (by cbv) (by cbv)

set_option maxRecDepth 10000 in
/-- The frame is not answered. -/
def unanswered : FailedCall BenchLine :=
  ofAnswer [] [] (.timeout "start marker") (by cbv) (by cbv) (by cbv)

/-- The line after a failed call, with an answer to the next frame. -/
def answeredBy (c : FailedCall BenchLine) (x : UInt8) : BenchLine :=
  { c.lineAfter with replies := (EncodeAnswers.bare c.after x).bytes }

set_option maxRecDepth 10000 in
/-- Noise is skipped, a voice packet is in the way, and a timeout leaves nothing. -/
theorem next_encode_noisy :
    (Clear noisy.timeoutMs noisy.left ∧
      Stands (noisy.answeredBy 2) noisy.left ((EncodeAnswers.bare noisy.after 2).bytes ++ []) ∧
      ((FrameCall.encode (AudioBlock.fill 0) (List.replicate 7 0) noisy.after.settings.rate
          noisy.after.settings.gainIn).run (noisy.resume (noisy.answeredBy 2))).1 =
        .encoded (.ok noisy.after.settings.rate.voiceBytes)
          ((EncodeAnswers.bare noisy.after 2).frame (List.replicate 7 0))) ∧
    (¬ Clear doubled.timeoutMs doubled.left ∧ doubled.after.settings.rate = .r2450 ∧
      ∃ (a : EncodeAnswers doubled.after doubled.after.settings.rate doubled.after.settings.gainIn)
        (l : BenchLine), Stands l doubled.left a.bytes ∧ ∀ audio buffer,
          ((FrameCall.encode audio buffer doubled.after.settings.rate
              doubled.after.settings.gainIn).run (doubled.resume l)).1 ≠
            .encoded (.ok doubled.after.settings.rate.voiceBytes) (a.frame buffer)) ∧
    unanswered.left = [] := by
  have hnoisyTime : noisy.timeoutMs = 500 := by
    cbv
  have hunansweredTime : unanswered.timeoutMs = 500 := by
    cbv
  have hclear : Clear noisy.timeoutMs noisy.left := .inr ⟨by omega, by decide⟩
  have hstands : Stands (noisy.answeredBy 2) noisy.left ((EncodeAnswers.bare noisy.after 2).bytes ++ []) :=
    ⟨⟨rfl, rfl⟩, rfl, rfl, rfl, rfl, (List.append_nil _).symm⟩
  have hnoisy : noisy.after.settings.rate = .r2450 := by
    cbv
  have hmarked : ¬ Clear doubled.timeoutMs doubled.left := by
    rintro (h | ⟨-, h⟩)
    · cases h
    · exact h List.mem_cons_self
  have hdoubled : doubled.after.settings.rate = .r2450 := by
    cbv
  refine ⟨⟨hclear, hstands, ?_⟩, ⟨hmarked, hdoubled, ?_⟩, ?_⟩
  · exact noisy.next_encode.1 hclear _ _ hstands (by rw [hnoisy]; decide)
  · exact doubled.next_encode.2.1 hmarked (by rw [hdoubled]; decide)
  · exact unanswered.next_encode.2.2 (by omega)
      ⟨_, ⟨rfl, rfl⟩, rfl, rfl, rfl, rfl, rfl⟩ ⟨_, rfl⟩

set_option maxRecDepth 10000 in
/-- **A late answer is taken for the next one.** The encoding after a failed call returns the frame of a
voice packet that was left behind, and not of the one that answered it. -/
theorem exists_next_encode_late :
    ∃ (c : FailedCall BenchLine)
      (a : EncodeAnswers c.after c.after.settings.rate c.after.settings.gainIn) (l : BenchLine),
      Stands l c.left a.bytes ∧
      ((FrameCall.encode (AudioBlock.fill 0) (List.replicate 7 0) c.after.settings.rate
        c.after.settings.gainIn).run (c.resume l)).1 = .encoded (.ok 7) (List.replicate 7 1) ∧
      a.frame (List.replicate 7 0) = List.replicate 7 2 := by
  refine ⟨doubled, EncodeAnswers.bare doubled.after 2, doubled.answeredBy 2, ?_, ?_, ?_⟩
  · exact ⟨⟨rfl, rfl⟩, rfl, rfl, rfl, rfl, rfl⟩
  · cbv
  · cbv

end FailedCall

end Vocoder
