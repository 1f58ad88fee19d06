import Vocoder.Proofs.Devices
import Vocoder.Proofs.Wiretap

/-!
# Exchanges over datagrams

A datagram line throws away what is left of a message before it takes the next one, and a session receives
once for every request. So whatever a server replies, no exchange sees anything of the reply to another one.

* `loneOutcome` — what a reader makes of one reply, and of nothing else.
* `Isolated` — the history of a line to a scripted server: the `k`-th request was answered by the `k`-th
  reply alone.
* `Identifying.awaitName` — only the identification receives again, and then there is nothing to receive.
* `Isolated.kept`, `Isolated.openLine` — opening a line makes such a history, and every call keeps it.
-/

namespace Vocoder

/-- What is heard when no message is there. -/
def silence : Except Fault Response × List UInt8 :=
  (.error .noMessage, [])

/-- What a reader of a configuration makes of a reply on a fresh line that holds as much of it as can be
staged, and what it holds then. An empty reply is silence. -/
def loneOutcome (c : SessionConfig) (reply : List UInt8) : Except Fault Response × List UInt8 :=
  if reply = [] then silence
  else
    match Reader.receive { lengthField := c.lengthField, timeoutMs := c.responseTimeoutMs }
      ({ incoming := reply.take stagingSize } : BenchLine) with
    | (x, r, _) => (x, r.held)

theorem loneOutcome_of_ne {c : SessionConfig} {reply : List UInt8} (h : reply ≠ []) :
    loneOutcome c reply =
      ((Cut.first c.lengthField c.responseTimeoutMs (reply.take stagingSize)).result,
        (Cut.first c.lengthField c.responseTimeoutMs (reply.take stagingSize)).held) := by
  rw [loneOutcome, if_neg h, Reader.receive_bench]
  rfl

/-! ## One receive -/

namespace DatagramDevice

/-- A message that waits alone is received alone, and nothing waits behind it. -/
theorem receive_messages {d : DatagramDevice} (h : d.Hears) {reply : List UInt8}
    (hinbox : d.line.inbox = messages reply) {c : SessionConfig} {r : Reader} (hr : r.Fits c) :
    ∃ d', r.receive d = ((loneOutcome c reply).1, { r with held := (loneOutcome c reply).2 }, d') ∧
      d'.Hears ∧ d'.line.inbox = [] ∧ d'.script = d.script := by
  by_cases hreply : reply = []
  · rw [messages, if_pos hreply] at hinbox
    refine ⟨d.unstaged, ?_, ⟨h.isOpen, h.route⟩, hinbox, rfl⟩
    rw [loneOutcome, if_pos hreply]
    exact receive_of_nil h.isOpen hinbox r
  · rw [messages, if_neg hreply] at hinbox
    have hreceive := receive_of_cons h.isOpen hinbox hreply r
    rw [loneOutcome_of_ne hreply, ← hr.1, ← hr.2]
    refine ⟨_, hreceive, ?_, rfl, rfl⟩
    exact ⟨h.isOpen, h.route⟩

end DatagramDevice

/-! ## Histories -/

/-- The `k`-th exchange over the line. The first one identifies the chip: after its reply it may listen
once more, but never to more messages than the configuration allows for. -/
structure OwnReply (c : SessionConfig) (replies : List (List UInt8)) (k : Nat) (e : Exchange) : Prop where
  sent : e.sent = .ok ()
  identify : k = 0 → e.request = productQuery ∧
    ∃ m ≤ 1, e.heard =
      (loneOutcome c (replies.getD 0 []) :: List.replicate m silence).take c.identifyAttempts
  heard : k ≠ 0 → e.heard = [loneOutcome c (replies.getD k [])]

/-- An exchange of its own reply goes behind others of theirs. -/
theorem OwnReply.concat {c : SessionConfig} {replies : List (List UInt8)} {log : List Exchange}
    (h : ∀ k e, log[k]? = some e → OwnReply c replies k e) {e : Exchange}
    (he : OwnReply c replies log.length e) :
    ∀ k e', (log ++ [e])[k]? = some e' → OwnReply c replies k e' := by
  intro k e' hk
  -- one of the others, or the new one
  rcases Nat.lt_or_ge k log.length with hlt | hge
  · rw [List.getElem?_append_left hlt] at hk
    exact h k e' hk
  · rw [List.getElem?_append_right hge] at hk
    obtain ⟨hlt, rfl⟩ := List.getElem?_eq_some_iff.mp hk
    have hindex : k = log.length := by
      rw [List.length_singleton] at hlt
      omega
    subst hindex
    simpa using he

/-- The history of a line to a server with these replies. -/
structure Isolated (c : SessionConfig) (replies : List (List UInt8)) (t : Wiretap DatagramDevice) :
    Prop where
  /-- No message waits. -/
  inbox : t.line.line.inbox = []
  /-- The server got just the requests of the history. -/
  requests : t.line.script.requests = t.log.reverse.map Exchange.request
  script : t.line.script.replies = replies.drop t.log.length
  begun : t.log ≠ []
  own : ∀ k e, t.log.reverse[k]? = some e → OwnReply c replies k e

namespace Isolated

variable {c : SessionConfig} {replies : List (List UInt8)} {t : Wiretap DatagramDevice}

/-- One exchange: what waits after the request is its own reply, and one receive takes it. -/
theorem exchange (h : Isolated c replies t) (hears : t.line.Hears) (request : List UInt8) {r : Reader}
    (hr : r.Fits c) :
    ∃ t₁ t' x held, Port.send t request = (.ok (), t₁) ∧
      Port.receive r t₁ = (x, { r with held := held }, t') ∧ Isolated c replies t' ∧ t'.line.Hears := by
  have hsend := Wiretap.send_eq (DatagramDevice.send_eq hears request)
  have hinbox : (t.line.answered request).line.inbox =
      DatagramDevice.messages (replies.getD t.log.length []) := by
    show t.line.line.inbox ++ DatagramDevice.messages (t.line.script.replies.head?.getD []) = _
    rw [h.inbox, h.script, List.head?_drop, List.getD_eq_getElem?_getD]
    rfl
  obtain ⟨d', hreceive, hears', hinbox', hscript⟩ :=
    DatagramDevice.receive_messages (DatagramDevice.hears_answered hears request) hinbox hr
  refine ⟨_, _, _, _, hsend, Wiretap.receive_eq (t := ⟨_, _⟩) hreceive, ⟨hinbox', ?_, ?_, ?_, ?_⟩, hears'⟩
  · rw [hscript]
    show t.line.script.requests ++ [request] = _
    rw [h.requests]
    simp [Exchange.hear]
  · rw [hscript]
    show t.line.script.replies.tail = _
    rw [h.script]
    simp
  · simp
  · -- the new exchange comes behind those of the history so far
    have hlog : (({ request := request, sent := .ok () : Exchange } :: t.log).modifyHead
        (·.hear (loneOutcome c (replies.getD t.log.length [])))).reverse =
          t.log.reverse ++ [⟨request, .ok (), [loneOutcome c (replies.getD t.log.length [])]⟩] := by
      simp [Exchange.hear]
    have hpos : t.log.length ≠ 0 := by simpa using h.begun
    have hnew : OwnReply c replies t.log.reverse.length
        ⟨request, .ok (), [loneOutcome c (replies.getD t.log.length [])]⟩ := by
      rw [List.length_reverse]
      exact ⟨rfl, fun hzero => absurd hzero hpos, fun _ => rfl⟩
    rw [hlog]
    exact OwnReply.concat h.own hnew

end Isolated

/-- The session is open on a line with such a history, and the server can be reached. -/
def Session.IsIsolated (c : SessionConfig) (replies : List (List UInt8))
    (s : Session (Wiretap DatagramDevice)) : Prop :=
  s.config = c ∧ ∃ t, s.line = some t ∧ Isolated c replies t ∧ t.line.Hears

/-- **Every call keeps the exchanges apart.** -/
theorem Isolated.kept (c : SessionConfig) (replies : List (List UInt8)) :
    Session.Kept (Session.IsIsolated c replies) where
  exchange := by
    rintro s request expected - ⟨hconfig, t, ht, h, hears⟩
    have hfits : s.reader.Fits c := by
      rw [← hconfig]
      exact ⟨rfl, rfl⟩
    obtain ⟨t₁, t', x, held, hsend, hreceive, h', hears'⟩ := h.exchange hears request hfits
    rw [Session.exchange, ht]
    dsimp only
    rw [hsend]
    dsimp only
    rw [hreceive]
    cases x with
    | error f => exact ⟨hconfig, t', rfl, h', hears'⟩
    | ok got => exact ⟨hconfig, t', rfl, h', hears'⟩
  count _ h := h
  believe _ h := h

/-! ## The identification -/

/-- The chip has been asked who it is; a message may wait, and so much was heard. -/
structure Identifying (replies : List (List UInt8)) (waiting : List UInt8)
    (heard : List (Except Fault Response × List UInt8)) (t : Wiretap DatagramDevice) : Prop where
  hears : t.line.Hears
  inbox : t.line.line.inbox = DatagramDevice.messages waiting
  script : t.line.script = { replies := replies.tail, requests := [productQuery] }
  log : t.log = [{ request := productQuery, sent := .ok (), heard := heard }]

namespace Identifying

variable {c : SessionConfig} {replies : List (List UInt8)} {waiting : List UInt8}
  {heard : List (Except Fault Response × List UInt8)} {t : Wiretap DatagramDevice}

theorem receive (h : Identifying replies waiting heard t) {r : Reader} (hr : r.Fits c) :
    ∃ t', Port.receive r t =
        ((loneOutcome c waiting).1, { r with held := (loneOutcome c waiting).2 }, t') ∧
      Identifying replies [] (heard ++ [loneOutcome c waiting]) t' := by
  obtain ⟨d', hreceive, hears', hinbox', hscript⟩ :=
    DatagramDevice.receive_messages h.hears h.inbox hr
  refine ⟨_, Wiretap.receive_eq hreceive, hears', hinbox', hscript.trans h.script, ?_⟩
  rw [h.log]
  rfl

/-- When nothing waits, one more receive ends the wait. -/
theorem awaitName_of_nil (h : Identifying replies [] heard t) {r r' : Reader} (hr : r.Fits c) {n : Nat}
    {t' : Wiretap DatagramDevice} {x : Except Fault String}
    (hs : Session.awaitName r n t = (x, r', t')) :
    (∀ name, x ≠ .ok name) ∧ Identifying replies [] (heard ++ [silence].take n) t' := by
  cases n with
  | zero =>
    cases hs
    rw [List.take_zero, List.append_nil]
    exact ⟨nofun, h⟩
  | succ n =>
    obtain ⟨t₁, hreceive, h₁⟩ := h.receive hr
    have hsilence : loneOutcome c [] = silence := if_pos rfl
    rw [hsilence] at hreceive h₁
    rw [Session.awaitName, hreceive] at hs
    cases hs
    exact ⟨nofun, by simpa using h₁⟩

/-- **Only the identification receives again, and then there is nothing to receive.** -/
theorem awaitName (h : Identifying replies waiting [] t) {r r' : Reader} (hr : r.Fits c) {n : Nat}
    {t' : Wiretap DatagramDevice} {x : Except Fault String}
    (hs : Session.awaitName r n t = (x, r', t')) :
    ∃ m ≤ 1, ∃ left, Identifying replies left
        ((loneOutcome c waiting :: List.replicate m silence).take n) t' ∧
      ∀ name, x = .ok name → left = [] := by
  cases n with
  | zero =>
    cases hs
    exact ⟨0, Nat.zero_le 1, waiting, h, nofun⟩
  | succ n =>
    obtain ⟨t₁, hreceive, h₁⟩ := h.receive hr
    rw [Session.awaitName, hreceive] at hs
    have hr₁ : ({ r with held := (loneOutcome c waiting).2 } : Reader).Fits c := hr
    cases hx : (loneOutcome c waiting).1 with
    | error f =>
      rw [hx] at hs
      cases hs
      exact ⟨0, Nat.zero_le 1, [], by simpa using h₁, fun _ _ => rfl⟩
    | ok got =>
      rw [hx] at hs
      cases got with
      | productId =>
        cases hs
        exact ⟨0, Nat.zero_le 1, [], by simpa using h₁, fun _ _ => rfl⟩
      | audio | voice | rate | gain | unknown =>
        -- the reply is used up, so the next receive finds silence and gives up
        obtain ⟨-, h₂⟩ := h₁.awaitName_of_nil hr₁ hs
        exact ⟨1, Nat.le_refl 1, [], by simpa using h₂, fun _ _ => rfl⟩

/-- The identification was answered by the first reply alone. Nothing waits any more, be it that nothing
was left or that the line was closed. -/
theorem isolated (h : Identifying replies waiting heard t)
    (hheard : ∃ m ≤ 1, heard =
      (loneOutcome c (replies.getD 0 []) :: List.replicate m silence).take c.identifyAttempts)
    {t' : Wiretap DatagramDevice} (hinbox : t'.line.line.inbox = [])
    (hscript : t'.line.script = t.line.script) (hlog : t'.log = t.log) : Isolated c replies t' := by
  rw [h.script] at hscript
  rw [h.log] at hlog
  refine ⟨hinbox, ?_, ?_, ?_, ?_⟩
  · rw [hscript, hlog]
    rfl
  · rw [hscript, hlog, List.length_singleton, List.drop_one]
  · rw [hlog]
    exact List.cons_ne_nil _ _
  · intro k e hk
    rw [hlog] at hk
    obtain ⟨hlt, rfl⟩ := List.getElem?_eq_some_iff.mp hk
    have hindex : k = 0 := by
      simpa using hlt
    subst hindex
    exact ⟨rfl, fun _ => ⟨rfl, hheard⟩, fun hne => absurd rfl hne⟩

end Identifying

/-! ## Sessions over a scripted server -/

/-- A server with these replies, and a fresh line to it with a wiretap. -/
def tappedServer (replies : List (List UInt8)) : Wiretap DatagramDevice where
  line := { script := { replies := replies } }

namespace Session

/-- Opening a line to a scripted server: the history has begun, on the line held or on the one handed
back. -/
theorem openLine_isolated (s : Session (Wiretap DatagramDevice)) (replies : List (List UInt8)) :
    let opened := s.openLine (.ok (tappedServer replies))
    opened.2.1.IsIsolated s.config replies ∨
      opened.2.1.line = none ∧ ∃ t, opened.2.2.getLast? = some t ∧ Isolated s.config replies t := by
  let asked : Wiretap DatagramDevice :=
    ⟨(tappedServer replies).line.answered productQuery, [⟨productQuery, .ok (), []⟩]⟩
  have hsend : Port.send (tappedServer replies) productQuery = (.ok (), asked) :=
    Wiretap.send_eq (DatagramDevice.send_eq ⟨rfl, rfl⟩ productQuery)
  have hasked : Identifying replies (replies.getD 0 []) [] asked := by
    refine ⟨⟨rfl, rfl⟩, ?_, rfl, rfl⟩
    show [] ++ DatagramDevice.messages (replies.head?.getD []) = _
    rw [List.nil_append, List.getD_eq_getElem?_getD, List.head?_eq_getElem?]
  -- whatever the session held is closed first
  let closed : Session (Wiretap DatagramDevice) := { s with line := none }
  have hfits : closed.reader.Fits s.config := ⟨rfl, rfl⟩
  rcases hawait : awaitName closed.reader s.config.identifyAttempts asked with ⟨x, r, t⟩
  obtain ⟨m, hm, left, h, hnothing⟩ := hasked.awaitName hfits hawait
  have hidentify : identify closed.reader s.config.identifyAttempts (tappedServer replies) =
      (x, r, t) := by
    rw [identify, hsend]
    exact hawait
  have hopen : s.openLine (.ok (tappedServer replies)) =
      ((closed.attach (tappedServer replies)).1, (closed.attach (tappedServer replies)).2.1,
        s.close.2.toList ++ (closed.attach (tappedServer replies)).2.2) := rfl
  dsimp only
  rw [hopen, attach]
  dsimp only [close]
  cases x with
  | error f =>
    -- the line is closed and handed back, with its history
    rw [show identify _ _ _ = _ from hidentify]
    refine .inr ⟨rfl, Port.close t, by simp, ?_⟩
    exact h.isolated ⟨m, hm, rfl⟩ rfl rfl rfl
  | ok name =>
    have hleft : left = [] := hnothing name rfl
    subst hleft
    rw [show identify _ _ _ = _ from hidentify]
    exact .inl ⟨rfl, t, rfl, h.isolated ⟨m, hm, rfl⟩ h.inbox rfl rfl, h.hears⟩

/-- **Over datagrams every exchange is answered by its own reply alone.** Whatever the server replies, and
whatever calls follow on the opening of its line, successful or not: no message waits; the server got the
requests of the history, one for each exchange; and in the `k`-th exchange was heard what a reader makes of
the `k`-th reply on a fresh line. Only the identification may have listened once more, and to silence. The
wiretap changes nothing about the session. -/
theorem openLine_run_isolated (s : Session (Wiretap DatagramDevice)) (replies : List (List UInt8))
    (calls : List Call) :
    let opened := s.openLine (.ok (tappedServer replies))
    let s' := Happening.run opened.2.1 (calls.map .call)
    (∃ t, s'.line.or opened.2.2.getLast? = some t ∧ Isolated s.config replies t) ∧
      s'.mapLine Wiretap.line =
        Happening.run ((s.mapLine Wiretap.line).openLine (.ok (tappedServer replies).line)).2.1
          (calls.map .call) := by
  intro opened s'
  constructor
  · rcases s.openLine_isolated replies with h | ⟨hline, t, hlast, h⟩
    · obtain ⟨-, t, ht, hisolated, -⟩ := (Isolated.kept s.config replies).run_calls h calls
      exact ⟨t, by rw [ht]; rfl, hisolated⟩
    · -- a session that was not opened stays closed
      have hclosed : s'.isOpen = false :=
        (Kept.of_isOpen false).run_calls (by rw [isOpen, hline]; rfl) calls
      have hnone : s'.line = none := by simpa [isOpen] using hclosed
      exact ⟨t, by rw [hnone]; exact hlast, h⟩
  · have htapped : (calls.map Happening.call).map Happening.tapped =
        (calls.map (Happening.call (L := Wiretap DatagramDevice))) := by
      rw [List.map_map]
      rfl
    rw [Wiretap.erases.openLine s (tappedServer replies), Happening.erase_run, htapped]

end Session

end Vocoder
