import Mathlib
import Vocoder.Link
import Vocoder.Proofs.Numerals

/-!
# Which texts are addresses

A server address is read from its text by cutting it at the last colon and the part before that at its
dots. Here the texts that are read are described by how they are written.

* **`fields_append`**, **`splitAtLastColon?_append`** — the cuts find the parts that were put together.
* **`IsOctet`**, **`Dotted`**, **`IsPort`**, **`Written`** — the grammar of server addresses.
* **`Faulty`** — what is wrong with every other text.
* **`ServerAddress.parse_grammar`** — the parser accepts exactly the grammar, loses nothing of what it reads,
  and tells the first thing that is wrong with any other text.
-/

namespace Vocoder

/-! ## Parts of a text -/

theorem fields_of_not_mem {separator : Char} {cs : List Char} (h : separator ∉ cs) :
    fields separator cs = [cs] := by
  induction cs with
  | nil => rfl
  | cons c rest ih =>
    rw [List.mem_cons, not_or] at h
    rw [fields, if_neg (Ne.symm h.1), ih h.2]

theorem fields_append {separator : Char} {cs : List Char} (h : separator ∉ cs) (rest : List Char) :
    fields separator (cs ++ separator :: rest) = cs :: fields separator rest := by
  induction cs with
  | nil => rw [List.nil_append, fields, if_pos rfl]
  | cons c more ih =>
    rw [List.mem_cons, not_or] at h
    rw [List.cons_append, fields, if_neg (Ne.symm h.1), ih h.2]

namespace ServerAddress

theorem splitAtLastColon?_append {port : List Char} (h : ':' ∉ port) (ip : List Char) :
    splitAtLastColon? (ip ++ ':' :: port) = some (ip, port) := by
  have hport : ((ip ++ ':' :: port).reverse.takeWhile (· ≠ ':')).reverse = port := by
    rw [List.reverse_append, List.reverse_cons, List.append_assoc, List.takeWhile_append_of_pos]
    · simp
    · intro c hc
      have hne : c ≠ ':' := by
        rintro rfl
        exact h (List.mem_reverse.mp hc)
      simpa using hne
  rw [splitAtLastColon?, if_pos (by simp), hport]
  have hlength : (ip ++ ':' :: port).length - port.length - 1 = ip.length := by
    rw [List.length_append, List.length_cons]
    omega
  dsimp only
  rw [hlength, List.take_left]

theorem exists_last_colon {cs : List Char} (h : ':' ∈ cs) :
    ∃ ip port, ':' ∉ port ∧ cs = ip ++ ':' :: port := by
  obtain ⟨port, ip, hcs, hport⟩ := List.eq_append_cons_of_mem (List.mem_reverse.mpr h)
  refine ⟨ip.reverse, port.reverse, by simpa using hport, ?_⟩
  rw [← List.reverse_reverse cs, hcs]
  simp

/-! ## The grammar -/

/-- A decimal octet: the digits of a number below 256 without leading zeros. -/
structure IsOctet (cs : List Char) (v : UInt8) : Prop where
  nonempty : cs ≠ []
  digits : ∀ c ∈ cs, c.isDigit = true
  leading : cs.head? = some '0' → cs = ['0']
  value : Decimal.value cs = v.toNat

/-- Four octets with dots between them. -/
def Dotted (ip : List Char) (a b c d : UInt8) : Prop :=
  ∃ w x y z, ip = w ++ '.' :: (x ++ '.' :: (y ++ '.' :: z)) ∧
    IsOctet w a ∧ IsOctet x b ∧ IsOctet y c ∧ IsOctet z d

/-- Four or five digits. -/
structure PortDigits (cs : List Char) : Prop where
  length : cs.length = 4 ∨ cs.length = 5
  digits : ∀ c ∈ cs, c.isDigit = true

/-- The digits of a port that a server may have; zeros may lead. -/
structure IsPort (cs : List Char) (port : UInt16) : Prop extends PortDigits cs where
  value : Decimal.value cs = port.toNat
  unprivileged : 1024 ≤ port.toNat

/-- A text that names a server. -/
def Written (cs : List Char) (s : ServerAddress) : Prop :=
  ∃ ip port, cs = ip ++ ':' :: port ∧ Dotted ip s.a s.b s.c s.d ∧ IsPort port s.port

/-- What is wrong with a text that names no server. What is left of a problem is right. -/
inductive Faulty : List Char → Problem → Prop where
  | noColon {cs : List Char} (h : ':' ∉ cs) : Faulty cs .noColon
  | noIp {ip port : List Char} (hport : ':' ∉ port) (h : ∀ a b c d, ¬ Dotted ip a b c d) :
    Faulty (ip ++ ':' :: port) .noIp
  | portDigits {ip port : List Char} {a b c d : UInt8} (hport : ':' ∉ port) (hip : Dotted ip a b c d)
    (h : ¬ PortDigits port) : Faulty (ip ++ ':' :: port) .portDigits
  | portRange {ip port : List Char} {a b c d : UInt8} (hip : Dotted ip a b c d)
    (hdigits : PortDigits port) (h : 65535 < Decimal.value port) :
    Faulty (ip ++ ':' :: port) .portRange
  | portTooLow {ip port : List Char} {a b c d : UInt8} (hip : Dotted ip a b c d)
    (hdigits : PortDigits port) (h : Decimal.value port < 1024) :
    Faulty (ip ++ ':' :: port) .portTooLow

/-! ## Octets -/

theorem IsOctet.eq_digits {cs : List Char} {v : UInt8} (h : IsOctet cs v) :
    cs = Decimal.digits v.toNat := by
  rw [← h.value, Decimal.digits_value h.nonempty (Decimal.isNumeral_iff.mpr h.digits) h.leading]

theorem isOctet_digits (v : UInt8) : IsOctet (Decimal.digits v.toNat) v where
  nonempty := Nat.toDigits_ne_nil
  digits := Decimal.isNumeral_iff.mp (Decimal.isNumeral_digits _)
  leading := Decimal.digits_head
  value := Decimal.value_digits _

theorem octet?_iff {cs : List Char} {v : UInt8} : octet? cs = some v ↔ IsOctet cs v := by
  constructor
  · intro h
    rw [octet?] at h
    split at h
    · cases h
    rename_i hshape
    split at h
    · cases h
    rename_i hleading
    split at h
    · cases h
    rename_i hvalue
    cases h
    simp only [Bool.or_eq_true, not_or, Bool.not_eq_true, List.isEmpty_eq_false_iff, Bool.not_eq_true',
      Bool.not_eq_false, decide_eq_false_iff_not] at hshape
    obtain ⟨⟨hne, hlength⟩, hdigits⟩ := hshape
    refine ⟨hne, Decimal.isNumeral_iff.mp hdigits, ?_, ?_⟩
    · intro hzero
      -- the zero is the only digit
      obtain ⟨c, rest, rfl⟩ := List.exists_cons_of_ne_nil hne
      cases hzero
      cases rest with
      | nil => rfl
      | cons d more => simp at hleading
    · rw [UInt8.toNat_ofNat']
      omega
  · intro h
    have hlength : cs.length ≤ 3 := by
      have hlt := v.toNat_lt
      rw [h.eq_digits]
      exact (Nat.length_toDigits_le_iff (by decide) (by decide)).mpr (by omega)
    have hleading : ¬ (1 < cs.length ∧ cs.head? = some '0') := by
      rintro ⟨hlong, hzero⟩
      rw [h.leading hzero] at hlong
      exact absurd hlong (by decide)
    have hvalue : ¬ 255 < Decimal.value cs := by
      have hlt := v.toNat_lt
      rw [h.value]
      omega
    have hdigits := Decimal.isNumeral_iff.mpr h.digits
    have hne := h.nonempty
    rw [octet?, if_neg (by simp [hne, hlength, hdigits]), if_neg (by simpa using hleading),
      if_neg hvalue, h.value, UInt8.ofNat_toNat]

theorem IsOctet.not_mem {cs : List Char} {v : UInt8} (h : IsOctet cs v) : '.' ∉ cs := by
  intro hdot
  exact absurd (h.digits '.' hdot) (by decide)

theorem dotted_iff {ip : List Char} {a b c d : UInt8} :
    (fields '.' ip).map octet? = [some a, some b, some c, some d] ↔ Dotted ip a b c d := by
  constructor
  · intro h
    simp only [List.map_eq_cons_iff, List.map_eq_nil_iff, octet?_iff] at h
    obtain ⟨w, _, hfields, hw, x, _, rfl, hx, y, _, rfl, hy, z, _, rfl, hz, rfl⟩ := h
    refine ⟨w, x, y, z, ?_, hw, hx, hy, hz⟩
    rw [← join_fields '.' ip, hfields]
    simp [List.intercalate]
  · rintro ⟨w, x, y, z, rfl, hw, hx, hy, hz⟩
    rw [fields_append hw.not_mem, fields_append hx.not_mem, fields_append hy.not_mem,
      fields_of_not_mem hz.not_mem]
    simp only [List.map_cons, List.map_nil, octet?_iff.mpr hw, octet?_iff.mpr hx, octet?_iff.mpr hy,
      octet?_iff.mpr hz]

/-! ## Ports -/

theorem portOf_of_not_digits {cs : List Char} (h : ¬ PortDigits cs) : portOf cs = .error .portDigits := by
  rw [portOf, if_pos]
  refine Decidable.byContradiction fun hshape => h ?_
  simp only [Bool.or_eq_true, not_or, decide_eq_true_eq, Bool.not_eq_true', Bool.not_eq_false] at hshape
  obtain ⟨⟨hshort, hlong⟩, hdigits⟩ := hshape
  exact ⟨by omega, Decimal.isNumeral_iff.mp hdigits⟩

theorem portOf_of_digits {cs : List Char} (h : PortDigits cs) :
    portOf cs =
      if 65535 < Decimal.value cs then .error .portRange
      else if Decimal.value cs < minServerPort then .error .portTooLow
      else .ok (UInt16.ofNat (Decimal.value cs)) := by
  have hlength := h.length
  have hdigits := Decimal.isNumeral_iff.mpr h.digits
  rw [portOf, if_neg]
  simp only [Bool.or_eq_true, not_or, decide_eq_true_eq, Bool.not_eq_true', Bool.not_eq_false]
  exact ⟨by omega, hdigits⟩

theorem portOf_of_isPort {cs : List Char} {port : UInt16} (h : IsPort cs port) :
    portOf cs = .ok port := by
  have hlt := port.toNat_lt
  have hlow := h.unprivileged
  rw [portOf_of_digits h.toPortDigits, h.value, if_neg (by omega), if_neg (by rw [minServerPort]; omega),
    UInt16.ofNat_toNat]

theorem PortDigits.not_mem {cs : List Char} (h : PortDigits cs) : ':' ∉ cs := by
  intro hcolon
  exact absurd (h.digits ':' hcolon) (by decide)

theorem PortDigits.isPort {cs : List Char} (h : PortDigits cs) (hhigh : Decimal.value cs ≤ 65535)
    (hlow : 1024 ≤ Decimal.value cs) : IsPort cs (UInt16.ofNat (Decimal.value cs)) := by
  have hvalue : (UInt16.ofNat (Decimal.value cs)).toNat = Decimal.value cs := by
    rw [UInt16.toNat_ofNat']
    omega
  exact ⟨h, hvalue.symm, by omega⟩

theorem isPort_digits {port : UInt16} (h : 1024 ≤ port.toNat) :
    IsPort (Decimal.digits port.toNat) port := by
  have hlt := port.toNat_lt
  have hlong : (Decimal.digits port.toNat).length ≤ 5 :=
    (Nat.length_toDigits_le_iff (by decide) (by decide)).mpr (by omega)
  have hshort : ¬ (Decimal.digits port.toNat).length ≤ 3 := by
    rw [Decimal.digits, Nat.length_toDigits_le_iff (by decide) (by decide)]
    omega
  exact ⟨⟨by omega, Decimal.isNumeral_iff.mp (Decimal.isNumeral_digits _)⟩, Decimal.value_digits _, h⟩

/-- A port is written as it was read unless five digits start with a zero. -/
theorem IsPort.digits_eq_iff {cs : List Char} {port : UInt16} (h : IsPort cs port) :
    Decimal.digits port.toNat = cs ↔ ¬ (cs.length = 5 ∧ cs.head? = some '0') := by
  have hlength := h.length
  have hnumeral := Decimal.isNumeral_iff.mpr h.digits
  have hvalue := h.value
  have hlow := h.unprivileged
  constructor
  · rintro heq ⟨hfive, hzero⟩
    rw [← heq] at hfive hzero
    rw [Decimal.digits_head hzero] at hfive
    exact absurd hfive (by decide)
  · intro hnot
    have hhead : cs.head? ≠ some '0' := by
      intro hzero
      have hfour : cs.length = 4 := by
        refine hlength.resolve_right fun hfive => hnot ⟨hfive, hzero⟩
      -- a zero and three digits make less than a thousand
      cases cs with
      | nil => cases hzero
      | cons c rest =>
        cases hzero
        have hrest : Decimal.value rest < 10 ^ rest.length :=
          Decimal.value_lt (by simpa [Decimal.isNumeral] using hnumeral)
        have hsame : Decimal.value ('0' :: rest) = Decimal.value rest := rfl
        rw [List.length_cons] at hfour
        rw [show rest.length = 3 by omega] at hrest
        omega
    have hne : cs ≠ [] := List.ne_nil_of_length_pos (by omega)
    rw [← hvalue, Decimal.digits_value hne hnumeral fun hzero => absurd hzero hhead]

/-! ## Addresses -/

theorem ofChars_of_dotted {ip port : List Char} {a b c d : UInt8} (hport : ':' ∉ port)
    (hip : Dotted ip a b c d) : ofChars (ip ++ ':' :: port) = (portOf port).map (⟨a, b, c, d, ·⟩) := by
  rw [ofChars, splitAtLastColon?_append hport]
  dsimp only
  rw [dotted_iff.mpr hip]

theorem ofChars_of_written {cs : List Char} {s : ServerAddress} (h : Written cs s) :
    ofChars cs = .ok s := by
  obtain ⟨ip, port, rfl, hip, hport⟩ := h
  rw [ofChars_of_dotted hport.not_mem hip, portOf_of_isPort hport]
  rfl

theorem ofChars_of_faulty {cs : List Char} {p : Problem} (h : Faulty cs p) : ofChars cs = .error p := by
  cases h with
  | noColon h => rw [ofChars, splitAtLastColon?, if_neg h]
  | @noIp ip port hport h =>
    rw [ofChars, splitAtLastColon?_append hport]
    dsimp only
    split
    · rename_i a b c d hoctets
      exact absurd (dotted_iff.mp hoctets) (h a b c d)
    · rfl
  | portDigits hport hip h =>
    rw [ofChars_of_dotted hport hip, portOf_of_not_digits h]
    rfl
  | portRange hip hdigits h =>
    rw [ofChars_of_dotted hdigits.not_mem hip, portOf_of_digits hdigits, if_pos h]
    rfl
  | portTooLow hip hdigits h =>
    have hlow : Decimal.value _ < minServerPort := h
    rw [ofChars_of_dotted hdigits.not_mem hip, portOf_of_digits hdigits, if_neg (by omega), if_pos hlow]
    rfl

/-- **Every text names a server or has a fault.** The cases are the checks in their order. -/
theorem written_or_faulty (cs : List Char) : (∃ s, Written cs s) ∨ ∃ p, Faulty cs p := by
  by_cases hcolon : ':' ∈ cs
  swap
  · exact .inr ⟨_, .noColon hcolon⟩
  obtain ⟨ip, port, hport, rfl⟩ := exists_last_colon hcolon
  by_cases hip : ∃ a b c d, Dotted ip a b c d
  swap
  · exact .inr ⟨_, .noIp hport fun a b c d h => hip ⟨a, b, c, d, h⟩⟩
  obtain ⟨a, b, c, d, hip⟩ := hip
  by_cases hdigits : PortDigits port
  swap
  · exact .inr ⟨_, .portDigits hport hip hdigits⟩
  by_cases hhigh : 65535 < Decimal.value port
  · exact .inr ⟨_, .portRange hip hdigits hhigh⟩
  by_cases hlow : Decimal.value port < 1024
  · exact .inr ⟨_, .portTooLow hip hdigits hlow⟩
  · exact .inl ⟨⟨a, b, c, d, _⟩, ip, port, rfl, hip, hdigits.isPort (by omega) (by omega)⟩

theorem ofChars_ok_iff {cs : List Char} {s : ServerAddress} : ofChars cs = .ok s ↔ Written cs s := by
  refine ⟨fun h => ?_, ofChars_of_written⟩
  rcases written_or_faulty cs with ⟨s', hwritten⟩ | ⟨p, hfaulty⟩
  · rw [ofChars_of_written hwritten] at h
    cases h
    exact hwritten
  · rw [ofChars_of_faulty hfaulty] at h
    cases h

theorem ofChars_error_iff {cs : List Char} {p : Problem} : ofChars cs = .error p ↔ Faulty cs p := by
  refine ⟨fun h => ?_, ofChars_of_faulty⟩
  rcases written_or_faulty cs with ⟨s, hwritten⟩ | ⟨p', hfaulty⟩
  · rw [ofChars_of_written hwritten] at h
    cases h
  · rw [ofChars_of_faulty hfaulty] at h
    cases h
    exact hfaulty

theorem parse_ok_iff {a : String} {s : ServerAddress} : parse a = .ok s ↔ Written a.toList s := by
  rw [parse, ← ofChars_ok_iff]
  cases ofChars a.toList with
  | ok s' => exact ⟨fun h => by cases h; rfl, fun h => by cases h; rfl⟩
  | error p => exact ⟨nofun, nofun⟩

theorem parse_error_iff {a : String} {f : Fault} :
    parse a = .error f ↔ ∃ p, Faulty a.toList p ∧ f = .invalidAddress a p.reason := by
  simp only [parse, ← ofChars_error_iff]
  cases ofChars a.toList with
  | ok s => exact ⟨nofun, fun ⟨p, h, _⟩ => nomatch h⟩
  | error p =>
    constructor
    · intro h
      cases h
      exact ⟨p, rfl, rfl⟩
    · rintro ⟨_, h, rfl⟩
      cases h
      rfl

/-! ## Writing -/

theorem dotted_ipChars (s : ServerAddress) : Dotted s.ipChars s.a s.b s.c s.d := by
  refine ⟨_, _, _, _, ?_, isOctet_digits s.a, isOctet_digits s.b, isOctet_digits s.c, isOctet_digits s.d⟩
  simp only [ipChars, List.append_assoc, List.cons_append]

theorem Dotted.eq_ipChars {ip : List Char} {s : ServerAddress} (h : Dotted ip s.a s.b s.c s.d) :
    ip = s.ipChars := by
  obtain ⟨w, x, y, z, rfl, hw, hx, hy, hz⟩ := h
  rw [hw.eq_digits, hx.eq_digits, hy.eq_digits, hz.eq_digits]
  simp only [ipChars, List.append_assoc, List.cons_append]

theorem parse_text {s : ServerAddress} (h : 1024 ≤ s.port.toNat) : parse s.text = .ok s := by
  rw [parse_ok_iff, text, String.toList_ofList]
  exact ⟨_, _, rfl, s.dotted_ipChars, isPort_digits h⟩

theorem text_eq_iff {a : String} {s : ServerAddress} {ip port : List Char}
    (ha : a.toList = ip ++ ':' :: port) (hip : Dotted ip s.a s.b s.c s.d) (hport : IsPort port s.port) :
    s.text = a ↔ ¬ (port.length = 5 ∧ port.head? = some '0') := by
  rw [← hport.digits_eq_iff, ← String.toList_inj, text, String.toList_ofList, ha, hip.eq_ipChars, chars]
  constructor
  · intro h
    exact (List.cons.inj (List.append_cancel_left h)).2
  · intro h
    rw [h]

/-! ## Opening -/

theorem ofAddress_of_ok {host : Host} {a : String} {s : ServerAddress} (hcolon : ':' ∈ a.toList)
    (h : parse a = .ok s) (speed : LineSpeed) :
    (∃ l, Link.ofAddress host a speed = .ok (.datagram l)) ∨
      ∃ d, Link.ofAddress host a speed = .ok (.datagramDevice d) := by
  rw [Link.ofAddress, AddressKind.of, if_pos hcolon]
  dsimp only
  rw [h, Except.map]
  cases host.server? s with
  | none => exact .inl ⟨_, rfl⟩
  | some script => exact .inr ⟨_, rfl⟩

theorem ofAddress_error_iff {host : Host} {a : String} (hcolon : ':' ∈ a.toList) (speed : LineSpeed)
    (f : Fault) : Link.ofAddress host a speed = .error f ↔ parse a = .error f := by
  rw [Link.ofAddress, AddressKind.of, if_pos hcolon]
  cases parse a with
  | ok s => exact ⟨nofun, nofun⟩
  | error f' => exact ⟨fun h => by cases h; rfl, fun h => by cases h; rfl⟩

theorem ofAddress_of_not_mem {a : String} (hcolon : ':' ∉ a.toList) (host : Host) (speed : LineSpeed) :
    Link.ofAddress host a speed = .error (.serialOpen a Host.noSuchFile) ∨
      ∃ d, Link.ofAddress host a speed = .ok (.serialDevice d) := by
  rw [Link.ofAddress, AddressKind.of, if_neg hcolon]
  dsimp only
  cases host.serialDevice? a with
  | none => exact .inl rfl
  | some d => exact .inr ⟨_, rfl⟩

/-- Every fault but the missing colon supposes a colon. -/
theorem Faulty.mem_iff {cs : List Char} {p : Problem} (h : Faulty cs p) : ':' ∈ cs ↔ p ≠ .noColon := by
  cases h with
  | noColon h => exact ⟨fun hcolon => absurd hcolon h, fun hne => absurd rfl hne⟩
  | noIp | portDigits | portRange | portTooLow => exact ⟨fun _ => nofun, fun _ => by simp⟩

theorem Problem.reason_injective {p q : Problem} (h : p.reason = q.reason) : p = q := by
  cases p <;> cases q <;> first | rfl | exact absurd h (by decide)

/-- **The grammar of addresses.** A text is read as a server address if and only if it is one: four octets
without leading zeros, a colon, and a port of four or five digits from 1024 to 65535. What is read can be
written, and is read again as the same; it is written as it was unless the port has five digits and starts
with a zero. Every address with such a port is read back from what is written for it.

Every other text is refused under its own name, for the first thing that is wrong with it. A missing colon
is never the reason when a line is opened: a text with a colon anywhere is for the server, and every other
one for a serial device. -/
theorem parse_grammar (a : String) :
    (∀ s, parse a = .ok s ↔ Written a.toList s) ∧
    (∀ {s}, parse a = .ok s → parse s.text = .ok s ∧
      ∃ ip port, a.toList = ip ++ ':' :: port ∧ Dotted ip s.a s.b s.c s.d ∧ IsPort port s.port ∧
        (s.text = a ↔ ¬ (port.length = 5 ∧ port.head? = some '0'))) ∧
    (∀ {s : ServerAddress}, 1024 ≤ s.port.toNat → parse s.text = .ok s) ∧
    (∀ f, parse a = .error f ↔ ∃ p, Faulty a.toList p ∧ f = .invalidAddress a p.reason) ∧
    ((∃ s, Written a.toList s) ∨ ∃ p, Faulty a.toList p) ∧
    ∀ (host : Host) (speed : LineSpeed),
      (':' ∈ a.toList →
        (∀ {s}, parse a = .ok s →
          (∃ l, Link.ofAddress host a speed = .ok (.datagram l)) ∨
            ∃ d, Link.ofAddress host a speed = .ok (.datagramDevice d)) ∧
        ∀ f, Link.ofAddress host a speed = .error f ↔
          ∃ p, Faulty a.toList p ∧ f = .invalidAddress a p.reason ∧
            p.reason ≠ Problem.noColon.reason) ∧
      (':' ∉ a.toList →
        Link.ofAddress host a speed = .error (.serialOpen a Host.noSuchFile) ∨
          ∃ d, Link.ofAddress host a speed = .ok (.serialDevice d)) := by
  refine ⟨fun s => parse_ok_iff, ?_, parse_text, fun f => parse_error_iff, written_or_faulty _, ?_⟩
  · intro s h
    obtain ⟨ip, port, ha, hip, hport⟩ := parse_ok_iff.mp h
    exact ⟨parse_text hport.unprivileged, ip, port, ha, hip, hport, text_eq_iff ha hip hport⟩
  · intro host speed
    refine ⟨fun hcolon => ⟨fun h => ofAddress_of_ok hcolon h speed, fun f => ?_⟩, fun hcolon =>
      ofAddress_of_not_mem hcolon host speed⟩
    rw [ofAddress_error_iff hcolon, parse_error_iff]
    -- where there is a colon, a missing one is not the fault
    constructor
    · rintro ⟨p, hfaulty, hf⟩
      exact ⟨p, hfaulty, hf, fun h => hfaulty.mem_iff.mp hcolon (Problem.reason_injective h)⟩
    · rintro ⟨p, hfaulty, hf, -⟩
      exact ⟨p, hfaulty, hf⟩

/-- A port with a zero in front is read, and written without it. A text with two colons is refused for what is
before the last one. -/
theorem parse_grammar_leadingZero :
    Written "10.0.0.7:01024".toList ⟨10, 0, 0, 7, 1024⟩ ∧
      parse (text ⟨10, 0, 0, 7, 1024⟩) = .ok ⟨10, 0, 0, 7, 1024⟩ ∧
      text ⟨10, 0, 0, 7, 1024⟩ ≠ "10.0.0.7:01024" ∧
      Link.ofAddress {} "tcp:10.0.0.7:2345" .b460800 =
        .error (.invalidAddress "tcp:10.0.0.7:2345" "not an IPv4 address") ∧
      Faulty "tcp:10.0.0.7:2345".toList .noIp := by
  obtain ⟨hiff, hback, -⟩ := parse_grammar "10.0.0.7:01024"
  have hread : parse "10.0.0.7:01024" = .ok ⟨10, 0, 0, 7, 1024⟩ := by decide +kernel
  have hopened : Link.ofAddress {} "tcp:10.0.0.7:2345" .b460800 =
      .error (.invalidAddress "tcp:10.0.0.7:2345" "not an IPv4 address") := by decide +kernel
  obtain ⟨-, -, -, -, -, hopening⟩ := parse_grammar "tcp:10.0.0.7:2345"
  obtain ⟨-, herror⟩ := (hopening {} .b460800).1 (by decide +kernel)
  obtain ⟨p, hfaulty, hf, -⟩ := (herror _).mp hopened
  injection hf with _ hreason
  have hp : p = .noIp := Problem.reason_injective hreason.symm
  subst hp
  exact ⟨(hiff _).mp hread, (hback hread).1, by decide +kernel, hopened, hfaulty⟩

end ServerAddress

end Vocoder
