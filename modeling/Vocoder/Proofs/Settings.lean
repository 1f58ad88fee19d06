import Mathlib
import Vocoder.Config
import Vocoder.Proofs.Characters
import Vocoder.Proofs.Conformance

/-!
# A configuration that is written loads

A library for TOML writes the settings of a configuration and reads them again. Of the library only that is used
which `Library.Conforms` says of it.

* **`Config.ofRecord_record`**, **`Config.known_record`** — the settings of a configuration are all known, and they
  make the configuration again.
* **`SessionConfig.field_of_validate`** — validation names one of three settings.
* **`Config.load_written`** — what is left of loading a written configuration is its validation.
* **`Config.load_render`** — what is written is loaded, and refused only for values that are not valid.
-/

namespace Vocoder

/-! ## Names and validity -/

theorem CachePolicy.ofName?_name (p : CachePolicy) : ofName? p.name = some p := by
  cases p with
  | always => rfl
  | onSuccess => rfl

theorem LengthField.ofName?_name (f : LengthField) : ofName? f.name = some f := by
  cases f with
  | full => rfl
  | masked => rfl

namespace SessionConfig

variable {s : SessionConfig}

theorem validate_ok (ht : 0 < s.responseTimeoutMs) (ha : 0 < s.identifyAttempts)
    (hp : s.pollIntervalUs < 1000 * s.responseTimeoutMs) : s.validate = .ok () := by
  rw [validate, if_neg (Nat.ne_of_gt ht), if_neg (Nat.ne_of_gt ha), if_neg (Nat.not_le_of_lt hp)]

theorem validate_responseTimeout (ht : s.responseTimeoutMs = 0) :
    s.validate = .error (.configValidation "response_timeout_ms" "must be greater than zero") :=
  if_pos ht

theorem validate_identifyAttempts (ht : 0 < s.responseTimeoutMs) (ha : s.identifyAttempts = 0) :
    s.validate = .error (.configValidation "identify_attempts" "must be greater than zero") := by
  rw [validate, if_neg (Nat.ne_of_gt ht), if_pos ha]

theorem validate_pollInterval (ht : 0 < s.responseTimeoutMs) (ha : 0 < s.identifyAttempts)
    (hp : 1000 * s.responseTimeoutMs ≤ s.pollIntervalUs) :
    ∃ reason, s.validate = .error (.configValidation "poll_interval_us" reason) := by
  rw [validate, if_neg (Nat.ne_of_gt ht), if_neg (Nat.ne_of_gt ha), if_pos hp]
  exact ⟨_, rfl⟩

/-- Validation names one of three settings. -/
theorem field_of_validate {field reason : String} (h : s.validate = .error (.configValidation field reason)) :
    field ∈ ["response_timeout_ms", "identify_attempts", "poll_interval_us"] := by
  rw [validate] at h
  split at h
  · cases h
    decide
  · split at h
    · cases h
      decide
    · split at h
      · cases h
        decide
      · cases h

end SessionConfig

namespace Config

open Toml (Library Fits WellNamed CountsFit)
open Toml.Library (standard_conforms)

/-! ## The settings of a configuration -/

variable (c : Config)

theorem wellNamed_record : WellNamed c.record where
  apart := by
    show ["device", "session"].Nodup
    decide
  tables := by
    simp only [record, List.forall_mem_cons]
    refine ⟨⟨by decide, ?_, ?_⟩, ⟨by decide, ?_, ?_⟩, nofun⟩
    · show ["address", "half_speed"].Nodup
      decide
    · simp only [deviceTable, List.forall_mem_cons]
      exact ⟨by decide, by decide, nofun⟩
    · show ["response_timeout_ms", "poll_interval_us", "identify_attempts", "cache_policy",
        "length_field"].Nodup
      decide
    · simp only [sessionTable, List.forall_mem_cons]
      exact ⟨by decide, by decide, by decide, by decide, by decide, nofun⟩

/-- All settings of a configuration are known. -/
theorem known_record : Toml.known shape c.record = c.record := rfl

/-- The settings of a configuration make the configuration again. -/
theorem ofRecord_record : ofRecord c.record = c := by
  have hpolicy : (CachePolicy.ofName? c.session.cachePolicy.name).getD .always = c.session.cachePolicy := by
    rw [CachePolicy.ofName?_name]
    rfl
  have hfield : (LengthField.ofName? c.session.lengthField.name).getD .full = c.session.lengthField := by
    rw [LengthField.ofName?_name]
    rfl
  show Config.mk c.device ⟨c.session.responseTimeoutMs, c.session.pollIntervalUs, c.session.identifyAttempts,
    (CachePolicy.ofName? c.session.cachePolicy.name).getD .always,
    (LengthField.ofName? c.session.lengthField.name).getD .full⟩ = c
  rw [hpolicy, hfield]

/-- Both times can be written. -/
structure TimesFit : Prop where
  responseTimeout : c.session.responseTimeoutMs ≤ 2 ^ 63 - 1
  pollInterval : c.session.pollIntervalUs ≤ 2 ^ 63 - 1

variable {c}

theorem cachePolicy_name_mem (p : CachePolicy) :
    p.name ∈ [CachePolicy.always.name, CachePolicy.onSuccess.name] := by
  cases p with
  | always | onSuccess => decide

theorem lengthField_name_mem (f : LengthField) :
    f.name ∈ [LengthField.full.name, LengthField.masked.name] := by
  cases f with
  | full | masked => decide

section Attempts

variable (hattempts : c.session.identifyAttempts < 2 ^ 32)
include hattempts

theorem countsFit_record : (∀ t ∈ c.record, CountsFit t.2) ↔ c.TimesFit := by
  have hdevice : CountsFit (deviceTable c.device) := by
    simp only [CountsFit, deviceTable, List.forall_mem_cons]
    exact ⟨nofun, nofun, nofun⟩
  constructor
  · intro h
    have hsession : CountsFit (sessionTable c.session) :=
      (List.forall_mem_cons.mp (List.forall_mem_cons.mp h).2).1
    simp only [CountsFit, sessionTable, List.forall_mem_cons] at hsession
    exact ⟨hsession.1 _ rfl, hsession.2.1 _ rfl⟩
  · intro h
    simp only [record, List.forall_mem_cons]
    refine ⟨hdevice, ?_, nofun⟩
    simp only [CountsFit, sessionTable, List.forall_mem_cons, Toml.Scalar.count.injEq, forall_eq']
    exact ⟨h.responseTimeout, h.pollInterval, by omega, nofun, nofun, nofun⟩

/-- The settings of a configuration are of their kinds, if they can be written. -/
theorem fits_record (h : c.TimesFit) : Fits shape c.record := by
  obtain ⟨htimeout, hinterval⟩ := h
  intro known hknown
  simp only [shape, List.mem_cons, List.not_mem_nil, or_false] at hknown
  rcases hknown with rfl | rfl
  · intro table htable
    cases (show some (deviceTable c.device) = some table from htable)
    simp only [deviceShape, List.forall_mem_cons]
    refine ⟨?_, ?_, nofun⟩
    · intro v hv
      cases (show some (Toml.Scalar.text c.device.address) = some v from hv)
      trivial
    · intro v hv
      cases (show some (Toml.Scalar.flag c.device.halfSpeed) = some v from hv)
      trivial
  · intro table htable
    cases (show some (sessionTable c.session) = some table from htable)
    simp only [sessionShape, List.forall_mem_cons]
    refine ⟨?_, ?_, ?_, ?_, ?_, nofun⟩
    · intro v hv
      cases (show some (Toml.Scalar.count c.session.responseTimeoutMs) = some v from hv)
      show c.session.responseTimeoutMs < 2 ^ 64
      omega
    · intro v hv
      cases (show some (Toml.Scalar.count c.session.pollIntervalUs) = some v from hv)
      show c.session.pollIntervalUs < 2 ^ 64
      omega
    · intro v hv
      cases (show some (Toml.Scalar.count c.session.identifyAttempts) = some v from hv)
      exact hattempts
    · intro v hv
      cases (show some (Toml.Scalar.text c.session.cachePolicy.name) = some v from hv)
      exact cachePolicy_name_mem c.session.cachePolicy
    · intro v hv
      cases (show some (Toml.Scalar.text c.session.lengthField.name) = some v from hv)
      exact lengthField_name_mem c.session.lengthField

end Attempts

/-! ## Loading what was written -/

section Load

variable {toml : Library} (htoml : toml.Conforms) (hattempts : c.session.identifyAttempts < 2 ^ 32)
include htoml hattempts

theorem render?_eq_none_iff : c.render? toml = none ↔ ¬ c.TimesFit := by
  rw [render?, Option.map_eq_none_iff, htoml.writable c.wellNamed_record, ← countsFit_record hattempts,
    Toml.countsFit_iff, not_not]

/-- What is left of loading a written configuration is its validation. -/
theorem load_written {text : String} (htext : c.render? toml = some text) (path : String) :
    load path (.ok (Utf8.encode text.toList)) toml = c.session.validate.map fun _ => c := by
  have hfits : c.TimesFit := by
    by_contra hnot
    rw [(render?_eq_none_iff htoml hattempts).mpr hnot] at htext
    cases htext
  obtain ⟨chars, hwritten, rfl⟩ := Option.map_eq_some_iff.mp htext
  have hdocument : Toml.IsDocument chars c.record :=
    Toml.isDocument_of_isPretty (htoml.pretty c.wellNamed_record hwritten) c.wellNamed_record
      ((countsFit_record hattempts).mpr hfits)
  have hread : toml.read? shape chars = .ok c.record := by
    rw [htoml.reads hdocument (fits_record hattempts hfits), known_record]
  rw [load, String.toList_ofList, Utf8.decode?_encode]
  dsimp only
  rw [hread]
  dsimp only
  rw [ofRecord_record]
  cases c.session.validate with
  | error f => rfl
  | ok _ => rfl

end Load

/-- **A written configuration loads back**, whatever library for TOML writes and reads it. A configuration, whose
attempts are a number of 32 bits, can be written unless one of its times has more than 63 bits. What is written is
the configuration itself to whoever loads it. It is refused only if it is not valid, and then for the first
requirement that it does not meet; it is never refused as unreadable. -/
theorem load_render {toml : Library} (htoml : toml.Conforms) (c : Config)
    (hattempts : c.session.identifyAttempts < 2 ^ 32) :
    (c.render? toml = none ↔
      2 ^ 63 - 1 < c.session.responseTimeoutMs ∨ 2 ^ 63 - 1 < c.session.pollIntervalUs) ∧
    ∀ text, c.render? toml = some text → ∀ path,
      let loaded := load path (.ok (Utf8.encode text.toList)) toml
      (0 < c.session.responseTimeoutMs → 0 < c.session.identifyAttempts →
        c.session.pollIntervalUs < 1000 * c.session.responseTimeoutMs → loaded = .ok c) ∧
      (c.session.responseTimeoutMs = 0 →
        ∃ reason, loaded = .error (.configValidation "response_timeout_ms" reason)) ∧
      (0 < c.session.responseTimeoutMs → c.session.identifyAttempts = 0 →
        ∃ reason, loaded = .error (.configValidation "identify_attempts" reason)) ∧
      (0 < c.session.responseTimeoutMs → 0 < c.session.identifyAttempts →
        1000 * c.session.responseTimeoutMs ≤ c.session.pollIntervalUs →
        ∃ reason, loaded = .error (.configValidation "poll_interval_us" reason)) ∧
      ∀ reason, loaded ≠ .error (.configValidation "config" reason) := by
  refine ⟨?_, fun text htext path => ?_⟩
  · rw [render?_eq_none_iff htoml hattempts]
    constructor
    · intro hnot
      by_contra hsmall
      exact hnot ⟨by omega, by omega⟩
    · rintro hlarge ⟨htimeout, hinterval⟩
      omega
  · -- what is written is read, so all that is left is what validation says
    intro loaded
    have hloaded : loaded = c.session.validate.map fun _ => c := load_written htoml hattempts htext path
    have herror {f : Fault} (h : c.session.validate = .error f) : loaded = .error f := by
      rw [hloaded, h]
      rfl
    refine ⟨fun ht ha hp => ?_, fun ht => ?_, fun ht ha => ?_, fun ht ha hp => ?_, fun reason h => ?_⟩
    · rw [hloaded, SessionConfig.validate_ok ht ha hp]
      rfl
    · exact ⟨_, herror (SessionConfig.validate_responseTimeout ht)⟩
    · exact ⟨_, herror (SessionConfig.validate_identifyAttempts ht ha)⟩
    · obtain ⟨reason, hreason⟩ := SessionConfig.validate_pollInterval ht ha hp
      exact ⟨reason, herror hreason⟩
    · cases hvalidate : c.session.validate with
      | ok _ =>
        rw [hloaded, hvalidate] at h
        cases h
      | error f =>
        rw [herror hvalidate] at h
        cases h
        exact absurd (SessionConfig.field_of_validate hvalidate) (by decide)

/-- An address with both quotes, a backslash, a line end and a control character. -/
def quotedAddress : Config where
  device := { address := "\"'\\\n\x07", halfSpeed := true }

/-- All the time that can be written, and no attempt. -/
def withoutAttempts : Config where
  session := { responseTimeoutMs := 2 ^ 63 - 1, identifyAttempts := 0 }

/-- The one comes back as it is. The other is written too, and refused for its attempts. -/
theorem load_render_quotedAddress_withoutAttempts :
    (∃ text, quotedAddress.render? = some text ∧
      load "vocoder.toml" (.ok (Utf8.encode text.toList)) = .ok quotedAddress) ∧
    ∃ text reason, withoutAttempts.render? = some text ∧
      load "vocoder.toml" (.ok (Utf8.encode text.toList)) =
        .error (.configValidation "identify_attempts" reason) := by
  have hwritten {c : Config} (hattempts : c.session.identifyAttempts < 2 ^ 32)
      (h : ¬ (2 ^ 63 - 1 < c.session.responseTimeoutMs ∨ 2 ^ 63 - 1 < c.session.pollIntervalUs)) :
      ∃ text, c.render? = some text :=
    Option.ne_none_iff_exists'.mp fun hnone => h ((load_render standard_conforms c hattempts).1.mp hnone)
  refine ⟨?_, ?_⟩
  · obtain ⟨-, hload⟩ := load_render standard_conforms quotedAddress (by decide)
    obtain ⟨text, htext⟩ := hwritten (c := quotedAddress) (by decide) (by decide)
    exact ⟨text, htext, (hload text htext "vocoder.toml").1 (by decide) (by decide) (by decide)⟩
  · obtain ⟨-, hload⟩ := load_render standard_conforms withoutAttempts (by decide)
    obtain ⟨text, htext⟩ := hwritten (c := withoutAttempts) (by decide) (by decide)
    obtain ⟨-, -, hattempts, -⟩ := hload text htext "vocoder.toml"
    obtain ⟨reason, hreason⟩ := hattempts (by decide) rfl
    exact ⟨text, reason, htext, hreason⟩

end Config

end Vocoder
