import Vocoder.Fault
import Vocoder.Packet

/-!
# Session configuration

How long a session waits, how often it asks for an identification, when it believes that the chip has
taken a rate or a gain, and how it reads lengths. `validate` refuses the values with which every
exchange would fail.
-/

namespace Vocoder

/-- When a session records a requested rate or gain as the chip's. -/
inductive CachePolicy where
  /-- Whether or not the chip acknowledged it; a failed change is not tried again. -/
  | always
  /-- Only when the chip acknowledged it; a failed change fails the frame and is tried again. -/
  | onSuccess
  deriving DecidableEq, Repr, Inhabited

namespace CachePolicy

/-- The name of a policy. -/
def name : CachePolicy → String
  | always => "always"
  | onSuccess => "on_success"

/-- The policy of a name. -/
def ofName? : String → Option CachePolicy
  | "always" => some always
  | "on_success" => some onSuccess
  | _ => none

end CachePolicy

/-- The settings of a session. -/
structure SessionConfig where
  /-- The time budget for one packet, in milliseconds. -/
  responseTimeoutMs : Nat := 500
  /-- The pause between two empty reads, in microseconds. -/
  pollIntervalUs : Nat := 100
  /-- How many packets are inspected while waiting for the identification. -/
  identifyAttempts : Nat := 10
  cachePolicy : CachePolicy := .always
  lengthField : LengthField := .full
  deriving DecidableEq, Repr, Inhabited

namespace SessionConfig

/-- Refuse, in this order, no time at all, no attempts at all, and a pause that is not shorter than
the time budget. -/
def validate (c : SessionConfig) : Except Fault Unit :=
  if c.responseTimeoutMs = 0 then
    .error (.configValidation "response_timeout_ms" "must be greater than zero")
  else if c.identifyAttempts = 0 then
    .error (.configValidation "identify_attempts" "must be greater than zero")
  else if 1000 * c.responseTimeoutMs ≤ c.pollIntervalUs then
    .error (.configValidation "poll_interval_us"
      (toString c.pollIntervalUs ++ "us is not shorter than the " ++
        toString c.responseTimeoutMs ++ "ms response timeout"))
  else .ok ()

end SessionConfig

end Vocoder
