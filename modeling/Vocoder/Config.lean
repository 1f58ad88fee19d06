import Vocoder.SessionConfig
import Vocoder.Text.Utf8
import Vocoder.Toml.Library

/-!
# The configuration file

A configuration is a TOML document with the tables `device` and `session`. Every table and every setting may
be missing and then has its default. The document itself is written and read by a library for TOML, which is
told the tables and settings by `Config.shape` and given their values by `Config.record`.

`Config.load` reads and validates the bytes of a file, `Config.render?` writes a configuration.
-/

namespace Vocoder

/-- Which device to use. -/
structure DeviceConfig where
  /-- The path of a serial device or the `ip:port` of a server; empty for none. -/
  address : String := ""
  /-- Half the speed on a serial device. -/
  halfSpeed : Bool := false
  deriving DecidableEq, Repr, Inhabited

/-- All settings. -/
structure Config where
  device : DeviceConfig := {}
  session : SessionConfig := {}
  deriving DecidableEq, Repr, Inhabited

namespace Config

/-! ### Settings by name -/

/-- The settings of the table `device`, and what they may be. -/
def deviceShape : List (String × Toml.Kind) :=
  [("address", .text), ("half_speed", .flag)]

/-- The settings of the table `session`, and what they may be. -/
def sessionShape : List (String × Toml.Kind) :=
  [ ("response_timeout_ms", .count 64), ("poll_interval_us", .count 64), ("identify_attempts", .count 32),
    ("cache_policy", .choice [CachePolicy.always.name, CachePolicy.onSuccess.name]),
    ("length_field", .choice [LengthField.full.name, LengthField.masked.name]) ]

/-- The tables of a configuration file. -/
def shape : Toml.Shape :=
  [("device", deviceShape), ("session", sessionShape)]

/-- The settings of a device. -/
def deviceTable (d : DeviceConfig) : Toml.Table :=
  [("address", .text d.address), ("half_speed", .flag d.halfSpeed)]

/-- The settings of a session. -/
def sessionTable (s : SessionConfig) : Toml.Table :=
  [ ("response_timeout_ms", .count s.responseTimeoutMs), ("poll_interval_us", .count s.pollIntervalUs),
    ("identify_attempts", .count s.identifyAttempts), ("cache_policy", .text s.cachePolicy.name),
    ("length_field", .text s.lengthField.name) ]

/-- The settings of a configuration. -/
def record (c : Config) : Toml.Record :=
  [("device", deviceTable c.device), ("session", sessionTable c.session)]

/-- A text under a name, if it is given. -/
def text? (t : Toml.Table) (name : String) : Option String :=
  match t.lookup name with
  | some (.text s) => some s
  | _ => none

/-- A flag under a name, if it is given. -/
def flag? (t : Toml.Table) (name : String) : Option Bool :=
  match t.lookup name with
  | some (.flag b) => some b
  | _ => none

/-- A count under a name, if it is given. -/
def count? (t : Toml.Table) (name : String) : Option Nat :=
  match t.lookup name with
  | some (.count n) => some n
  | _ => none

/-- The device of a table, with defaults for what is not given. -/
def deviceOf (t : Toml.Table) : DeviceConfig :=
  let base : DeviceConfig := {}
  { address := (text? t "address").getD base.address
    halfSpeed := (flag? t "half_speed").getD base.halfSpeed }

/-- The session of a table, with defaults for what is not given. -/
def sessionOf (t : Toml.Table) : SessionConfig :=
  let base : SessionConfig := {}
  { responseTimeoutMs := (count? t "response_timeout_ms").getD base.responseTimeoutMs
    pollIntervalUs := (count? t "poll_interval_us").getD base.pollIntervalUs
    identifyAttempts := (count? t "identify_attempts").getD base.identifyAttempts
    cachePolicy := ((text? t "cache_policy").bind CachePolicy.ofName?).getD base.cachePolicy
    lengthField := ((text? t "length_field").bind LengthField.ofName?).getD base.lengthField }

/-- The configuration of some settings, with defaults for what is not given. -/
def ofRecord (r : Toml.Record) : Config where
  device := deviceOf ((r.lookup "device").getD [])
  session := sessionOf ((r.lookup "session").getD [])

/-! ### Files -/

/-- Why a file cannot be read as text. -/
def notText : String := "stream did not contain valid UTF-8"

/-- The configuration in a file, whose bytes are given if it can be read at all. -/
def load (path : String) (file : Except String (List UInt8)) (toml : Toml.Library := .standard) :
    Except Fault Config :=
  match file with
  | .error cause => .error (.configRead path cause)
  | .ok bytes =>
    match Utf8.decode? bytes with
    | none => .error (.configRead path notText)
    | some text =>
      match toml.read? shape text with
      | .error reason => .error (.configValidation "config" (path ++ ": " ++ reason))
      | .ok r =>
        match (ofRecord r).session.validate with
        | .error f => .error f
        | .ok () => .ok (ofRecord r)

/-- The document of a configuration, if it can be written. -/
def render? (c : Config) (toml : Toml.Library := .standard) : Option String :=
  (toml.write? c.record).map String.ofList

end Config

end Vocoder
