/-!
# Rates

The codec configurations the chip is driven at. A rate fixes the width of a voice frame and the six
control words that put the chip into it; the rate `none` leaves the chip as it is. The table is
total, so a rate never fails to have a width.
-/

namespace Vocoder

/-- A codec configuration, named by its line rate and voice rate in bits per second. -/
inductive Rate where
  /-- No configuration: the chip is left untouched. -/
  | none
  | r3600x2400
  | r3600x2450
  | r7200x4400
  | r7100x4400
  | r2450
  | r4400
  | r3000
  | r6400
  | r7200
  deriving DecidableEq, Repr, Inhabited

namespace Rate

/-- Every rate, `none` first. -/
def all : List Rate :=
  [none, r3600x2400, r3600x2450, r7200x4400, r7100x4400, r2450, r4400, r3000, r6400, r7200]

/-- The name of a rate. -/
def name : Rate → String
  | none => "none"
  | r3600x2400 => "3600x2400"
  | r3600x2450 => "3600x2450"
  | r7200x4400 => "7200x4400"
  | r7100x4400 => "7100x4400"
  | r2450 => "2450"
  | r4400 => "4400"
  | r3000 => "3000"
  | r6400 => "6400"
  | r7200 => "7200"

/-- The rate of a name. -/
def ofName? (s : String) : Option Rate :=
  all.find? (·.name = s)

/-- Width of a voice frame in bits. -/
def voiceBits : Rate → Nat
  | none => 0
  | r3600x2400 | r3600x2450 => 72
  | r7200x4400 | r7200 => 144
  | r7100x4400 => 142
  | r2450 => 49
  | r4400 => 88
  | r3000 => 60
  | r6400 => 128

/-- Width of a voice frame in whole bytes. -/
def voiceBytes (r : Rate) : Nat :=
  (r.voiceBits + 7) / 8

/-- The six control words of a rate, high byte first; `none` has none. -/
def controlWords? : Rate → Option (List UInt8)
  | none => Option.none
  | r3600x2400 => some [0x01, 0x30, 0x07, 0x63, 0x40, 0x00, 0x00, 0x00, 0x00, 0x00, 0x00, 0x48]
  | r3600x2450 => some [0x04, 0x31, 0x07, 0x54, 0x24, 0x00, 0x00, 0x00, 0x00, 0x00, 0x6f, 0x48]
  | r7200x4400 => some [0x00, 0x58, 0x08, 0x87, 0x30, 0x03, 0x00, 0x00, 0x00, 0x00, 0x44, 0x90]
  | r7100x4400 => some [0x00, 0x58, 0x08, 0x6b, 0x10, 0x30, 0x00, 0x00, 0x00, 0x00, 0x01, 0x90]
  | r2450 => some [0x04, 0x31, 0x07, 0x54, 0x24, 0x00, 0x00, 0x00, 0x00, 0x00, 0x00, 0x00]
  | r4400 => some [0x00, 0x58, 0x08, 0x87, 0x30, 0x03, 0x00, 0x00, 0x00, 0x00, 0x00, 0x00]
  | r3000 => some [0x05, 0x58, 0x08, 0x68, 0x12, 0x20, 0x00, 0x00, 0x00, 0x00, 0x00, 0x00]
  | r6400 => some [0x05, 0x58, 0x08, 0x80, 0x30, 0x30, 0x00, 0x00, 0x00, 0x00, 0x00, 0x00]
  | r7200 => some [0x05, 0x58, 0x08, 0x90, 0x32, 0x30, 0x00, 0x00, 0x00, 0x00, 0x00, 0x00]

/-- The rate of a format index on the command line. The indices 5, 8, 12 and 13 name rates whose
frames fall outside 7 to 18 bytes; they are not driven. -/
def ofIndex? : Nat → Option Rate
  | 0 => some none
  | 1 => some r3600x2400
  | 2 => some r3600x2450
  | 3 => some r7200x4400
  | 4 => some r7100x4400
  | 6 => some r2450
  | 7 => some r4400
  | 9 => some r3000
  | 10 => some r6400
  | 11 => some r7200
  | _ => Option.none

/-- The widest voice frame of any rate, in bytes. -/
def maxVoiceBytes : Nat := 18

theorem voiceBytes_le (r : Rate) : r.voiceBytes ≤ maxVoiceBytes := by
  cases r <;> decide

theorem length_controlWords {r : Rate} {ws : List UInt8} (h : r.controlWords? = some ws) :
    ws.length = 12 := by
  cases r <;> simp [controlWords?] at h <;> subst h <;> rfl

end Rate

end Vocoder
