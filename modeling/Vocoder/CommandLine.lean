import Vocoder.Number.Binary32
import Vocoder.Rate

/-!
# The command line

The options of the loop test. An option takes its value from the same argument or from the next one;
flags may be bundled behind one dash. An option that waits for its value is only checked when the next
option is met or the arguments end, so that of two mistakes the first one complete is reported, except
that an unknown argument is reported at once.
-/

namespace Vocoder

/-- What the loop test is asked to do. -/
structure Options where
  /-- Where the audio comes from; `-` for standard input. -/
  input : String := "/dev/audio"
  /-- Where the audio goes; `-` for standard output. -/
  output : String := "/dev/audio"
  /-- The address of the vocoder, if it is not the configured one. -/
  device : Option String := none
  format : Rate := .none
  /-- The linear gain of the decoder. -/
  gain : Binary32 := .one
  halfSpeed : Bool := false
  /-- The configuration file. -/
  config : Option String := none
  verbose : Bool := false
  deriving DecidableEq, Repr

namespace CommandLine

/-- An option with a value. -/
inductive ValueOption where
  | input
  | output
  | device
  | format
  | gain
  | config
  deriving DecidableEq, Repr

/-- An option without one. -/
inductive Flag where
  | halfSpeed
  | verbose
  | help
  | version
  deriving DecidableEq, Repr

/-- Anything that can be given with dashes. -/
inductive Item where
  | value (o : ValueOption)
  | flag (f : Flag)
  deriving DecidableEq, Repr

/-- Why there are no options to work with. -/
inductive Refusal where
  | unknownArgument
  /-- An option without a value, or with one that it cannot take. -/
  | invalidValue
  /-- An option that is given twice. -/
  | argumentConflict
  /-- A flag with a value. -/
  | tooManyValues
  /-- A value that is not understood. -/
  | valueValidation (message : String)
  /-- The help is asked for. -/
  | displayHelp
  /-- The version is asked for. -/
  | displayVersion
  deriving DecidableEq, Repr

/-! ### Names -/

/-- The item of a name behind two dashes. -/
def Item.ofLong? : String → Option Item
  | "input" => some (.value .input)
  | "output" => some (.value .output)
  | "device" => some (.value .device)
  | "format" => some (.value .format)
  | "gain" => some (.value .gain)
  | "config" => some (.value .config)
  | "half-speed" => some (.flag .halfSpeed)
  | "verbose" => some (.flag .verbose)
  | "help" => some (.flag .help)
  | "version" => some (.flag .version)
  | _ => none

/-- The item of a letter behind one dash. -/
def Item.ofShort? : Char → Option Item
  | 'i' => some (.value .input)
  | 'o' => some (.value .output)
  | 'D' => some (.value .device)
  | 'f' => some (.value .format)
  | 'g' => some (.value .gain)
  | 'v' => some (.flag .verbose)
  | 'h' => some (.flag .help)
  | 'V' => some (.flag .version)
  | _ => none

/-! ### Values -/

/-- The index of its digits, with or without a plus sign; at most 255. -/
def index? (cs : List Char) : Option Nat :=
  let digits :=
    match cs with
    | '+' :: rest => rest
    | _ => cs
  if digits.isEmpty || !Decimal.isNumeral digits then none
  else if 255 < Decimal.value digits then none
  else some (Decimal.value digits)

/-- The rate of a format index. -/
def format (s : String) : Except Refusal Rate :=
  match index? s.toList with
  | none => .error (.valueValidation ("'" ++ s ++ "' is not a format index"))
  | some n =>
    match Rate.ofIndex? n with
    | none => .error (.valueValidation ("format " ++ toString n ++ " is not supported"))
    | some rate => .ok rate

/-- The gain of a text. -/
def gain (s : String) : Except Refusal Binary32 :=
  match Binary32.parse s.toList with
  | .ok x => .ok x
  | .error .empty => .error (.valueValidation "cannot parse float from empty string")
  | .error .invalid => .error (.valueValidation "invalid float literal")

/-- Set an option to a value. -/
def ValueOption.set (o : Options) (s : String) : ValueOption → Except Refusal Options
  | .input => .ok { o with input := s }
  | .output => .ok { o with output := s }
  | .device => .ok { o with device := some s }
  | .format => (CommandLine.format s).map fun rate => { o with format := rate }
  | .gain => (CommandLine.gain s).map fun x => { o with gain := x }
  | .config => if s.isEmpty then .error .invalidValue else .ok { o with config := some s }

/-- Set a flag. -/
def Flag.set (o : Options) : Flag → Except Refusal Options
  | .halfSpeed => .ok { o with halfSpeed := true }
  | .verbose => .ok { o with verbose := true }
  | .help => .error .displayHelp
  | .version => .error .displayVersion

/-! ### Arguments -/

/-- What is known after some of the arguments. -/
structure Progress where
  options : Options := {}
  /-- The items given so far. -/
  given : List Item := []
  /-- The option met last, with its value if that has come, not checked yet. -/
  pending : Option (ValueOption × Option String) := none
  /-- Options have been ended by two dashes. -/
  ended : Bool := false
  deriving DecidableEq, Repr

namespace Progress

/-- Take an item that has its value. No item may come twice. -/
def give (p : Progress) (item : Item) (set : Options → Except Refusal Options) :
    Except Refusal Progress :=
  if item ∈ p.given then .error .argumentConflict
  else (set p.options).map fun o => { p with options := o, given := item :: p.given }

/-- Check the option met last. -/
def settle (p : Progress) : Except Refusal Progress :=
  match p.pending with
  | none => .ok p
  | some (_, none) => .error .invalidValue
  | some (o, some s) => { p with pending := none }.give (.value o) (o.set · s)

/-- Take a flag. -/
def takeFlag (p : Progress) (f : Flag) : Except Refusal Progress :=
  p.settle.bind fun p => p.give (.flag f) f.set

/-- Take an option whose value is in the same argument. -/
def takeOption (p : Progress) (o : ValueOption) (s : String) : Except Refusal Progress :=
  p.settle.bind fun p => p.give (.value o) (o.set · s)

/-- Meet an option whose value is still to come. -/
def await (p : Progress) (o : ValueOption) : Except Refusal Progress :=
  p.settle.map fun p => { p with pending := some (o, none) }

/-- A name behind two dashes, perhaps with a value behind an equals sign. -/
def long (p : Progress) (cs : List Char) : Except Refusal Progress :=
  match Item.ofLong? (String.ofList (cs.takeWhile (· ≠ '='))), cs.dropWhile (· ≠ '=') with
  | none, _ => .error .unknownArgument
  | some (.flag _), _ :: _ => .error .tooManyValues
  | some (.flag f), [] => p.takeFlag f
  | some (.value o), _ :: value => p.takeOption o (String.ofList value)
  | some (.value o), [] => p.await o

/-- Letters behind one dash: flags, up to an option that takes what is left as its value. An equals
sign in front of that value is not part of it. -/
def bundle (p : Progress) : List Char → Except Refusal Progress
  | [] => .ok p
  | c :: rest =>
    match Item.ofShort? c with
    | none => .error .unknownArgument
    | some (.flag f) => (p.takeFlag f).bind fun p => p.bundle rest
    | some (.value o) =>
      match rest with
      | [] => p.await o
      | '=' :: value => p.takeOption o (String.ofList value)
      | value => p.takeOption o (String.ofList value)

/-- An argument without dashes: the value of the option that waits for one. -/
def plain (p : Progress) (s : String) : Except Refusal Progress :=
  match p.pending with
  | some (o, none) => .ok { p with pending := some (o, some s) }
  | _ => .error .unknownArgument

/-- Take one argument. -/
def take (p : Progress) (arg : String) : Except Refusal Progress :=
  if p.ended then .error .unknownArgument
  else
    match arg.toList with
    | ['-', '-'] => .ok { p with ended := true }
    | '-' :: '-' :: cs => p.long cs
    | '-' :: c :: cs => p.bundle (c :: cs)
    | _ => p.plain arg

end Progress

/-- The options of some arguments, the name of the program not among them. -/
def parse (args : List String) : Except Refusal Options :=
  ((args.foldlM Progress.take {}).bind Progress.settle).map (·.options)

/-! ### Texts -/

/-- The help. -/
def helpText : String :=
  "Encode/decode test loop through an AMBE3000 vocoder\n" ++
  "\n" ++
  "Usage: dvtest [OPTIONS]\n" ++
  "\n" ++
  "Options:\n" ++
  "  -i, --input <FILE>     Audio input with 8 kS/s S16LE samples (\"-\" for stdin)" ++
  " [default: /dev/audio]\n" ++
  "  -o, --output <FILE>    Audio output with 8 kS/s S16LE samples (\"-\" for stdout)" ++
  " [default: /dev/audio]\n" ++
  "  -D, --device <DEVICE>  Vocoder device: serial path (e.g. /dev/ttyUSB0) or server ip:port" ++
  " (overrides config)\n" ++
  "  -f, --format <NUM>     Format index [default: 0]\n" ++
  "  -g, --gain <GAIN>      Linear gain applied to decoder output [default: 1]\n" ++
  "      --half-speed       Open serial devices at 230400 baud instead of 460800\n" ++
  "      --config <FILE>    Config file (TOML)\n" ++
  "  -v, --verbose          Enable verbose debug output\n" ++
  "  -h, --help             Print help\n" ++
  "  -V, --version          Print version\n"

/-- Name and version of the program. -/
def versionText : String := "dvtest 0.1.0\n"

end CommandLine

end Vocoder
