/-!
# Arguments

What a user may ask for on the command line: a configuration file, a device and a log level,
each of which may be given once, in a long or a short form.

This file models the argument parser of the program.

* `Arguments.parse` — the arguments of a command line, or why there are none.
* `Arguments.help` — the text that explains them.
-/

namespace Hotplug

/-- What was asked for on the command line. -/
structure Arguments where
  config : Option String := none
  device : Option String := none
  logLevel : Option String := none
  deriving DecidableEq, Repr, Inhabited

namespace Arguments

/-- Why a command line does not lead to a run. -/
inductive Refused where
  /-- It asks for an explanation. -/
  | help
  /-- It cannot be understood. -/
  | misuse
  deriving DecidableEq, Repr, Inhabited

/-- The options that take a value. -/
inductive Flag where
  | config
  | device
  | logLevel
  deriving DecidableEq, Repr, Inhabited

namespace Flag

/-- The option of a long name. -/
def ofLong? : String → Option Flag
  | "config" => some config
  | "device" => some device
  | "log-level" => some logLevel
  | _ => none

/-- The option of a short name. -/
def ofShort? : Char → Option Flag
  | 'c' => some config
  | 'd' => some device
  | _ => none

end Flag

/-- The value of an option so far. -/
def get? (a : Arguments) : Flag → Option String
  | .config => a.config
  | .device => a.device
  | .logLevel => a.logLevel

/-- Gives an option its value.  No option is given twice, and a file needs a name. -/
def give (a : Arguments) (f : Flag) (value : String) : Except Refused Arguments :=
  if (a.get? f).isSome then .error .misuse
  else
    match f with
    | .config => if value.isEmpty then .error .misuse else .ok { a with config := some value }
    | .device => .ok { a with device := some value }
    | .logLevel => .ok { a with logLevel := some value }

/-- Whether an argument can be the value of the option before it. -/
def isValue (s : String) : Bool :=
  match s.toList with
  | '-' :: _ :: _ => false
  | _ => true

/-- One argument on its own. -/
inductive Item where
  /-- An option whose value is the next argument. -/
  | awaiting (f : Flag)
  /-- An option with its value in the same argument. -/
  | given (f : Flag) (value : String)
  | help
  /-- The mark after which no options follow. -/
  | endOfOptions
  | unknown
  deriving DecidableEq, Repr, Inhabited

/-- What an argument says. -/
def item (s : String) : Item :=
  match s.toList with
  | ['-', '-'] => .endOfOptions
  | '-' :: '-' :: cs =>
    let name := String.ofList (cs.takeWhile (· ≠ '='))
    match Flag.ofLong? name, cs.dropWhile (· ≠ '=') with
    | some f, [] => .awaiting f
    | some f, _ :: value => .given f (String.ofList value)
    | none, [] => if name = "help" then .help else .unknown
    | none, _ => .unknown
  | '-' :: c :: cs =>
    match Flag.ofShort? c, cs with
    | some f, [] => .awaiting f
    | some f, '=' :: value => .given f (String.ofList value)
    | some f, value => .given f (String.ofList value)
    | none, _ => if c = 'h' then .help else .unknown
  | _ => .unknown

/-- Reads arguments one after the other. -/
def parseFrom (a : Arguments) : List String → Except Refused Arguments
  | [] => .ok a
  | s :: rest =>
    match item s with
    | .awaiting f =>
      match rest with
      | value :: rest =>
        if isValue value then do
          let a ← a.give f value
          parseFrom a rest
        else .error .misuse
      | [] => .error .misuse
    | .given f value => do
      let a ← a.give f value
      parseFrom a rest
    | .help => .error .help
    | .endOfOptions => if rest.isEmpty then .ok a else .error .misuse
    | .unknown => .error .misuse

/-- The arguments of a command line. -/
def parse (args : List String) : Except Refused Arguments :=
  parseFrom {} args

/-- The explanation. -/
def help : List String :=
  ["Keep a device driver attached across device insertion and removal",
    "",
    "Usage: driver-supervisor [OPTIONS]",
    "",
    "Options:",
    "  -c, --config <CONFIG>        Path to the TOML configuration file",
    "  -d, --device <DEVICE>        Device endpoint to supervise (overrides the config file)",
    "      --log-level <LOG_LEVEL>  Log level or filter directive (overrides the config file)",
    "  -h, --help                   Print help"]

end Arguments

end Hotplug
