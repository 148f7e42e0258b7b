import Beacon.CommandLine.Integer
import Beacon.ControlSequence

/-!
# The command line

A command line may give the duty as an argument of its own, and the period and a settings file as
options. `CommandLine.parse` takes the arguments one by one.

A value that is an argument of its own is put aside and looked at only when the next option or
the next value comes, or at the end: so a fault that the very next argument has by itself is found
first. A value that is attached to its option is looked at at once.

Behind `--` every argument is a value. A lone `-` is one, too.
-/

namespace Beacon

structure CommandLine where
  duty : Option UInt32 := none
  periodMs : Option UInt32 := none
  config : Option String := none
deriving DecidableEq

namespace CommandLine

inductive Parameter where
  | duty
  | period
  | config
deriving DecidableEq

def Parameter.label : Parameter → String
  | .duty => "[DUTY]"
  | .period => "--period-ms <MS>"
  | .config => "--config <FILE>"

/-! ## Faults -/

inductive UsageFault where
  | unexpected (argument : String)
  /-- A value that is not a number in range. -/
  | badNumber (parameter : Parameter) (value : String) (fault : NumberFault)
  /-- A parameter without its value. -/
  | missing (parameter : Parameter)
  /-- A parameter that was given before. -/
  | repeated (parameter : Parameter)
  | surplus (value : String)
deriving DecidableEq

open ControlSequence (visible)

/-- What is wrong, in words. Of what was given, only what a terminal shows is repeated. -/
def UsageFault.text : UsageFault → String
  | .unexpected argument => "error: unexpected argument '" ++ visible argument ++ "' found"
  | .badNumber parameter value fault =>
    "error: invalid value '" ++ visible value ++ "' for '" ++ parameter.label ++ "': " ++
      fault.message
  | .missing parameter =>
    "error: a value is required for '" ++ parameter.label ++ "' but none was supplied"
  | .repeated parameter =>
    "error: the argument '" ++ parameter.label ++ "' cannot be used multiple times"
  | .surplus value =>
    "error: unexpected value '" ++ visible value ++ "' for '--help' found; no more were expected"

/-- The first line of a text. A carriage return right before the end of the line belongs to the
end. -/
def firstLine : List Char → List Char
  | [] => []
  | '\n' :: _ => []
  | '\r' :: '\n' :: _ => []
  | c :: rest => c :: firstLine rest

/-- What is wrong, on one line. -/
def UsageFault.message (fault : UsageFault) : String :=
  String.ofList (firstLine fault.text.toList)

inductive Halt where
  | help
  | fault (fault : UsageFault)
deriving DecidableEq

def Halt.exitCode : Halt → Nat
  | .help => 0
  | .fault _ => 2

def helpLines : List String :=
  ["Status LED blink controller with hold-to-accelerate buttons",
    "",
    "Usage: smartled [OPTIONS] [DUTY]",
    "",
    "Arguments:",
    "  [DUTY]  Initial duty cycle in percent (values above 100 are clamped)",
    "",
    "Options:",
    "  -p, --period-ms <MS>  Initial and reset blink period in milliseconds",
    "  -c, --config <FILE>   JSON configuration file; command-line values override it",
    "  -h, --help            Print help"]

def help : String := String.join (helpLines.map (· ++ "\n"))

def Halt.message : Halt → String
  | .help => CommandLine.help
  | .fault reason => reason.message

/-! ## Arguments -/

inductive Form where
  /-- `--`: only values follow. -/
  | terminator
  /-- `--name` or `--name=value`. -/
  | long (name : List Char) (value : Option (List Char))
  /-- `-x` with whatever follows the letter. -/
  | short (letter : Char) (rest : List Char)
  | value
deriving DecidableEq

/-- The part of a text before its first `=`, and the part behind it if there is one. -/
def splitAtEquals : List Char → List Char × Option (List Char)
  | [] => ([], none)
  | '=' :: rest => ([], some rest)
  | c :: rest =>
    let (name, value) := splitAtEquals rest
    (c :: name, value)

/-- What an argument looks like before any `--`. -/
def Form.of : List Char → Form
  | ['-', '-'] => .terminator
  | '-' :: '-' :: rest =>
    let split := splitAtEquals rest
    .long split.1 split.2
  | '-' :: letter :: rest => .short letter rest
  | _ => .value

/-- The value that is attached to a letter; a leading `=` does not belong to it. -/
def attached : List Char → Option (List Char)
  | [] => none
  | '=' :: rest => some rest
  | rest => some rest

/-! ## Parsing -/

structure Progress where
  line : CommandLine := {}
  /-- A parameter that was named, and its value if that has been there. -/
  pending : Option (Parameter × Option (List Char)) := none
  dutyTaken : Bool := false
  /-- Whether only values follow. -/
  valuesOnly : Bool := false
deriving DecidableEq

def number (parameter : Parameter) (value : List Char) : Except Halt UInt32 :=
  match word value with
  | .ok n => .ok n
  | .error fault => .error (.fault (.badNumber parameter (String.ofList value) fault))

def assign (line : CommandLine) (parameter : Parameter) (value : List Char) :
    Except Halt CommandLine :=
  match parameter with
  | .duty =>
    if line.duty.isSome then .error (.fault (.repeated .duty))
    else (number .duty value).map fun n => { line with duty := some n }
  | .period =>
    if line.periodMs.isSome then .error (.fault (.repeated .period))
    else (number .period value).map fun n => { line with periodMs := some n }
  | .config =>
    if line.config.isSome then .error (.fault (.repeated .config))
    else if value.isEmpty then .error (.fault (.missing .config))
    else .ok { line with config := some (String.ofList value) }

/-- Looks at the value that was put aside. -/
def settle (p : Progress) : Except Halt Progress :=
  match p.pending with
  | none => .ok p
  | some (parameter, none) => .error (.fault (.missing parameter))
  | some (parameter, some value) =>
    (assign p.line parameter value).map fun line => { p with line, pending := none }

/-- Takes an option with the value that is attached to it, if one is. -/
def option (p : Progress) (parameter : Parameter) (value : Option (List Char)) :
    Except Halt Progress :=
  match settle p with
  | .error halt => .error halt
  | .ok p =>
    match value with
    | none => .ok { p with pending := some (parameter, none) }
    | some value => (assign p.line parameter value).map fun line => { p with line }

/-- Takes an argument that is no option and no option's value. -/
def positional (p : Progress) (argument : List Char) : Except Halt Progress :=
  if p.dutyTaken then .error (.fault (.unexpected (String.ofList argument)))
  else (settle p).map fun p =>
    { p with pending := some (.duty, some argument), dutyTaken := true }

/-- Asks for help, once the value that was put aside is in order. -/
def askHelp (p : Progress) : Except Halt Progress := settle p >>= fun _ => .error .help

def take (p : Progress) (argument : List Char) : Except Halt Progress :=
  if p.valuesOnly then positional p argument
  else
    match Form.of argument with
    | .terminator => .ok { p with valuesOnly := true }
    | .long name value =>
      if name = "period-ms".toList then option p .period value
      else if name = "config".toList then option p .config value
      else if name = "help".toList then
        match value with
        | none => askHelp p
        | some value => .error (.fault (.surplus (String.ofList value)))
      else .error (.fault (.unexpected (String.ofList ('-' :: '-' :: name))))
    | .short letter rest =>
      if letter = 'p' then option p .period (attached rest)
      else if letter = 'c' then option p .config (attached rest)
      else if letter = 'h' then askHelp p
      else .error (.fault (.unexpected (String.ofList ['-', letter])))
    | .value =>
      match p.pending with
      | some (parameter, none) => .ok { p with pending := some (parameter, some argument) }
      | _ => positional p argument

def parse (arguments : List String) : Except Halt CommandLine := do
  let p ← arguments.foldlM (fun p argument => take p argument.toList) {}
  let p ← settle p
  return p.line

end CommandLine

end Beacon
