import Goodput.Cli.Value
/-!
# Scanning command lines

A command has options with a long name, perhaps a short one, perhaps an environment variable that stands
in for it, and perhaps a value. `scan` reads the arguments of a command from left to right.

The value of an option may be attached (`--port=80`, `-p80`) or be the next argument; the next argument
is never a value if it looks like an option. A value that is attached is read at once, any other only
when the next option comes or the arguments end. So of two mistakes in one command line it is not always
the first that is reported: an unknown option is reported before a bad value in front of it.
-/

namespace Goodput.Cli

structure OptionSpec where
  long : String
  short : Option Char := none
  /-- The environment variable that is used where the command line has no such option. -/
  env : Option String := none
  /-- The kind of the value; an option without one is a switch. -/
  value : Option ValueKind := none
  required : Bool := false
deriving Repr, DecidableEq, Inhabited

/-- The name of an option's value in messages. -/
def OptionSpec.valueName (o : OptionSpec) : String :=
  String.ofList (o.long.toList.map fun c => if c = '-' then '_' else c.toUpper)

/-- A command: its options, and whether it can show its version. -/
structure CommandSpec where
  options : List OptionSpec
  hasVersion : Bool := false
deriving Repr, DecidableEq, Inhabited

/-- Why a command line gives nothing to run. The last three are answers, not mistakes. -/
inductive ArgError where
  | unknownArgument
  | invalidSubcommand
  | argumentConflict
  | tooManyValues
  /-- An option stands without a value, or with an empty one where it must not be empty. -/
  | invalidValue
  | missingRequiredArgument
  /-- A value was read and refused. -/
  | valueValidation (option : OptionSpec) (raw reason : String)
  | displayHelpOnMissingArgumentOrSubcommand
  | displayHelp
  | displayVersion
deriving Repr, DecidableEq, Inhabited

/-- The text before the first line end. -/
def firstLine (s : String) : String :=
  let line := s.toList.takeWhile (· != '\n')
  String.ofList (if line.getLast? = some '\r' then line.dropLast else line)

/-- The first line of the message about a refused value. -/
def ArgError.message? : ArgError → Option String
  | .valueValidation option raw reason =>
    some (firstLine s!"error: invalid value '{raw}' for '--{option.long} <{option.valueName}>': {reason}")
  | _ => none

/-- The process answers with help or version text instead of running, as was asked for. -/
def ArgError.isAnswer : ArgError → Bool
  | .displayHelp | .displayVersion => true
  | _ => false

/-- The options that were read, by long name, and the option whose value is still to come or to read. -/
structure Scan where
  values : List (String × Value)
  pending : Option (OptionSpec × Option String)
deriving Repr, DecidableEq, Inhabited

namespace Scan

/-- Nothing read yet. -/
def start : Scan := ⟨[], none⟩

def has (o : OptionSpec) (s : Scan) : Bool := s.values.any (·.1 == o.long)

/-- Take up an option with a value or a switch. No option may come twice. -/
def store (o : OptionSpec) (raw : String) (s : Scan) : Except ArgError Scan :=
  if s.has o then .error .argumentConflict
  else
    match o.value with
    | none => .ok { s with values := s.values ++ [(o.long, .present)] }
    | some kind =>
      match kind.read raw with
      | .ok v => .ok { s with values := s.values ++ [(o.long, v)] }
      | .error .empty => .error .invalidValue
      | .error (.invalid reason) => .error (.valueValidation o raw reason)

/-- Read the value of the pending option, which must be there by now. -/
def settle (s : Scan) : Except ArgError Scan :=
  match s.pending with
  | none => .ok s
  | some (_, none) => .error .invalidValue
  | some (o, some raw) => store o raw { s with pending := none }

/-- Meet an option, with an attached value or without. -/
def option (o : OptionSpec) (attached : Option String) (s : Scan) : Except ArgError Scan :=
  match o.value, attached with
  | none, some _ => .error .tooManyValues
  | none, none => s.settle >>= store o ""
  | some _, some raw => s.settle >>= store o raw
  | some _, none => s.settle.map fun s => { s with pending := some (o, none) }

/-- Meet an option that asks for an answer instead of a run. -/
def asked (answer : ArgError) (attached : Option String) (s : Scan) : Except ArgError Scan :=
  match attached with
  | some _ => .error .tooManyValues
  | none => s.settle.bind fun _ => .error answer

/-- Meet a long option: what follows the two dashes. -/
def longOption (cmd : CommandSpec) (body : List Char) (s : Scan) : Except ArgError Scan :=
  let (name, attached) := match Text.splitFirst '=' body with
    | some (name, value) => (String.ofList name, some (String.ofList value))
    | none => (String.ofList body, none)
  match cmd.options.find? (·.long == name) with
  | some o => s.option o attached
  | none =>
    if name = "help" then s.asked .displayHelp attached
    else if name = "version" ∧ cmd.hasVersion then s.asked .displayVersion attached
    else .error .unknownArgument

/-- Meet short options: what follows the dash. The rest behind an option that takes a value is its
value, without an equals sign in front. -/
def shortOptions (cmd : CommandSpec) : List Char → Scan → Except ArgError Scan
  | [], s => .ok s
  | c :: rest, s =>
    match cmd.options.find? (·.short == some c) with
    | some o =>
      if o.value.isSome then
        match rest with
        | [] => s.option o none
        | '=' :: value => s.option o (some (String.ofList value))
        | value => s.option o (some (String.ofList value))
      else s.option o none >>= shortOptions cmd rest
    | none =>
      if c = 'h' then s.asked .displayHelp none
      else if c = 'V' ∧ cmd.hasVersion then s.asked .displayVersion none
      else .error .unknownArgument

/-- Meet one argument in front of the double dash. -/
def argument (cmd : CommandSpec) (arg : List Char) (s : Scan) : Except ArgError Scan :=
  match arg with
  | '-' :: '-' :: body => s.longOption cmd body
  | '-' :: c :: body => s.shortOptions cmd (c :: body)
  | _ =>
    match s.pending with
    | some (o, none) => .ok { s with pending := some (o, some (String.ofList arg)) }
    | _ => .error .unknownArgument

/-- Read all arguments. Nothing may follow the double dash, as no command takes bare arguments. -/
def arguments (cmd : CommandSpec) : List String → Scan → Except ArgError Scan
  | [], s => s.settle
  | arg :: args, s =>
    if arg = "--" then
      if args.isEmpty then s.settle else .error .unknownArgument
    else s.argument cmd arg.toList >>= arguments cmd args

/-- Take the options that the command line does not have from their environment variables. -/
def fromEnv (env : List (String × String)) : List OptionSpec → Scan → Except ArgError Scan
  | [], s => .ok s
  | o :: os, s =>
    let set? := o.env.bind fun name => (env.find? (·.1 == name)).map (·.2)
    match set? with
    | some raw => if s.has o then fromEnv env os s else s.store o raw >>= fromEnv env os
    | none => fromEnv env os s

end Scan

/-- Read the arguments of a command and the environment into values by long name. -/
def scan (cmd : CommandSpec) (env : List (String × String)) (args : List String) :
    Except ArgError (List (String × Value)) :=
  match Scan.start.arguments cmd args with
  | .error e => .error e
  | .ok s =>
    match s.fromEnv env cmd.options with
    | .error e => .error e
    | .ok s =>
      if cmd.options.all fun o => !o.required || s.has o then .ok s.values
      else .error .missingRequiredArgument

/-! ## Looking values up -/

namespace Values

def get? (name : String) (vs : List (String × Value)) : Option Value :=
  (vs.find? (·.1 == name)).map (·.2)

def number? (name : String) (vs : List (String × Value)) : Option Nat :=
  match get? name vs with
  | some (.number n) => some n
  | _ => none

def text? (name : String) (vs : List (String × Value)) : Option String :=
  match get? name vs with
  | some (.text s) => some s
  | _ => none

def ip? (name : String) (vs : List (String × Value)) : Option IpAddress :=
  match get? name vs with
  | some (.ip a) => some a
  | _ => none

def streams? (name : String) (vs : List (String × Value)) : Option StreamCount :=
  match get? name vs with
  | some (.streams s) => some s
  | _ => none

end Values

end Goodput.Cli
