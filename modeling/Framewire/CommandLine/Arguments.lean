/-
**The arguments of the command line.**

Options come before the command that they belong to: `--conf`, `--log-dir` and `--verbose` before
the command `serve`, `send` or `print-config`, the options of `send` after it.  An option that takes
a value has it attached (`--conf=FILE`, `-cFILE`, `-c=FILE`) or in the next argument, whatever that
is, unless it is an option itself.  A single option is given at most once; `-v` counts.  After `--`
nothing is an option or a command.

Arguments are read from left to right.  The value of an option is judged when the next option or
the end comes, the values behind a command before those in front of it; so the first mistake in
that order is the one that is reported.

Main definitions:

* `Invocation`, `Command` — what the arguments ask for;
* `UsageError` — why they ask for nothing;
* `Parameter`, `Level` — the options and where they may stand;
* `Invocation.parse` — the reading of arguments.
-/

import Framewire.Address.Parser

set_option autoImplicit false

namespace Framewire

/-! ### What arguments ask for -/

/-- A message to send, and where to. -/
structure SendRequest where
  destination : Endpoint
  code : UInt8 := 1
  token : String := ""
  waitMs : UInt64 := 2000
  payload : String
deriving DecidableEq, Repr

/-- What to do. -/
inductive Command where
  | serve
  | send (request : SendRequest)
  | printConfig
deriving DecidableEq, Repr

/-- What the arguments ask for. -/
structure Invocation where
  conf : Option String := none
  logDir : String := "logs"
  verbose : Nat := 0
  command : Command
deriving DecidableEq, Repr

/-- Why arguments ask for nothing. -/
inductive UsageError where
  | displayHelp
  | displayVersion
  | displayHelpOnMissing
  | missingSubcommand
  | invalidSubcommand
  | unknownArgument
  | tooManyValues
  | invalidValue
  | valueValidation
  | argumentConflict
  | missingRequiredArgument
deriving DecidableEq, Repr

namespace UsageError

/-- The name of an error. -/
def name : UsageError → String
  | displayHelp => "DisplayHelp"
  | displayVersion => "DisplayVersion"
  | displayHelpOnMissing => "DisplayHelpOnMissingArgumentOrSubcommand"
  | missingSubcommand => "MissingSubcommand"
  | invalidSubcommand => "InvalidSubcommand"
  | unknownArgument => "UnknownArgument"
  | tooManyValues => "TooManyValues"
  | invalidValue => "InvalidValue"
  | valueValidation => "ValueValidation"
  | argumentConflict => "ArgumentConflict"
  | missingRequiredArgument => "MissingRequiredArgument"

/-- Whether the arguments ask for a text and are no mistake. -/
def isRequest : UsageError → Bool
  | displayHelp => true
  | displayVersion => true
  | _ => false

end UsageError

/-! ### Options and where they stand -/

/-- An option, or an argument without a name. -/
inductive Parameter where
  | conf
  | logDir
  | verbose
  | help
  | version
  | destination
  | code
  | token
  | waitMs
  | payload
deriving DecidableEq, Repr

/-- Whether an option takes a value. -/
def Parameter.takesValue : Parameter → Bool
  | verbose => false
  | help => false
  | version => false
  | _ => true

/-- In front of the command, or behind one of the commands. -/
inductive Level where
  | top
  | serve
  | send
  | printConfig
deriving DecidableEq, Repr

namespace Level

/-- The option of a long name. -/
def long? (level : Level) (name : String) : Option Parameter :=
  match level, name with
  | _, "help" => some .help
  | top, "conf" => some .conf
  | top, "log-dir" => some .logDir
  | top, "verbose" => some .verbose
  | top, "version" => some .version
  | send, "to" => some .destination
  | send, "code" => some .code
  | send, "token" => some .token
  | send, "wait-ms" => some .waitMs
  | _, _ => none

/-- The option of a letter. -/
def short? (level : Level) (letter : Char) : Option Parameter :=
  match level, letter with
  | _, 'h' => some .help
  | top, 'c' => some .conf
  | top, 'v' => some .verbose
  | top, 'V' => some .version
  | _, _ => none

/-- The arguments without a name, in order. -/
def positionals : Level → List Parameter
  | send => [.payload]
  | _ => []

/-- The command of a name. -/
def command? : String → Option Level
  | "serve" => some serve
  | "send" => some send
  | "print-config" => some printConfig
  | _ => none

/-- Whether a name is that of a command or of the request for help. -/
def isCommand (name : String) : Bool := (command? name).isSome || name = "help"

end Level

/-! ### Values -/

/-- The number that an optional sign and decimal digits write; a minus sign only where allowed. -/
def Parameter.number? (minus : Bool) (text : String) : Option Int :=
  let (negative, digits) := match text.toList with
    | '+' :: rest => (false, rest)
    | '-' :: rest => if minus then (true, rest) else (false, '-' :: rest)
    | characters => (false, characters)
  if digits = [] ∨ digits.all (Reader.isDigit 10) = false then none
  else
    let value : Int := Reader.numeral 10 digits
    some (if negative then -value else value)

/-- The number that a text writes, if it is at least zero and at most `greatest`. -/
def Parameter.natural? (minus : Bool) (greatest : Nat) (text : String) : Option Nat := do
  let i ← number? minus text
  if 0 ≤ i ∧ i ≤ greatest then some i.toNat else none

/-- The first thing that is wrong with the value of an option. -/
def Parameter.judge (parameter : Parameter) (value : String) : Except UsageError Unit :=
  let check (ok : Bool) (e : UsageError) : Except UsageError Unit := if ok then .ok () else .error e
  match parameter with
  | logDir => check (value ≠ "") .invalidValue
  | destination => check (Endpoint.parse? value).isSome .valueValidation
  | code => check (natural? true 255 value).isSome .valueValidation
  | waitMs => check (natural? false (UInt64.size - 1) value).isSome .valueValidation
  | _ => .ok ()

/-! ### Reading -/

/-- What has been read at one level. -/
structure Reading where
  /-- the values that were judged, the last one first -/
  given : List (Parameter × String) := []
  /-- how often the output was asked to be more verbose -/
  verbose : Nat := 0
  /-- a value that is not judged yet, and before it comes, the option that waits for it -/
  pending : Option (Parameter × Option String) := none
  /-- how many arguments without a name were read -/
  positionals : Nat := 0
  /-- whether `--` was read -/
  trailing : Bool := false
deriving Repr

namespace Reading

/-- The value of a parameter. -/
def value? (r : Reading) (parameter : Parameter) : Option String := r.given.lookup parameter

/-- Whether an option waits for its value. -/
def isWaiting (r : Reading) : Bool :=
  match r.pending with
  | some (_, none) => true
  | _ => false

/-- Judges a value. -/
def accept (r : Reading) (parameter : Parameter) (value : String) : Except UsageError Reading := do
  if (r.value? parameter).isSome then
    .error .argumentConflict
  parameter.judge value
  return { r with given := (parameter, value) :: r.given }

/-- Judges the value that is not judged yet. -/
def settle (r : Reading) : Except UsageError Reading :=
  let settled := { r with pending := none }
  match r.pending with
  | none => .ok r
  | some (_, none) => .error .invalidValue
  | some (parameter, some value) => settled.accept parameter value

/-- An option that takes no value. -/
def flag (r : Reading) (parameter : Parameter) : Except UsageError Reading := do
  let r ← r.settle
  match parameter with
  | .help => .error .displayHelp
  | .version => .error .displayVersion
  | _ => return { r with verbose := min 255 (r.verbose + 1) }

/-- An option that takes a value, with the value if it is attached. -/
def option (r : Reading) (parameter : Parameter) (attached : Option String) :
    Except UsageError Reading := do
  let r ← r.settle
  match attached with
  | some value => r.accept parameter value
  | none => return { r with pending := some (parameter, none) }

/-- A long option, without the two hyphens. -/
def long (level : Level) (r : Reading) (text : List Char) : Except UsageError Reading :=
  let name := text.takeWhile (· ≠ '=')
  let attached := match text.dropWhile (· ≠ '=') with
    | _ :: value => some (String.ofList value)
    | [] => none
  match level.long? (String.ofList name) with
  | none => .error .unknownArgument
  | some parameter =>
    if parameter.takesValue then r.option parameter attached
    else if attached.isSome then .error .tooManyValues
    else r.flag parameter

/-- Short options, without the hyphen; the rest of the letters is the value of the first option that
takes one. -/
def short (level : Level) (r : Reading) : (letters : List Char) → Except UsageError Reading
  | [] => .ok r
  | letter :: rest =>
    match level.short? letter with
    | none => .error .unknownArgument
    | some parameter =>
      if parameter.takesValue then
        match rest with
        | [] => r.option parameter none
        | '=' :: value => r.option parameter (some (String.ofList value))
        | value => r.option parameter (some (String.ofList value))
      else
        match r.flag parameter with
        | .ok r => short level r rest
        | .error e => .error e

/-- An argument without a name. -/
def positional (level : Level) (r : Reading) (argument : String) : Except UsageError Reading :=
  match level.positionals[r.positionals]? with
  | some parameter => do
    let r ← r.settle
    return { r with pending := some (parameter, some argument), positionals := r.positionals + 1 }
  | none =>
    if level = .top then
      let isCommand := r.trailing ∧ Level.isCommand argument
      .error (if isCommand then .unknownArgument else .invalidSubcommand)
    else .error .unknownArgument

/-- An argument that is no command. -/
def argument (level : Level) (r : Reading) (argument : String) : Except UsageError Reading :=
  if r.trailing then r.positional level argument
  else
    match argument.toList with
    | ['-', '-'] => .ok { r with trailing := true }
    | '-' :: '-' :: text => r.long level text
    | '-' :: letter :: letters => r.short level (letter :: letters)
    | _ =>
      match r.pending with
      | some (parameter, none) => .ok { r with pending := some (parameter, some argument) }
      | _ => r.positional level argument

/-- Reads arguments up to a command, which is left with the arguments behind it. -/
def scan (level : Level) (r : Reading) :
    (arguments : List String) → Except UsageError (Reading × Option (String × List String))
  | [] => .ok (r, none)
  | argument :: rest =>
    if level = .top ∧ r.trailing = false ∧ r.isWaiting = false ∧ Level.isCommand argument then
      .ok (r, some (argument, rest))
    else
      match r.argument level argument with
      | .ok r => scan level r rest
      | .error e => .error e

end Reading

/-! ### Commands -/

/-- The request for help: it may name one command. -/
def UsageError.ofHelp : List String → UsageError
  | [] => .displayHelp
  | [name] => if Level.isCommand name then .displayHelp else .invalidSubcommand
  | _ => .invalidSubcommand

/-- The command of its level and of what was read there. -/
def Command.ofReading (level : Level) (r : Reading) : Except UsageError Command :=
  match level with
  | .send =>
    match (r.value? .destination).bind Endpoint.parse?, r.value? .payload with
    | some destination, some payload =>
      let code := ((r.value? .code).bind (Parameter.natural? true 255)).getD 1
      let wait := ((r.value? .waitMs).bind (Parameter.natural? false (UInt64.size - 1))).getD 2000
      .ok (.send {
        destination, payload
        code := UInt8.ofNat code
        token := (r.value? .token).getD ""
        waitMs := UInt64.ofNat wait })
    | _, _ => .error .missingRequiredArgument
  | .serve => .ok .serve
  | .printConfig => .ok .printConfig
  | .top => .error .missingSubcommand

/-- The command of its level and of the arguments behind it. -/
def Command.parse (level : Level) (arguments : List String) : Except UsageError Command := do
  let (r, _) ← Reading.scan level {} arguments
  ofReading level (← r.settle)

/-- What arguments ask for. -/
def Invocation.parse (arguments : List String) : Except UsageError Invocation := do
  let (r, found) ← Reading.scan .top {} arguments
  match found with
  | none =>
    let r ← r.settle
    .error (if r.given.isEmpty ∧ r.verbose = 0 then .displayHelpOnMissing else .missingSubcommand)
  | some (name, rest) =>
    match Level.command? name with
    | none => .error (UsageError.ofHelp rest)
    | some level =>
      let command ← Command.parse level rest
      let r ← r.settle
      return {
        command
        conf := r.value? .conf
        logDir := (r.value? .logDir).getD "logs"
        verbose := r.verbose }

end Framewire
