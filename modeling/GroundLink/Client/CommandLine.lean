import GroundLink.Files.Path
import GroundLink.Net.Address
import GroundLink.Number.Reading

/-!
# The command line

The client is started with options: switches, which are there or not, and settings, which have a
value.  Every option has a long name after two dashes, and some have a letter after one dash.  A
value follows its setting as an argument of its own, or is attached to it.  Letters of several
options may share one dash.  No option is given twice, and there are no other arguments.

* `CommandLine.parse` reads the arguments.

A setting whose value is the next argument is settled late, when another option follows or the
arguments end.  So of two faults the later one may be the one that is told.
-/

namespace GroundLink.Client

/-- Why arguments are refused. -/
inductive UsageError where
  | unknownArgument
  /-- A setting without its value, or with an empty one where that is nonsense. -/
  | missingValue
  /-- A value of the wrong form. -/
  | malformedValue
  | repeatedOption
  /-- A switch with a value. -/
  | unneededValue
  /-- The user asks for help instead. -/
  | helpRequested
  deriving DecidableEq, Repr

/-- The text of a refusal. -/
def UsageError.message : UsageError → String
  | .unknownArgument => "unexpected argument"
  | .missingValue => "a value is required"
  | .malformedValue => "invalid value"
  | .repeatedOption => "an option is given twice"
  | .unneededValue => "unexpected value"
  | .helpRequested => "help requested"

/-- What the command line says. -/
structure CommandLine where
  mode : UInt8 := 1
  link : Option String := none
  service : String := "17"
  tmTimeout : Option Float := none
  tcTimeoutFactor : Option Float := none
  resend : Bool := false
  shortDisplay : Bool := false
  printRawTm : Bool := false
  printHk : Bool := false
  /-- Nothing is printed on the console. -/
  isQuiet : Bool := false
  /-- Nothing is written to files. -/
  keepsNoFiles : Bool := false
  serialPort : Option String := none
  board : Option Net.IpAddress := none
  client : Option Net.IpAddress := none
  config : Path := ⟨"config.toml"⟩

namespace CommandLine

/-! ### Options -/

/-- An option without a value. -/
inductive Switch where
  | resend
  | shortDisplay
  | printRawTm
  | printHk
  | isQuiet
  | keepsNoFiles
  | help
  deriving DecidableEq, Repr

/-- An option with a value. -/
inductive Setting where
  | mode
  | link
  | service
  | tmTimeout
  | tcTimeoutFactor
  | serialPort
  | board
  | client
  | config
  deriving DecidableEq, Repr

inductive Choice where
  | switch (switch : Switch)
  | setting (setting : Setting)
  deriving DecidableEq, Repr

/-- The option with a given long name. -/
def Choice.named? : String → Option Choice
  | "mode" => some (.setting .mode)
  | "com-if" => some (.setting .link)
  | "service" => some (.setting .service)
  | "tm-timeout" => some (.setting .tmTimeout)
  | "tc-timeout-factor" => some (.setting .tcTimeoutFactor)
  | "rs" => some (.switch .resend)
  | "short" => some (.switch .shortDisplay)
  | "raw" => some (.switch .printRawTm)
  | "hk" => some (.switch .printHk)
  | "np" => some (.switch .isQuiet)
  | "nl" => some (.switch .keepsNoFiles)
  | "com-port" => some (.setting .serialPort)
  | "board-ip" => some (.setting .board)
  | "client-ip" => some (.setting .client)
  | "config" => some (.setting .config)
  | "help" => some (.switch .help)
  | _ => none

/-- The option with a given letter. -/
def Choice.lettered? : Char → Option Choice
  | 'm' => some (.setting .mode)
  | 'c' => some (.setting .link)
  | 's' => some (.setting .service)
  | 't' => some (.setting .tmTimeout)
  | 'o' => some (.setting .tcTimeoutFactor)
  | 'd' => some (.switch .shortDisplay)
  | 'r' => some (.switch .printRawTm)
  | 'h' => some (.switch .help)
  | _ => none

/-! ### Values -/

/-- A number of eight bits.  A minus sign in front of zero is fine. -/
def octet? (text : String) : Option UInt8 :=
  let (negative, digits) := Number.signed text.toList
  match Number.digits? digits with
  | some n => if n < 256 ∧ (negative → n = 0) then some (UInt8.ofNat n) else none
  | none => none

/-- A value of the right form. -/
def require {α : Type} : Option α → Except UsageError α
  | some a => .ok a
  | none => .error .malformedValue

/-- Sets a switch. -/
def turnOn (c : CommandLine) : Switch → Except UsageError CommandLine
  | .resend => .ok { c with resend := true }
  | .shortDisplay => .ok { c with shortDisplay := true }
  | .printRawTm => .ok { c with printRawTm := true }
  | .printHk => .ok { c with printHk := true }
  | .isQuiet => .ok { c with isQuiet := true }
  | .keepsNoFiles => .ok { c with keepsNoFiles := true }
  | .help => .error .helpRequested

/-- Gives a setting its value. -/
def set (c : CommandLine) (setting : Setting) (text : String) : Except UsageError CommandLine := do
  match setting with
  | .mode => return { c with mode := ← require (octet? text) }
  | .link => return { c with link := some text }
  | .service => return { c with service := text }
  | .tmTimeout => return { c with tmTimeout := some (← require (Number.floating? text)) }
  | .tcTimeoutFactor =>
    return { c with tcTimeoutFactor := some (← require (Number.floating? text)) }
  | .serialPort => return { c with serialPort := some text }
  | .board => return { c with board := some (← require (Net.IpAddress.ofText? text)) }
  | .client => return { c with client := some (← require (Net.IpAddress.ofText? text)) }
  | .config =>
    if text.isEmpty then throw .missingValue
    return { c with config := ⟨text⟩ }

/-! ### Reading arguments -/

/-- What was read so far. -/
structure Partway where
  found : CommandLine := {}
  /-- The options that were settled. -/
  settled : List Choice := []
  /-- The last setting that had no value attached, and the value that followed it. -/
  waiting : Option (Setting × Option String) := none

namespace Partway

/-- Notes that an option is given. -/
def claim (s : Partway) (choice : Choice) : Except UsageError Partway :=
  if choice ∈ s.settled then .error .repeatedOption
  else .ok { s with settled := choice :: s.settled }

def assign (s : Partway) (setting : Setting) (text : String) : Except UsageError Partway := do
  let s ← s.claim (.setting setting)
  return { s with found := ← s.found.set setting text }

/-- Settles the setting that waits. -/
def settle (s : Partway) : Except UsageError Partway :=
  match s.waiting with
  | none => .ok s
  | some (_, none) => .error .missingValue
  | some (setting, some text) => { s with waiting := none }.assign setting text

def flip (s : Partway) (switch : Switch) : Except UsageError Partway := do
  let s ← s.settle
  let found ← s.found.turnOn switch
  { s with found }.claim (.switch switch)

/-- Settles a setting with a value attached, or lets it wait for its value. -/
def begin (s : Partway) (setting : Setting) (attached : Option String) :
    Except UsageError Partway := do
  let s ← s.settle
  match attached with
  | some text => s.assign setting text
  | none => return { s with waiting := some (setting, none) }

/-- An argument with two dashes, without them.  A value is attached after an equals sign. -/
def long (s : Partway) (argument : List Char) : Except UsageError Partway :=
  let attached := match argument.dropWhile (· ≠ '=') with
    | [] => none
    | _ :: text => some (String.ofList text)
  match Choice.named? (String.ofList (argument.takeWhile (· ≠ '='))), attached with
  | none, _ => .error .unknownArgument
  | some (.switch _), some _ => .error .unneededValue
  | some (.switch switch), none => s.flip switch
  | some (.setting setting), attached => s.begin setting attached

/-- The value attached to the letter of a setting.  An equals sign may stand in between. -/
def attachedToLetter : List Char → Option String
  | [] => none
  | '=' :: text => some (String.ofList text)
  | text => some (String.ofList text)

/-- An argument with one dash, without it: letters of switches, or of a setting and its value. -/
def letters (s : Partway) : List Char → Except UsageError Partway
  | [] => .ok s
  | letter :: rest =>
    match Choice.lettered? letter with
    | none => .error .unknownArgument
    | some (.setting setting) => s.begin setting (attachedToLetter rest)
    | some (.switch switch) => (s.flip switch).bind fun s => letters s rest

/-- An argument without dashes is the value of the setting that waits for one. -/
def plain (s : Partway) (text : String) : Except UsageError Partway :=
  match s.waiting with
  | some (setting, none) => .ok { s with waiting := some (setting, some text) }
  | _ => .error .unknownArgument

/-- Reads arguments to the end.  Two dashes alone say that no option follows, so nothing may. -/
def arguments (s : Partway) : List String → Except UsageError Partway
  | [] => s.settle
  | first :: rest =>
    match first.toList with
    | ['-', '-'] => if rest.isEmpty then s.settle else .error .unknownArgument
    | '-' :: '-' :: name => (s.long name).bind fun s => arguments s rest
    | '-' :: letter :: more => (s.letters (letter :: more)).bind fun s => arguments s rest
    | _ => (s.plain first).bind fun s => arguments s rest

end Partway

def parse (arguments : List String) : Except UsageError CommandLine :=
  (Partway.arguments {} arguments).map (·.found)

end CommandLine

end GroundLink.Client
