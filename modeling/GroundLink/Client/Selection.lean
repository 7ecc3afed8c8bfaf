import GroundLink.Number.Reading
import GroundLink.Number.Shortest

/-!
# Selections

What the user of the client selects by a number or a name: what the client does, over which kind of
link, and which telecommands it sends.  Names may be written in letters of either case.
-/

namespace GroundLink.Client

/-! ### Errors -/

/-- Why a configuration is refused. -/
inductive ConfigError where
  /-- The configuration file cannot be read. -/
  | unreadable (text : String)
  /-- The configuration file is malformed. -/
  | malformed
  | invalidMode (number : UInt8)
  | invalidLink (name : String)
  | invalidService (name : String)
  | missingSerialPort
  | invalidTmTimeout (seconds : Float)
  | invalidTcTimeoutFactor (factor : Float)
  deriving Repr

/-- A floating point number in a message. -/
def floatText (x : Float) : String :=
  Binary.double.render x.toBits.toNat

/-- The text of a refusal. -/
def ConfigError.message : ConfigError → String
  | .unreadable text => "io error: " ++ text
  | .malformed => "invalid config file"
  | .invalidMode number => s!"invalid operation mode {number}"
  | .invalidLink name => "invalid communication interface " ++ name
  | .invalidService name => "invalid service " ++ name
  | .missingSerialPort => "serial communication requires a serial port"
  | .invalidTmTimeout seconds => "invalid TM timeout " ++ floatText seconds ++ " s"
  | .invalidTcTimeoutFactor factor => "invalid TC timeout factor " ++ floatText factor

/-- The number of a selection, if it is written as one. -/
def selectedNumber? (text : String) : Option Nat :=
  Number.naturalBelow? 256 text.toList

/-- A name in lower case.  The names that can be selected are ASCII, and no letter beyond ASCII has
a letter of theirs as its lower case. -/
def lowerName (text : String) : String :=
  String.ofList (text.toList.map Char.toLower)

/-! ### Modes -/

/-- What the client does. -/
inductive Mode where
  /-- Only listen for incoming telemetry. -/
  | listener
  /-- Send one telecommand and wait for its replies. -/
  | singleCommand
  /-- Send the telecommands of one service and wait for the replies to each. -/
  | serviceTest
  /-- The same for all services. -/
  | softwareTest
  /-- Send the telecommands of services in bursts and judge the replies. -/
  | unitTest
  deriving DecidableEq, Repr, Inhabited

namespace Mode

def all : List Mode := [.listener, .singleCommand, .serviceTest, .softwareTest, .unitTest]

def code : Mode → Nat
  | .listener => 1
  | .singleCommand => 2
  | .serviceTest => 3
  | .softwareTest => 4
  | .unitTest => 5

def ofCode? (n : Nat) : Option Mode := all.find? (·.code = n)

/-- A mode in words. -/
def describe : Mode → String
  | .listener => "Listener Mode"
  | .singleCommand => "Single Command Mode"
  | .serviceTest => "Service Test Mode"
  | .softwareTest => "Software Test Mode"
  | .unitTest => "Unit Test Mode"

/-- All modes with their numbers on one line. -/
def listText : String :=
  ", ".intercalate (all.map fun mode => toString mode.code ++ ": " ++ mode.describe)

end Mode

/-! ### Kinds of links -/

/-- The kinds of links that can be selected. -/
inductive LinkKind where
  /-- No hardware at all. -/
  | dummy
  | serial
  | udp
  deriving DecidableEq, Repr

instance : Inhabited LinkKind := ⟨.udp⟩

namespace LinkKind

def code : LinkKind → Nat
  | .dummy => 0
  | .serial => 1
  | .udp => 2

def ofCode? : Nat → Option LinkKind
  | 0 => some .dummy
  | 1 => some .serial
  | 2 => some .udp
  | _ => none

/-- The kind with a given name in lower case. -/
def ofName? : String → Option LinkKind
  | "dummy" => some .dummy
  | "serial" => some .serial
  | "udp" => some .udp
  | "ethernet" => some .udp
  | _ => none

/-- The kind that a text selects. -/
def ofText (text : String) : Except ConfigError LinkKind :=
  match (match selectedNumber? text with
    | some n => ofCode? n
    | none => ofName? (lowerName text)) with
  | some kind => .ok kind
  | none => .error (.invalidLink text)

end LinkKind

/-! ### Telecommand sets -/

/-- The telecommands that are sent in the service and unit test modes. -/
inductive ServiceSelection where
  | service (number : UInt8)
  | dummy
  | gps0
  | gps1
  | error
  deriving DecidableEq, Repr

namespace ServiceSelection

instance : Inhabited ServiceSelection := ⟨.service 17⟩

/-- The telecommand set with a given name in lower case. -/
def ofName? : String → Option ServiceSelection
  | "dummy" => some .dummy
  | "gps0" => some .gps0
  | "gps1" => some .gps1
  | "error" => some .error
  | _ => none

/-- The telecommand set that a text selects. -/
def ofText (text : String) : Except ConfigError ServiceSelection :=
  match selectedNumber? text with
  | some n => .ok (.service (UInt8.ofNat n))
  | none =>
    match ofName? (lowerName text) with
    | some selection => .ok selection
    | none => .error (.invalidService text)

/-- The name of a telecommand set. -/
def label : ServiceSelection → String
  | .service number => toString number
  | .dummy => "Dummy"
  | .gps0 => "GPS0"
  | .gps1 => "GPS1"
  | .error => "Error"

end ServiceSelection

end GroundLink.Client
