import GroundLink.Client.Selection
import GroundLink.Files.Tree
import GroundLink.Log
import GroundLink.Net.Address
import GroundLink.Toml.Document

/-!
# The configuration file

A file may supply what the command line leaves open.  It has a section on the link and a section on
telecommands and telemetry.  Everything in it may be missing, and what is not known is ignored.

* `ConfigFile.ofText?` reads the text of a file.
* `ConfigFile.load` reads a file.  A file that is missing says nothing.
-/

namespace GroundLink.Client

open Toml (Value Entries)

/-- What a file says about the link. -/
structure ConfigFile.LinkSection where
  kind : Option LinkKind := none
  serialPort : Option String := none
  baudRate : Option UInt32 := none
  board : Option Net.IpAddress := none
  client : Option Net.IpAddress := none
  deriving DecidableEq, Repr

/-- What a file says about telecommands and telemetry. -/
structure ConfigFile.TrafficSection where
  apid : Option UInt16 := none
  tmTimeout : Option Float := none
  tcTimeoutFactor : Option Float := none
  resend : Option Bool := none
  logFile : Option Path := none

structure ConfigFile where
  link : ConfigFile.LinkSection := {}
  traffic : ConfigFile.TrafficSection := {}

namespace ConfigFile

/-! ### Single values -/

def text? : Value → Option String
  | .string text => some text
  | _ => none

/-- A whole number below a bound. -/
def natural? (bound : Nat) : Value → Option Nat
  | .integer (.ofNat n) => if n < bound then some n else none
  | _ => none

/-- A number.  A whole number stands for the nearest floating point number. -/
def number? : Value → Option Float
  | .float bits => some (Float.ofBits (UInt64.ofNat bits))
  | .integer (.ofNat n) => some (Float.ofBits (UInt64.ofNat (Number.nearestBits n 0)))
  | .integer (.negSucc n) => some (-Float.ofBits (UInt64.ofNat (Number.nearestBits (n + 1) 0)))
  | _ => none

def truth? : Value → Option Bool
  | .boolean value => some value
  | _ => none

/-- A value without anything in it. -/
def isVoid : Value → Bool
  | .array items => items.isEmpty
  | .table _ entries => entries.isEmpty
  | _ => false

/-- The kind of link with a given name. -/
def kindNamed? : String → Option LinkKind
  | "dummy" => some .dummy
  | "serial" => some .serial
  | "udp" => some .udp
  | _ => none

/-- A kind of link: its name, alone or with nothing under it. -/
def kind? : Value → Option LinkKind
  | .string name => kindNamed? name
  | .table _ [(name, content)] => if isVoid content then kindNamed? name else none
  | _ => none

def address? (value : Value) : Option Net.IpAddress :=
  (text? value).bind Net.IpAddress.ofText?

/-! ### Sections -/

/-- The fields of a section by their names.  An array lists the fields in their order, and a date
has none of them. -/
def fields? (names : List String) : Value → Option (String → Option Value)
  | .table _ entries => some fun name => entries.lookup name
  | .array items => some fun name => (names.zip items).lookup name
  | .tables elements =>
    some fun name => (names.zip (elements.map (Value.table .header))).lookup name
  | .datetime _ => some fun _ => none
  | _ => none

/-- A value that may be missing, but not malformed. -/
def optional {α : Type} (read : Value → Option α) : Option Value → Option (Option α)
  | none => some none
  | some value => (read value).map some

def linkFields : List String := ["com_if", "serial_port", "baud_rate", "board_ip", "client_ip"]

/-- Reads the section on the link. -/
def linkSection? (value : Value) : Option LinkSection := do
  let field ← fields? linkFields value
  return {
    kind := ← optional kind? (field "com_if")
    serialPort := ← optional text? (field "serial_port")
    baudRate := (← optional (natural? UInt32.size) (field "baud_rate")).map UInt32.ofNat
    board := ← optional address? (field "board_ip")
    client := ← optional address? (field "client_ip") }

def trafficFields : List String :=
  ["apid", "tm_timeout_secs", "tc_timeout_factor", "resend_tc", "log_file"]

/-- Reads the section on telecommands and telemetry. -/
def trafficSection? (value : Value) : Option TrafficSection := do
  let field ← fields? trafficFields value
  return {
    apid := (← optional (natural? UInt16.size) (field "apid")).map UInt16.ofNat
    tmTimeout := ← optional number? (field "tm_timeout_secs")
    tcTimeoutFactor := ← optional number? (field "tc_timeout_factor")
    resend := ← optional truth? (field "resend_tc")
    logFile := (← optional text? (field "log_file")).map Path.mk }

/-! ### The whole file -/

/-- Reads the outermost table of a file. -/
def ofEntries? (entries : Entries) : Option ConfigFile := do
  return {
    link := (← optional linkSection? (entries.lookup "interface")).getD {}
    traffic := (← optional trafficSection? (entries.lookup "tmtc")).getD {} }

def ofText? (text : String) : Option ConfigFile :=
  (Toml.parse? text).bind ofEntries?

/-- Reads the content of a file. -/
def ofContent (content : ByteArray) : Except ConfigError ConfigFile :=
  match String.fromUTF8? content with
  | none => .error (.unreadable "stream did not contain valid UTF-8")
  | some text =>
    match ofText? text with
    | some file => .ok file
    | none => .error .malformed

/-- What is logged when the defaults are used because there is no file. -/
def missingLog (path : Path) : List Log.Entry :=
  [Log.debug ("no config file found at " ++ path.text ++ ", using defaults")]

/-- Reads a file, with what is logged. -/
def load (files : FileTree) (path : Path) : Except ConfigError ConfigFile × List Log.Entry :=
  if files.contains path then
    match files.read path with
    | .ok content => (ofContent content, [])
    | .error cause => (.error (.unreadable cause.message), [])
  else (.ok {}, missingLog path)

end ConfigFile

end GroundLink.Client
