import GroundLink.Report.Verification

/-!
# Event reports

An event carries its number, the object that reports it and two parameters.  The subservice is its
severity.
-/

namespace GroundLink

/-- How severe an event is. -/
inductive Event.Severity where
  | info
  | low
  | medium
  | high
  deriving DecidableEq, Repr

/-- An event report.  A subservice that is no severity is kept as none. -/
structure Event where
  severity : Option Event.Severity
  number : UInt16
  reporter : UInt32
  first : UInt32
  second : UInt32
  deriving DecidableEq, Repr

namespace Event

/-- The subservice of a severity. -/
def Severity.code : Severity → UInt8
  | .info => 1
  | .low => 2
  | .medium => 3
  | .high => 4

/-- The severity with a given number. -/
def Severity.ofCode? : Nat → Option Severity
  | 1 => some .info
  | 2 => some .low
  | 3 => some .medium
  | 4 => some .high
  | _ => none

/-- Reads the report in the data of a packet. -/
def ofData? (subservice : UInt8) (data : Bytes) : Option Event := do
  let number ← data.word16At? 0
  let reporter ← data.word32At? 2
  let first ← data.word32At? 6
  let second ← data.word32At? 10
  return ⟨Severity.ofCode? subservice.toNat, number, reporter, first, second⟩

/-- The report of an event with a given severity. -/
def toTelemetry (e : Event) (apid sequence : UInt16) (severity : Severity) : Telemetry where
  apid := apid
  service := Service.event.code
  subservice := severity.code
  sequence := sequence
  data := Bytes.ofWord16 e.number ++ Bytes.ofWord32 e.reporter ++ Bytes.ofWord32 e.first ++
    Bytes.ofWord32 e.second

/-- An event in words. -/
def describe (e : Event) : String :=
  match e.severity with
  | some .info => "Event Info"
  | some .low => "Event Error Low Severity"
  | some .medium => "Event Error Med Severity"
  | some .high => "Event Error High Severity"
  | none => "Event"

def columnTitles : List String := ["Event ID", "Reporter ID", "Parameter 1", "Parameter 2"]

def columns (e : Event) : List String :=
  [toString e.number, Text.hex 8 e.reporter.toNat, Verification.parameterText e.first,
    Verification.parameterText e.second]

end Event

end GroundLink
