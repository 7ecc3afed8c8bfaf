import GroundLink.Number.Reading
import GroundLink.Queue.Basic
import GroundLink.Text.Blank
import GroundLink.Text.Quoted

/-!
# Queue scripts

A queue can be written as text, one entry per line.  The first word of a line is a tag, the rest is
its argument:

    # Comment
    print Testing the test service
    tc 17 1 1700
    wait 2.0
    timeout 10
    export log/test.txt

Blank lines and lines that start with `#` are skipped.

* `Queue.Entry.ofTag` reads one entry, `Queue.ofScript` a whole script.
-/

namespace GroundLink.Queue

/-! ### Errors -/

/-- What an entry may lack. -/
inductive Argument where
  | service
  | subservice
  | sequence
  | path
  deriving DecidableEq, Repr

/-- The name of a missing argument. -/
def Argument.label : Argument → String
  | .service => "tc service"
  | .subservice => "tc subservice"
  | .sequence => "tc ssc"
  | .path => "export"

/-- Why an entry is refused. -/
inductive Entry.Error where
  | unknownTag (tag : String)
  | missing (argument : Argument)
  | invalid (tag value : String)
  | packet (cause : Packet.Error)
  deriving DecidableEq, Repr

/-- The text of a refusal. -/
def Entry.Error.message : Entry.Error → String
  | .unknownTag tag => "unknown queue entry tag " ++ Text.quote tag
  | .missing argument => "missing argument for " ++ argument.label ++ " entry"
  | .invalid tag value => "invalid argument " ++ Text.quote value ++ " for " ++ tag ++ " entry"
  | .packet cause => "packing telecommand failed: " ++ cause.message

/-- The first line of a script that is refused, counted from one, and why. -/
structure ScriptError where
  line : Nat
  cause : Entry.Error
  deriving DecidableEq, Repr

def ScriptError.message (e : ScriptError) : String :=
  s!"line {e.line}: " ++ e.cause.message

/-! ### Telecommands -/

/-- A field of a telecommand: a number below a bound. -/
def numberField (bound : Nat) (word : List Char) : Except Entry.Error Nat :=
  match Number.naturalBelow? bound word with
  | some n => .ok n
  | none => .error (.invalid "tc" (String.ofList word))

def dataField (word : List Char) : Except Entry.Error Bytes :=
  match Bytes.ofHex? word with
  | some data => .ok data
  | none => .error (.invalid "tc" (String.ofList word))

/-- Builds a telecommand from its fields. -/
def packEntry (apid : UInt16) (service subservice sequence : Nat) (data : Bytes) :
    Except Entry.Error Entry :=
  match Telecommand.make apid (UInt8.ofNat service) (UInt8.ofNat subservice)
      (UInt16.ofNat sequence) data with
  | .ok t => .ok (.telecommand t.pack)
  | .error cause => .error (.packet cause)

/-- Reads service, subservice, sequence count and optional application data. -/
def ofFields (apid : UInt16) : List (List Char) → Except Entry.Error Entry
  | [] => .error (.missing .service)
  | [_] => .error (.missing .subservice)
  | [_, _] => .error (.missing .sequence)
  | service :: subservice :: sequence :: rest => do
    let service ← numberField 256 service
    let subservice ← numberField 256 subservice
    let sequence ← numberField 65536 sequence
    match rest with
    | [] => packEntry apid service subservice sequence []
    | [data] => packEntry apid service subservice sequence (← dataField data)
    | data :: extra :: _ => do
      let _ ← dataField data
      throw (.invalid "tc" (String.ofList extra))

/-! ### Entries -/

/-- A span of time in seconds. -/
def secondsField (tag : String) (argument : List Char) : Except Entry.Error Span :=
  let text := String.ofList argument
  match (Number.floating? text).bind Span.ofSeconds? with
  | some time => .ok time
  | none => .error (.invalid tag text)

/-- Reads an entry from its tag and its argument. -/
def Entry.ofTag (tag argument : String) (apid : UInt16) : Except Entry.Error Entry :=
  let argument := Text.trim argument.toList
  match tag with
  | "wait" => (secondsField tag argument).map .wait
  | "print" => .ok (.print (String.ofList argument))
  | "rawprint" => .ok (.printPlain (String.ofList argument))
  | "export" =>
    if argument.isEmpty then .error (.missing .path) else .ok (.export ⟨String.ofList argument⟩)
  | "timeout" => (secondsField tag argument).map .timeout
  | "tc" => ofFields apid (Text.words argument)
  | _ => .error (.unknownTag tag)

/-! ### Scripts -/

/-- Whether a line holds no entry. -/
def isSkipped (line : List Char) : Bool :=
  line.isEmpty || line.head? = some '#'

/-- Reads the entry of a line, if there is one. -/
def ofLine? (apid : UInt16) (line : List Char) : Except Entry.Error (Option Entry) :=
  let line := Text.trim line
  if isSkipped line then .ok none
  else
    let (tag, argument) := Text.cutAtBlank line
    (Entry.ofTag (String.ofList tag) (String.ofList argument) apid).map some

/-- Reads the entries of lines, the first of which has a given number. -/
def ofLines (apid : UInt16) (number : Nat) : List (List Char) → Except ScriptError Queue
  | [] => .ok []
  | line :: rest =>
    match ofLine? apid line with
    | .error cause => .error ⟨number, cause⟩
    | .ok none => ofLines apid (number + 1) rest
    | .ok (some e) => do
      let entries ← ofLines apid (number + 1) rest
      return e :: entries

def ofScript (script : String) (apid : UInt16) : Except ScriptError Queue :=
  ofLines apid 1 (Text.lines script.toList)

end GroundLink.Queue
