import GroundLink.Link.Error
import GroundLink.Report.Event

/-!
# Recording link

A link for rehearsals: it records everything that is sent and answers telecommands as it is told.
Telemetry can be put into it at any time.

* `Recorder.Replier.verifying` accepts and completes every telecommand.
* `Recorder.Replier.ruled` looks up a table: the first rule that fits decides the replies.
-/

namespace GroundLink.Link

/-! ### Replies -/

/-- A reply to a telecommand. -/
inductive Recorder.Reply where
  /-- These octets. -/
  | raw (packet : Bytes)
  /-- A verification report on the telecommand. -/
  | verification (subservice : UInt8) (failure : Option Verification.Failure)
  /-- An event with a number of its own. -/
  | event (apid sequence : UInt16) (severity : Event.Severity) (content : Event)
  /-- Telemetry of a service. -/
  | telemetry (service subservice : UInt8) (data : Bytes)
  deriving DecidableEq

/-- A rule of a reply table. -/
structure Recorder.Rule where
  /-- The telecommands that the rule is for; what is not given fits any. -/
  service : Option UInt8
  subservice : Option UInt8
  sequence : Option UInt16
  /-- How many more times the rule may be used. -/
  left : Option Nat
  replies : List Recorder.Reply
  deriving DecidableEq

/-- How telecommands are answered, with the number of telemetry packets made so far. -/
inductive Recorder.Replier where
  | silent
  | verifying (apid made : UInt16)
  | ruled (apid made : UInt16) (rules : List Recorder.Rule)
  deriving DecidableEq

/-- A recording link. -/
structure Recorder where
  sent : List Telecommand.Packed
  sentData : List Bytes
  /-- Telemetry that was not polled yet. -/
  pending : List Bytes
  /-- How many of the next telecommands are not answered. -/
  ignored : Nat
  replier : Recorder.Replier
  isClosed : Bool

namespace Recorder

def make (replier : Replier) : Recorder := ⟨[], [], [], 0, replier, false⟩

/-- Whether a rule is for a telecommand and may still be used. -/
def Rule.fits (r : Rule) (info : Telecommand.Info) : Bool :=
  r.service.all (· = info.service) && r.subservice.all (· = info.subservice) &&
    r.sequence.all (· = info.sequence) && r.left.all (0 < ·)

/-- Uses the first rule that fits: its replies and the table afterwards. -/
def useFirst (info : Telecommand.Info) : List Rule → List Reply × List Rule
  | [] => ([], [])
  | r :: rest =>
    if r.fits info then (r.replies, { r with left := r.left.map (· - 1) } :: rest)
    else
      let (replies, rest) := useFirst info rest
      (replies, r :: rest)

/-- The octets of telemetry, if they fit into a packet. -/
def encoded (t : Telemetry) : List Bytes :=
  match t.toBytes? with
  | .ok raw => [raw]
  | .error _ => []

/-- The octets of a reply, and the number of the telemetry made afterwards. -/
def Reply.toBytes (apid made : UInt16) (info : Telecommand.Info) : Reply → List Bytes × UInt16
  | .raw packet => ([packet], made)
  | .verification subservice failure =>
    (encoded (Verification.toTelemetry apid made info subservice failure), made + 1)
  | .event apid sequence severity content =>
    (encoded (content.toTelemetry apid sequence severity), made + 1)
  | .telemetry service subservice data =>
    (encoded { apid, service, subservice, sequence := made, data }, made + 1)

/-- The octets of replies in order. -/
def repliesToBytes (apid : UInt16) (info : Telecommand.Info) (made : UInt16) :
    List Reply → List Bytes × UInt16
  | [] => ([], made)
  | r :: rest =>
    let (first, made) := r.toBytes apid made info
    let (others, made) := repliesToBytes apid info made rest
    (first ++ others, made)

/-- Answers a telecommand. -/
def Replier.answer (info : Telecommand.Info) : Replier → List Bytes × Replier
  | .silent => ([], .silent)
  | .verifying apid made =>
    (encoded (Verification.toTelemetry apid (made + 1) info Verification.acceptanceSuccess none) ++
      encoded (Verification.toTelemetry apid (made + 2) info Verification.completionSuccess none),
      .verifying apid (made + 2))
  | .ruled apid made rules =>
    let (replies, rules) := useFirst info rules
    let (raws, made) := repliesToBytes apid info made replies
    (raws, .ruled apid made rules)

/-! ### Operations -/

def push (l : Recorder) (raw : Bytes) : Recorder :=
  { l with pending := l.pending ++ [raw] }

/-- Records a telecommand and answers it, unless it is to be ignored. -/
def send (l : Recorder) (tc : Telecommand.Packed) : Outcome Recorder Unit :=
  if l.isClosed then .fail l .closed
  else
    let l := { l with sent := l.sent ++ [tc] }
    if 0 < l.ignored then .pure { l with ignored := l.ignored - 1 } ()
    else
      let (raws, replier) := l.replier.answer tc.info
      .pure { l with pending := l.pending ++ raws, replier } ()

def sendData (l : Recorder) (data : Bytes) : Outcome Recorder Unit :=
  if l.isClosed then .fail l .closed
  else .pure { l with sentData := l.sentData ++ [data] } ()

def poll (l : Recorder) : Outcome Recorder Polled :=
  drain { l with pending := [] } l.pending

def available (l : Recorder) : Outcome Recorder Bool := .pure l (!l.pending.isEmpty)

/-- Nothing can be sent any more. -/
def close (l : Recorder) : Outcome Recorder Unit := .pure { l with isClosed := true } ()

end GroundLink.Link.Recorder
