import GroundLink.Client.ServiceTest
import GroundLink.Report.Basic

/-!
# Verdicts on service tests

The telemetry of a service test is counted packet by packet: each packet adds to some counters,
and the counts of a test are the sum over its packets.  The verdict compares them with what was
expected.

* `Counts.ofPacket` is what one packet counts for, `Counts.ofPackets` is the sum.
* `Verdict.mismatches` lists the deviations.
-/

namespace GroundLink.Client

/-! ### Counting -/

/-- What the telemetry of a test holds. -/
structure Counts where
  acceptance : Nat := 0
  start : Nat := 0
  steps : Nat := 0
  completion : Nat := 0
  failures : Nat := 0
  events : Nat := 0
  misc : Nat := 0
  dataReplies : Nat := 0
  /-- Verification reports that belong to no telecommand that was sent. -/
  unmatched : Nat := 0
  invalid : Nat := 0
  deriving DecidableEq, Repr, Inhabited

namespace Counts

instance : Add Counts where
  add a b := {
    acceptance := a.acceptance + b.acceptance
    start := a.start + b.start
    steps := a.steps + b.steps
    completion := a.completion + b.completion
    failures := a.failures + b.failures
    events := a.events + b.events
    misc := a.misc + b.misc
    dataReplies := a.dataReplies + b.dataReplies
    unmatched := a.unmatched + b.unmatched
    invalid := a.invalid + b.invalid }

instance : Zero Counts := ⟨{}⟩

/-- Whether a report belongs to one of the telecommands that were sent. -/
def isMatched (sent : List Telecommand.Info) (v : Verification) : Bool :=
  sent.any fun info => info.sequence = v.sequence && info.packetId = v.packetId

/-- What a report on a telecommand that was sent counts for. -/
def ofOutcome : Verification.Outcome → Counts
  | .acceptanceSuccess => { acceptance := 1 }
  | .startSuccess => { start := 1 }
  | .stepSuccess _ => { steps := 1 }
  | .completionSuccess => { completion := 1 }
  | .acceptanceFailure _ | .startFailure _ | .stepFailure _ _ | .completionFailure _ =>
    { failures := 1 }

/-- Whether an event counts. -/
def isCounted (scan : Scan) (e : Event) : Bool :=
  match scan with
  | .eventsAndPings => true
  | .deviceModes => e.reporter = Mission.dummyDevice && Mission.modeEvents.contains e.number

/-- What a report counts for. -/
def ofReport (sent : List Telecommand.Info) (scan : Scan) : Report → Counts
  | .verification v => if isMatched sent v then ofOutcome v.outcome else { unmatched := 1 }
  | .event e => if isCounted scan e then { events := 1 } else {}
  | _ => {}

/-- Whether a packet is a miscellaneous reply. -/
def isMisc (scan : Scan) (service subservice : UInt8) : Bool :=
  match scan with
  | .eventsAndPings => service = Service.test.code
  | .deviceModes =>
    (service = Service.mode.code && subservice = 6) ||
      (service = Service.deviceAccess.code && (subservice = 130 || subservice = 131))

/-- What a packet counts for as a reply of a device. -/
def ofReply (scan : Scan) (service subservice : UInt8) : Counts :=
  if isMisc scan service subservice then { misc := 1 }
  else if service = Service.action.code && subservice = 130 then { dataReplies := 1 }
  else {}

def ofPacket (sent : List Telecommand.Info) (scan : Scan) (p : Packet) : Counts :=
  if p.valid then
    ofReport sent scan (Report.ofPacket p) + ofReply scan p.service p.subservice
  else { invalid := 1 }

def ofPackets (sent : List Telecommand.Info) (scan : Scan) (packets : List Packet) : Counts :=
  (packets.map (ofPacket sent scan)).foldr (· + ·) 0

/-- What counting a packet writes to the log. -/
def packetLog (sent : List Telecommand.Info) (p : Packet) : List Log.Entry :=
  if p.valid then
    Report.remarks p ++
      match Report.ofPacket p with
      | .verification v =>
        if isMatched sent v then []
        else [Log.warn s!"verification report for unknown TC with SSC {v.sequence}"]
      | _ => []
  else []

end Counts

/-! ### Judging -/

/-- The verdict on a service test. -/
structure Verdict where
  service : Service
  /-- The number of telecommands that were sent. -/
  sent : Nat
  counts : Counts
  expectation : Expectation
  deriving DecidableEq, Repr

namespace Verdict

/-- The verdict on a test, from the telecommands sent and the telemetry received. -/
def make (test : ServiceTest) (sent : List Telecommand.Info) (received : List Packet.Batch) :
    Verdict :=
  ⟨test.service, sent.length, Counts.ofPackets sent test.scan received.flatten, test.expectation⟩

def makeLog (sent : List Telecommand.Info) (received : List Packet.Batch) : List Log.Entry :=
  received.flatten.flatMap (Counts.packetLog sent)

/-- All counters that are judged: name, value and expected value. -/
def checks (v : Verdict) : List (String × Nat × Nat) :=
  [("completion reports", v.counts.completion, v.sent - v.expectation.missingCompletion),
    ("acceptance reports", v.counts.acceptance, v.sent - v.expectation.failures),
    ("failure reports", v.counts.failures, v.expectation.failures),
    ("step reports", v.counts.steps, v.expectation.steps),
    ("events", v.counts.events, v.expectation.events),
    ("miscellaneous replies", v.counts.misc, v.expectation.misc),
    ("data replies", v.counts.dataReplies, v.expectation.dataReplies),
    ("unmatched verification reports", v.counts.unmatched, 0),
    ("invalid packets", v.counts.invalid, 0)]

/-- The deviations from what was expected. -/
def mismatches (v : Verdict) : List String :=
  (v.checks.filter fun (_, actual, expected) => actual ≠ expected).map
    fun (name, actual, expected) => name ++ s!": expected {expected}, got {actual}"

def isOk (v : Verdict) : Bool := v.mismatches.isEmpty

/-- A verdict on one line. -/
def summary (v : Verdict) : String :=
  let c := v.counts
  s!"Service {v.service.code} test " ++ (if v.isOk then "OK" else "FAILED") ++
    s!": {v.sent} TCs, {c.acceptance} accepted, {c.start} started, {c.steps} steps, " ++
    s!"{c.completion} completed, {c.failures} failures, {c.events} events, {c.misc} misc, " ++
    s!"{c.dataReplies} data replies"

end Verdict

end GroundLink.Client
