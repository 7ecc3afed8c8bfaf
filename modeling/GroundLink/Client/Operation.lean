import GroundLink.Client.Exit
import GroundLink.Client.Verdict
import GroundLink.Sender.Sequential
import GroundLink.Sender.Single

/-!
# Operation of the client

What the client does in each of its modes.  Every mode but the listener mode makes a sender work;
the listener mode prints what arrives until the client is told to stop.
-/

namespace GroundLink.Client

/-- What the client is to do, and with which settings. -/
structure Operation where
  mode : Mode := default
  service : ServiceSelection := default
  settings : Settings := {}
  deriving Inhabited

/-- Why an operation of the client fails. -/
inductive Operation.Error where
  | file (cause : FileTree.Error)
  | sender (cause : Sender.Error)
  | procedure (cause : Procedure.Error)
  | packet (cause : Packet.Error)
  /-- These services did not pass their tests. -/
  | failedTests (services : List Service)
  deriving DecidableEq, Repr

namespace Operation

/-- The text of a failure. -/
def Error.message : Error → String
  | .file cause => "io error: " ++ cause.message
  | .sender cause => "sender error: " ++ cause.message
  | .procedure cause => "packing telecommands failed: " ++ cause.message
  | .packet cause => "PUS error: " ++ cause.message
  | .failedTests services =>
    "unit test failed for services " ++
      Text.bracketed (services.map fun service => toString service.code)

/-! ### Fixed names and intervals -/

/-- The pause between two lines that tell that the client is idle. -/
def idlePrintInterval : Span := Span.ofSecs 5

def idlePollInterval : Span := Span.ofMillis 200

/-- The output of the software test. -/
def softwareTestFile : String := "tmtc_log.txt"

/-- The verdicts of the unit tests. -/
def unitTestFile : String := "tmtc_unit_test.txt"

/-! ### Listener mode -/

def noteIdle : Routine Unit Unit := Routine.note (Log.info "TMTC Client in idle mode")

/-- Prints telemetry until the client is told to stop. -/
def idle (settings : Settings) : Routine Unit Unit := do
  noteIdle
  let start ← Routine.now
  Routine.iterate (Printer.ofSettings settings, start) fun (printer, last) => do
    let running ← (Routine.perform .isRunning : Routine Unit Bool)
    if !running then return .inr ()
    let (printer, entries) := printer.printBatches (← Routine.takeTelemetry)
    Routine.log entries
    let mut last := last
    if idlePrintInterval ≤ (← Routine.elapsedSince last) then
      noteIdle
      last ← Routine.now
    Routine.sleep idlePollInterval
    return .inl (printer, last)

/-! ### Command and test modes -/

/-- A new sender works for the client. -/
def bySender {α : Type} (settings : Settings) (routine : Routine Sender α) :
    Routine Unit (α × Sender) :=
  Routine.delegate (Sender.make settings (Printer.ofSettings settings)) routine

/-- Sends one telecommand. -/
def sendSingle (settings : Settings) : Routine Unit (Except Error Unit) := do
  let (received, _) ← bySender settings
    (Sender.sendSingle (Procedure.singleCommand settings.apid).pack)
  match received with
  | .error cause => return .error (.sender cause)
  | .ok batches =>
    Routine.note (Log.info s!"single command finished with {batches.length} telemetry batches")
    return .ok ()

/-- The instant for procedures that tell the time, which they note in the log. -/
def tellTime (needed : Bool) : Routine Unit Calendar.Instant := do
  if needed then
    let now ← (Routine.perform .today : Routine Unit Calendar.Instant)
    Routine.log (Procedure.timeLog now)
    return now
  else return default

/-- Sends the procedure of the selected service. -/
def testService (o : Operation) : Routine Unit (Except Error Unit) := do
  let now ← tellTime (Procedure.tellsTime o.service)
  match Procedure.selectedQueue now o.service o.settings.apid with
  | .error cause => return .error (.procedure cause)
  | .ok queue =>
    let ((sent, _), _) ← bySender o.settings (Sender.sendSequentially .serviceTest queue)
    return sent.mapError .sender

/-- Writes a file in the log directory, if output is written to files. -/
def writeLog (settings : Settings) (file text : String) : Routine Unit (Except Error Unit) := do
  if settings.printToFile then
    return (← Routine.writeFile (Procedure.logPath file) text).mapError .file
  else return .ok ()

/-- Sends the procedures of all services and collects their output in one file. -/
def testSoftware (settings : Settings) : Routine Unit (Except Error Unit) := do
  let now ← tellTime true
  match (Procedure.softwareTest now).toQueue settings.apid with
  | .error cause => return .error (.packet cause)
  | .ok queue =>
    let ((sent, _), sender) ← bySender settings (Sender.sendSequentially .softwareTest queue)
    match sent with
    | .error cause => return .error (.sender cause)
    | .ok () => writeLog settings softwareTestFile sender.printer.pagesText

/-! ### Unit test mode -/

/-- Runs the test of a service. -/
def runTest (settings : Settings) (test : ServiceTest) : Routine Unit (Except Error Verdict) := do
  match test.procedure.toQueue settings.apid with
  | .error cause => return .error (.packet cause)
  | .ok queue =>
    Routine.note (Log.info s!"Testing Service {test.service.code}")
    let ((result, _), _) ← bySender settings
      (Sender.sendBurst { test.burst with printsTelemetry := settings.printTm } queue)
    match result with
    | .error cause => return .error (.sender cause)
    | .ok (sent, received) =>
      Routine.log (Verdict.makeLog sent received)
      return .ok (Verdict.make test sent received)

/-- Prints a verdict and logs the deviations. -/
def printVerdict (summary : Printer) (verdict : Verdict) : Routine Unit Printer := do
  let (summary, entries) := summary.printText verdict.summary true
  Routine.log (entries ++ verdict.mismatches.map fun text =>
    Log.error (s!"Service {verdict.service.code}: " ++ text))
  return summary

/-- Runs the tests of services one after another, and prints the verdicts. -/
def runTests (settings : Settings) (summary : Printer) :
    List Service → Routine Unit (Except Error (List Verdict × Printer))
  | [] => return .ok ([], summary)
  | service :: rest => do
    match ServiceTest.ofService? service with
    | none => runTests settings summary rest
    | some test =>
      match ← runTest settings test with
      | .error cause => return .error cause
      | .ok verdict =>
        let summary ← printVerdict summary verdict
        return (← runTests settings summary rest).map fun (verdicts, summary) =>
          (verdict :: verdicts, summary)

/-- Runs the tests of the selected services, and writes the verdicts to a file. -/
def testUnits (o : Operation) : Routine Unit (Except Error (List Verdict)) := do
  match ← runTests o.settings (Printer.ofSettings o.settings) (ServiceTest.selected o.service) with
  | .error cause => return .error cause
  | .ok (verdicts, summary) =>
    return (← writeLog o.settings unitTestFile summary.buffer).map fun _ => verdicts

/-- The result of the unit test mode. -/
def judge (verdicts : List Verdict) : Except Error Unit :=
  let failed := verdicts.filter fun verdict => !verdict.isOk
  if failed.isEmpty then .ok () else .error (.failedTests (failed.map (·.service)))

/-! ### All modes -/

/-- Does what the client is to do. -/
def perform (o : Operation) : Routine Unit (Except Error Unit) := do
  Routine.note (Log.info ("TMTC client running in " ++ o.mode.describe))
  match o.mode with
  | .listener =>
    idle o.settings
    return .ok ()
  | .singleCommand => sendSingle o.settings
  | .serviceTest => testService o
  | .softwareTest => testSoftware o.settings
  | .unitTest => return (← testUnits o).bind judge

end Operation

end GroundLink.Client
