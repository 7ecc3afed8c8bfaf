import GroundLink.Client.Procedure.Catalogue
import GroundLink.Sender.Burst

/-!
# Service tests

Some services have an automated test: their procedure is sent in a burst, and the telemetry received
meanwhile is counted and compared with what the procedure should lead to.
-/

namespace GroundLink.Client

/-- What a procedure should lead to. -/
structure Expectation where
  events : Nat := 0
  misc : Nat := 0
  failures : Nat := 0
  /-- Telecommands that are not expected to complete. -/
  missingCompletion : Nat := 0
  steps : Nat := 0
  dataReplies : Nat := 0
  deriving DecidableEq, Repr, Inhabited

/-- How events and miscellaneous replies are counted. -/
inductive Scan where
  /-- All events, and replies of the test service. -/
  | eventsAndPings
  /-- Changes of mode of the dummy device, reports of a mode that was reached, and replies of
  devices to raw commands. -/
  | deviceModes
  deriving DecidableEq, Repr

/-- The automated test of a service. -/
structure ServiceTest where
  service : Service
  procedure : Procedure
  burst : Sender.Burst
  expectation : Expectation
  scan : Scan

namespace ServiceTest

/-- A burst with pauses of equal length after the first telecommands. -/
def uniform (count seconds : Nat) : Sender.Burst :=
  ⟨(List.range count).map (· + 1), .uniform (Span.ofSecs seconds), true⟩

/-- A burst with a pause of its own after each of the first telecommands. -/
def perInterval (millis : List Nat) : Sender.Burst :=
  ⟨(List.range millis.length).map (· + 1), .perInterval (millis.map Span.ofMillis), true⟩

/-- One event, a ping and another reply, and a telecommand that is refused. -/
def eventExpectation : Expectation where
  events := 1
  misc := 2
  failures := 1
  missingCompletion := 1

/-- The test of a service, if it has one.  In the test of the action service there are three changes
of mode with two events each, and the data reply comes with one more step. -/
def ofService? : Service → Option ServiceTest
  | .deviceAccess => some ⟨.deviceAccess, Procedure.deviceAccess, uniform 5 2,
      { events := 3, misc := 5 }, .deviceModes⟩
  | .event => some ⟨.event, Procedure.event, perInterval [2000, 2000, 2000, 1500],
      eventExpectation, .eventsAndPings⟩
  | .action => some ⟨.action, Procedure.action, perInterval [1500, 1500, 2200, 2200, 2000],
      { events := 6, misc := 3, steps := 1, dataReplies := 1 }, .deviceModes⟩
  | .test => some ⟨.test, Procedure.test, uniform 4 1, eventExpectation, .eventsAndPings⟩
  | .mode => some ⟨.mode, Procedure.mode, uniform 3 2, { events := 8, misc := 4 }, .deviceModes⟩
  | _ => none

def tested : List Service := [.deviceAccess, .event, .action, .test, .mode]

/-- The services to be tested for a selection: the selected service if it has a test, and all that
have one otherwise. -/
def selected : ServiceSelection → List Service
  | .service number => (tested.find? (·.code = number)).elim tested ([·])
  | _ => tested

end ServiceTest

end GroundLink.Client
