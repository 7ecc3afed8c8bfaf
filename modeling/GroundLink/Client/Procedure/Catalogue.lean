import GroundLink.Client.Procedure.Devices
import GroundLink.Client.Selection

/-!
# Catalogue of procedures

The procedures that the client offers.
-/

namespace GroundLink.Client.Procedure

/-- The procedure of a service at an instant, if there is one. -/
def ofService? (now : Calendar.Instant) (service : Service) : Option Procedure :=
  match service with
  | .deviceAccess => some deviceAccess
  | .housekeeping => some housekeeping
  | .event => some event
  | .action => some action
  | .time => some (time now)
  | .test => some test
  | .parameter => some parameter
  | .mode => some mode
  | .verification => none

/-- The procedure that was selected, if there is one. -/
def ofSelection? (now : Calendar.Instant) : ServiceSelection → Option Procedure
  | .service number => (Service.ofCode? number.toNat).bind (ofService? now)
  | .dummy => some dummy
  | .gps0 => some (receiver Mission.receiver0)
  | .gps1 => some (receiver Mission.receiver1)
  | .error => some provocation

/-- Whether a selected procedure depends on the instant. -/
def tellsTime (selection : ServiceSelection) : Bool :=
  selection = .service Service.time.code

/-- The procedures of the software test, one after another. -/
def softwareTest (now : Calendar.Instant) : Procedure :=
  deviceAccess ++ housekeeping ++ event ++ action ++ time now ++ test ++ mode ++ dummy ++
    receiver Mission.receiver0

/-- The only telecommand of the single command mode. -/
def singleCommand (apid : UInt16) : Telecommand :=
  ⟨Packet.Apid.ofWord apid, Service.test.code, 1, Packet.SequenceCount.ofWord 1700,
    Packet.AckFlags.none, 0, [], Nat.zero_le _⟩

/-! ### Errors -/

inductive Error where
  | unknownService (selection : ServiceSelection)
  | packet (cause : Packet.Error)
  deriving DecidableEq, Repr

def Error.message : Error → String
  | .unknownService selection => "no telecommands defined for service " ++ selection.label
  | .packet cause => "PUS error: " ++ cause.message

/-- The queue of the selected procedure. -/
def selectedQueue (now : Calendar.Instant) (selection : ServiceSelection) (apid : UInt16) :
    Except Error Queue :=
  match ofSelection? now selection with
  | some procedure => (procedure.toQueue apid).mapError .packet
  | none => .error (.unknownService selection)

end GroundLink.Client.Procedure
