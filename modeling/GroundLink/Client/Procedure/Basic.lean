import GroundLink.Client.Procedure.Data
import GroundLink.Queue.Basic
import GroundLink.Report.Service

/-!
# Procedures

A procedure is a fixed sequence of telecommands with their announcements.  For a given application
it becomes a queue.
-/

namespace GroundLink.Client

/-- A step of a procedure. -/
inductive Procedure.Item where
  | print (text : String)
  | telecommand (service subservice : UInt8) (sequence : UInt16) (data : Bytes)
  | waitSecs (seconds : Nat)
  /-- Write what was printed to a file in the log directory. -/
  | export (file : String)
  deriving DecidableEq, Repr

/-- A sequence of steps. -/
abbrev Procedure := List Procedure.Item

namespace Procedure

def logDirectory : Path := ⟨"log"⟩

def logPath (file : String) : Path := logDirectory.join ⟨file⟩

/-- The queue entry of a step. -/
def Item.toEntry (apid : UInt16) : Item → Except Packet.Error Queue.Entry
  | .print text => .ok (.print text)
  | .telecommand service subservice sequence data =>
    (Telecommand.make apid service subservice sequence data).map fun t => .telecommand t.pack
  | .waitSecs seconds => .ok (.wait (Span.ofSecs seconds))
  | .export file => .ok (.export (logPath file))

def toQueue (procedure : Procedure) (apid : UInt16) : Except Packet.Error Queue :=
  procedure.mapM (Item.toEntry apid)

/-! ### Frequent steps -/

/-- Announces a telecommand. -/
def announced (text : String) (service : Service) (subservice : UInt8) (sequence : UInt16)
    (data : Bytes) : Procedure :=
  [.print text, .telecommand service.code subservice sequence data]

/-- Announces a command to put an object into a mode. -/
def setMode (text : String) (sequence : UInt16) (object : UInt32) (mode : Mission.DeviceMode) :
    Procedure :=
  announced text .mode 1 sequence (modeData object mode.code 0)

end Procedure

end GroundLink.Client
