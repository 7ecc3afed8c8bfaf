import GroundLink.Packet.Basic
import GroundLink.Report.Event
import GroundLink.Report.Housekeeping
import GroundLink.Report.Mode

/-!
# Reports

The typed view of a received packet: its service decides how its data are read.  Data that do not
match their layout, and services without a layout, give the generic report.

* `Report.ofPacket` reads a packet, `Report.remarks` is what reading it writes to the log.
-/

namespace GroundLink

/-- The typed view of a packet. -/
inductive Report where
  | verification (v : Verification)
  | housekeeping (h : Housekeeping)
  | event (e : Event)
  | parameter (r : ParameterReply)
  | mode (r : ModeReply)
  | generic
  deriving DecidableEq, Repr

namespace Report

/-! ### Reading -/

/-- The report of a service in the data of a packet.  Services without a layout have none. -/
def ofService? (service : Service) (subservice : UInt8) (data : Bytes) : Option Report :=
  match service with
  | .verification => (Verification.ofData? subservice data).map .verification
  | .housekeeping => (Housekeeping.ofData? subservice data).map .housekeeping
  | .event => (Event.ofData? subservice data).map .event
  | .parameter => (ParameterReply.ofData? data).map .parameter
  | .mode => (ModeReply.ofData? subservice data).map .mode
  | .deviceAccess | .action | .time | .test => some .generic

def ofPacket (p : Packet) : Report :=
  match Service.ofCode? p.service.toNat with
  | some service => (ofService? service p.subservice p.data).getD .generic
  | none => .generic

/-- What reading the data of a service writes to the log before it is decided whether they match
the layout. -/
def serviceRemarks (service : Service) (subservice : UInt8) (data : Bytes) : List Log.Entry :=
  match service with
  | .verification =>
    if 4 ≤ data.length && !Verification.isSubservice subservice then
      [Log.error s!"invalid verification subservice {subservice}"]
    else []
  | .housekeeping =>
    match Housekeeping.ofData? subservice data with
    | some h =>
      if h.isIncomplete then
        [Log.warn ("HK data for SID " ++ Text.hex 8 h.sid.toNat ++ " shorter than expected")]
      else []
    | none => []
  | _ => []

/-- What reading a packet writes to the log. -/
def remarks (p : Packet) : List Log.Entry :=
  match Service.ofCode? p.service.toNat with
  | none =>
    [Log.warn s!"service {p.service} is not known, using the generic telemetry representation"]
  | some service =>
    serviceRemarks service p.subservice p.data ++
      (if (ofService? service p.subservice p.data).isSome then [] else
        [Log.warn (s!"application data of TM[{p.service},{p.subservice}] too short for its " ++
          "service layout")])

/-! ### Display -/

/-- A generic report in words. -/
def describeService (code : UInt8) : String :=
  match Service.ofCode? code.toNat with
  | some .deviceAccess => "Raw Commanding Reply"
  | some .action => "Functional Commanding Reply"
  | some .time => "Time Service Reply"
  | some .test => "Test Reply"
  | _ => s!"Telemetry of service {code}"

/-- The report of a packet in words. -/
def describe (report : Report) (p : Packet) : String :=
  match report with
  | .verification v => v.outcome.describe
  | .housekeeping _ => "Housekeeping Packet"
  | .event e => e.describe
  | .parameter _ => "Parameter Management Reply"
  | .mode r => r.describe
  | .generic => describeService p.service

/-- The titles of the columns behind those of the packet. -/
def columnTitles : Report → List String
  | .verification v => v.columnTitles
  | .housekeeping _ => Housekeeping.columnTitles
  | .event _ => Event.columnTitles
  | .parameter _ => ParameterReply.columnTitles
  | .mode r => r.columnTitles
  | .generic => []

/-- The contents of these columns. -/
def columns : Report → List String
  | .verification v => v.columns
  | .housekeeping h => h.columns
  | .event e => e.columns
  | .parameter r => r.columns
  | .mode r => r.columns
  | .generic => []

end Report

end GroundLink
