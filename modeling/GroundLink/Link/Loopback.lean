import GroundLink.Link.Error
import GroundLink.Report.Verification

/-!
# Loopback link

A link without hardware that answers some telecommands itself.  Telecommands of the test and the
event service are accepted and completed, and a ping is replied to in between.  The replies are
numbered consecutively.
-/

namespace GroundLink.Link

open Packet

/-- A loopback link. -/
structure Loopback where
  /-- The application that replies. -/
  apid : UInt16
  /-- The number of the next reply. -/
  next : SequenceCount
  /-- Replies that were not polled yet. -/
  pending : List Bytes
  deriving DecidableEq, Repr, Inhabited

namespace Loopback

def make (apid : UInt16) : Loopback := ⟨apid, SequenceCount.start, []⟩

/-- Whether telecommands of a service are answered. -/
def answers (service : UInt8) : Bool :=
  service = Service.test.code || service = Service.event.code

def isPing (info : Telecommand.Info) : Bool :=
  info.service = Service.test.code && info.subservice = 1

/-- The reply to a ping. -/
def pingReply (apid sequence : UInt16) : Telemetry where
  apid := apid
  service := Service.test.code
  subservice := 2
  sequence := sequence
  data := []

/-- Adds a reply with the next number. -/
def reply (l : Loopback) (make : UInt16 → Telemetry) : Loopback :=
  match (make (UInt16.ofNat l.next.val)).toBytes? with
  | .ok raw => { l with next := l.next.next, pending := l.pending ++ [raw] }
  | .error _ => { l with next := l.next.next }

/-- Answers a telecommand. -/
def send (l : Loopback) (tc : Telecommand.Packed) : Outcome Loopback Unit :=
  let info := tc.info
  if answers info.service then
    let l := l.reply fun n =>
      Verification.toTelemetry l.apid n info Verification.acceptanceSuccess none
    let l := if isPing info then l.reply (pingReply l.apid) else l
    .pure (l.reply fun n =>
      Verification.toTelemetry l.apid n info Verification.completionSuccess none) ()
  else
    ⟨.ok (), l,
      [Log.debug s!"dummy interface: no replies for TC[{info.service},{info.subservice}]"]⟩

/-- Raw data are not answered. -/
def sendData (l : Loopback) (_ : Bytes) : Outcome Loopback Unit := .pure l ()

def poll (l : Loopback) : Outcome Loopback Polled :=
  drain { l with pending := [] } l.pending

def available (l : Loopback) : Outcome Loopback Bool := .pure l (!l.pending.isEmpty)

/-- Closing has no effect. -/
def close (l : Loopback) : Outcome Loopback Unit := .pure l ()

end GroundLink.Link.Loopback
