import GroundLink.Link.Loopback
import GroundLink.Link.Recorder
import GroundLink.Link.Serial
import GroundLink.Link.Udp

/-!
# Links

A link of any kind, and its operations.
-/

namespace GroundLink

/-- A link to the spacecraft. -/
inductive Link where
  | loopback (l : Link.Loopback)
  | recorder (l : Link.Recorder)
  | serial (l : Link.Serial)
  | udp (l : Link.Udp)

namespace Link

/-- Sends a telecommand. -/
def send (tc : Telecommand.Packed) : Link → Outcome Link Unit
  | .loopback l => (l.send tc).lift .loopback
  | .recorder l => (l.send tc).lift .recorder
  | .serial l => (l.send tc).lift .serial
  | .udp l => (l.send tc).lift .udp

/-- Sends raw data. -/
def sendData (data : Bytes) : Link → Outcome Link Unit
  | .loopback l => (l.sendData data).lift .loopback
  | .recorder l => (l.sendData data).lift .recorder
  | .serial l => (l.sendData data).lift .serial
  | .udp l => (l.sendData data).lift .udp

/-- Takes the telemetry that is available. -/
def poll : Link → Outcome Link Polled
  | .loopback l => l.poll.lift .loopback
  | .recorder l => l.poll.lift .recorder
  | .serial l => l.poll.lift .serial
  | .udp l => l.poll.lift .udp

/-- Whether telemetry is available. -/
def available : Link → Outcome Link Bool
  | .loopback l => l.available.lift .loopback
  | .recorder l => l.available.lift .recorder
  | .serial l => l.available.lift .serial
  | .udp l => l.available.lift .udp

/-- Closes the link. -/
def close : Link → Outcome Link Unit
  | .loopback l => l.close.lift .loopback
  | .recorder l => l.close.lift .recorder
  | .serial l => l.close.lift .serial
  | .udp l => l.close.lift .udp

def recorder? : Link → Option Recorder
  | .recorder l => some l
  | _ => none

/-- Changes a recording link and leaves other links alone. -/
def mapRecorder (f : Recorder → Recorder) : Link → Link
  | .recorder l => .recorder (f l)
  | other => other

end Link

end GroundLink
