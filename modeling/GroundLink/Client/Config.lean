import GroundLink.Client.Operation
import GroundLink.Link.Basic
import GroundLink.Net.Address

/-!
# Configuration of the client

Everything that the client has to know, after the command line and the configuration file were
merged: what to do, over which link, and with which settings.
-/

namespace GroundLink.Client

open Net

/-- Over which link the client works. -/
structure LinkConfig where
  kind : LinkKind := .udp
  serialPort : Option String := none
  baudRate : UInt32 := 230400
  /-- Where datagrams are received. -/
  receive : Endpoint := ⟨.v4 0 0 0 0, 2008⟩
  /-- Where datagrams are sent to. -/
  board : Endpoint := ⟨.v4 127 0 0 1, 7⟩
  deriving DecidableEq, Repr

structure Config where
  operation : Operation := {}
  link : LinkConfig := {}
  logFile : Path := ⟨"tmtc_client.log"⟩

/-- The collection window over serial links, which are slow. -/
def serialTmTimeout : Span := Span.ofSecs 6

/-! ### Opening a link -/

/-- What has to be opened for a link. -/
inductive Opening where
  /-- Nothing: the link is there. -/
  | ready (link : Link)
  | serial (device : String) (baudRate : UInt32)
  | udp (receive board : Endpoint)

/-- What has to be opened for the configured link. -/
def LinkConfig.opening (c : LinkConfig) (apid : UInt16) : Except ConfigError Opening :=
  match c.kind with
  | .dummy => .ok (.ready (.loopback (Link.Loopback.make apid)))
  | .serial =>
    match c.serialPort with
    | some device => .ok (.serial device c.baudRate)
    | none => .error .missingSerialPort
  | .udp => .ok (.udp c.receive c.board)

/-- What opening a link writes to the log. -/
def Opening.log : Opening → List Log.Entry
  | .ready _ => [Log.info "using dummy communication interface"]
  | .serial device baudRate =>
    [Log.info s!"opening serial port {device} with baud rate {baudRate}"]
  | .udp receive board =>
    [Log.info ("using UDP communication interface, receiving on " ++ receive.render ++
      ", sending to " ++ board.render)]

end GroundLink.Client
