import GroundLink.Link.Error
import GroundLink.Telecommand

/-!
# Datagram link

Every telecommand is sent as one datagram, and every datagram that arrives holds one packet.  A
datagram is cut to the size of the receive buffer.

The socket is modelled by what its receptions yield (`Udp.Receipt`): each one takes the first, and
a socket without any has received nothing.
-/

namespace GroundLink.Link

/-- What a reception meets. -/
inductive Udp.Receipt where
  | datagram (data : Bytes)
  /-- Nothing arrived in time. -/
  | nothing
  | failed (cause : Error)
  deriving DecidableEq, Repr

/-- A datagram link. -/
structure Udp where
  incoming : List Udp.Receipt
  /-- Datagrams on their way to the other side. -/
  outgoing : List Bytes
  /-- Whether the network has a route to the other side. -/
  isReachable : Bool
  isClosed : Bool
  deriving DecidableEq, Repr

namespace Udp

def bufferSize : Nat := 1024

/-- A link on which nothing happened yet. -/
def make (isReachable : Bool) : Udp := ⟨[], [], isReachable, false⟩

/-- A datagram as it is received. -/
def cut (data : Bytes) : Bytes := data.take bufferSize

/-- Takes everything that has already arrived: the packets, their log and what is left. -/
def drainSocket : List Receipt → Except Error (List Bytes) × List Log.Entry × List Receipt
  | [] => (.ok [], [], [])
  | .nothing :: rest => (.ok [], [], rest)
  | .failed cause :: rest => (.error cause, [], rest)
  | .datagram data :: rest =>
    let (others, log, rest) := drainSocket rest
    (others.map (cut data :: ·), Packet.decodeLog (cut data) ++ log, rest)

/-! ### Operations -/

/-- Sends data as one datagram. -/
def sendData (l : Udp) (data : Bytes) : Outcome Udp Unit :=
  if l.isClosed then .fail l .closed
  else if l.isReachable then .pure { l with outgoing := l.outgoing ++ [data] } ()
  else .fail l unreachable

def send (l : Udp) (tc : Telecommand.Packed) : Outcome Udp Unit := l.sendData tc.raw

/-- Waits for a datagram and takes everything else that has arrived by then. -/
def poll (l : Udp) : Outcome Udp Polled :=
  if l.isClosed then .fail l .closed
  else
    let (received, log, incoming) := drainSocket l.incoming
    let l := { l with incoming }
    match received with
    | .error cause => ⟨.error cause, l, log⟩
    | .ok raws => ⟨.ok (!raws.isEmpty, Packet.decodeAll raws), l, log⟩

/-- Looks whether a datagram has arrived. -/
def available (l : Udp) : Outcome Udp Bool :=
  if l.isClosed then .fail l .closed
  else
    match l.incoming with
    | [] => .pure l false
    | .datagram _ :: _ => .pure l true
    | .nothing :: rest => .pure { l with incoming := rest } false
    | .failed cause :: rest => .fail { l with incoming := rest } cause

/-- The link cannot be used any more. -/
def close (l : Udp) : Outcome Udp Unit := .pure { l with isClosed := true } ()

end GroundLink.Link.Udp
