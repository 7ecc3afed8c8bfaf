import GroundLink.Packet.Secondary

/-!
# Telemetry

Telemetry as the remote side creates it: used by the loopback links and wherever replies of the
spacecraft are made up.
-/

namespace GroundLink

/-- The fields of a telemetry packet to be encoded. -/
structure Telemetry where
  apid : UInt16
  service : UInt8
  subservice : UInt8
  sequence : UInt16
  subcounter : UInt8 := 0
  time : Cds := ⟨0, 0⟩
  data : Bytes
  deriving DecidableEq, Repr

namespace Telemetry

open Packet

/-- Octets of application data that fit into one telemetry packet. -/
def maxData : Nat := Kind.telemetry.maxData

def size (t : Telemetry) : Nat :=
  Header.size + Kind.telemetry.secondarySize + t.data.length + Checksum.size

def header (t : Telemetry) : Header :=
  Header.alone .telemetry t.apid t.sequence
    (UInt16.ofNat (Kind.telemetry.secondarySize + t.data.length + Checksum.size - 1))

def secondary (t : Telemetry) : Bytes :=
  [UInt8.ofNat (Version.pusA.code * 16), t.service, t.subservice, t.subcounter] ++ t.time.toBytes

def covered (t : Telemetry) : Bytes :=
  t.header.toBytes ++ t.secondary ++ t.data

/-- The packet.  Data that does not fit into it is refused. -/
def toBytes? (t : Telemetry) : Except Error Bytes :=
  if t.data.length ≤ maxData then .ok (Checksum.close t.covered)
  else .error (.appDataTooLarge t.data.length)

end Telemetry

end GroundLink
