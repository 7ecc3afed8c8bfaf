import GroundLink.Packet.Checksum
import GroundLink.Packet.Header

/-!
# Secondary header

Both directions share four octets behind the primary header: the version with four flag bits, the
service, the subservice and an octet that is a source for telecommands and a counter for telemetry.
Telemetry has its timestamp behind them.
-/

namespace GroundLink.Packet

/-- Octets that fit behind a primary header, because the length field has 16 bits. -/
def maxDataField : Nat := 65536

/-- The generation of the packet standard. -/
inductive Version where
  | esaPus
  | pusA
  | pusC
  deriving DecidableEq, Repr

/-- The version with a given number. -/
def Version.ofCode? : Nat → Option Version
  | 0 => some .esaPus
  | 1 => some .pusA
  | 2 => some .pusC
  | _ => none

def Version.code : Version → Nat
  | .esaPus => 0
  | .pusA => 1
  | .pusC => 2

/-- Octets of the secondary header that both directions share. -/
def sharedSize : Nat := 4

def Kind.secondarySize : Kind → Nat
  | .telemetry => sharedSize + Cds.size
  | .telecommand => sharedSize

/-- The least size of a packet: both headers and the checksum. -/
def Kind.minSize (kind : Kind) : Nat :=
  Header.size + kind.secondarySize + Checksum.size

/-- Octets of application data that fit into one packet. -/
def Kind.maxData (kind : Kind) : Nat :=
  maxDataField - kind.secondarySize - Checksum.size

end GroundLink.Packet
