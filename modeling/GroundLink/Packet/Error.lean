import GroundLink.Time.Cds

/-!
# Packet errors

The reasons for which a packet is not encoded or not decoded.
-/

namespace GroundLink

/-- Why a packet is refused. -/
inductive Packet.Error where
  /-- A buffer ends before what it has to hold. -/
  | tooShort (expected found : Nat)
  /-- The application data exceeds what the length field can express. -/
  | appDataTooLarge (size : Nat)
  /-- The checksum does not match. -/
  | crcMismatch
  /-- The timestamp is refused. -/
  | timestamp (cause : Cds.Error)
  deriving DecidableEq, Repr

/-- The text of a refusal. -/
def Packet.Error.message : Packet.Error → String
  | .tooShort expected found =>
    s!"buffer too short, expected {expected} bytes, found {found}"
  | .appDataTooLarge size =>
    s!"application data with length {size} does not fit into one packet"
  | .crcMismatch => "CRC check failed"
  | .timestamp cause => "invalid timestamp: " ++ cause.message

end GroundLink
