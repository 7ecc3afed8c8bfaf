import GroundLink.Bytes
import GroundLink.Packet.Error

/-!
# Packet checksum

The CRC that ends every packet: polynomial `x^16 + x^12 + x^5 + 1`, register preset to ones, most
significant bit first, and no final inversion.  The register is advanced one bit at a time, which
makes it visibly linear in exclusive or.

A packet that carries its checksum leaves the register at zero, which is how packets are checked.
-/

namespace GroundLink.Checksum

/-! ### The register -/

/-- Advances the register by one bit: it moves up by one place, and a one that falls out is fed
back through the polynomial. -/
def advance (r : UInt16) : UInt16 :=
  if r &&& 0x8000 = 0 then r <<< 1 else (r <<< 1) ^^^ 0x1021

def feed (r : UInt16) (b : UInt8) : UInt16 :=
  let r := r ^^^ (b.toUInt16 <<< 8)
  advance (advance (advance (advance (advance (advance (advance (advance r)))))))

/-- The register after a byte string, starting from any contents. -/
def run (r : UInt16) (bs : Bytes) : UInt16 :=
  bs.foldl feed r

/-- The register before the first octet. -/
def start : UInt16 := 0xFFFF

end Checksum

def checksum (bs : Bytes) : UInt16 :=
  Checksum.run Checksum.start bs

namespace Checksum

/-! ### Packets with a checksum -/

/-- Octets of the checksum field. -/
def size : Nat := 2

/-- Whether a packet including its checksum field leaves the register at zero. -/
def isClean (packet : Bytes) : Bool :=
  checksum packet = 0

/-- Appends the checksum to the octets that it covers. -/
def close (covered : Bytes) : Bytes :=
  covered ++ Bytes.ofWord16 (checksum covered)

/-- Overwrites the last two octets by the checksum of those before them, and returns the checksum
too. -/
def stamp (packet : Bytes) : Except Packet.Error (UInt16 × Bytes) :=
  if packet.length < size then .error (.tooShort size packet.length)
  else
    let covered := packet.take (packet.length - size)
    .ok (checksum covered, close covered)

end GroundLink.Checksum
