import GroundLink.Bytes
import GroundLink.Packet.Error

/-!
# Primary header

The six octets that every space packet starts with:

| version | type | secondary header | application | sequence flags | sequence count | length |
|---------|------|------------------|-------------|----------------|----------------|--------|
| 3 bits  | 1    | 1                | 11          | 2              | 14             | 16     |

The version is always written as zero and ignored when read.  The length field counts the octets
after the header, less one.
-/

namespace GroundLink.Packet

/-! ### Fields -/

/-- The direction of a packet. -/
inductive Kind where
  | telemetry
  | telecommand
  deriving DecidableEq, Repr, Inhabited

/-- The type bit. -/
def Kind.code : Kind → Nat
  | .telemetry => 0
  | .telecommand => 1

def Kind.ofCode? : Nat → Option Kind
  | 0 => some .telemetry
  | 1 => some .telecommand
  | _ => none

/-- The place of a packet in a segmented message. -/
inductive Segment where
  | continuation
  | first
  | last
  | unsegmented
  deriving DecidableEq, Repr, Inhabited

/-- The two sequence flags. -/
def Segment.code : Segment → Nat
  | .continuation => 0
  | .first => 1
  | .last => 2
  | .unsegmented => 3

/-- The segment with a given number. -/
def Segment.ofCode? : Nat → Option Segment
  | 0 => some .continuation
  | 1 => some .first
  | 2 => some .last
  | 3 => some .unsegmented
  | _ => none

/-- An application process identifier: eleven bits. -/
abbrev Apid := Fin 2048

/-- A sequence count: fourteen bits. -/
abbrev SequenceCount := Fin 16384

/-- The acknowledgement flags of a telecommand: four bits. -/
abbrev AckFlags := Fin 16

/-- The identifier in the low eleven bits of a word. -/
def Apid.ofWord (w : UInt16) : Apid := Fin.ofNat 2048 w.toNat

/-- The count in the low fourteen bits of a word. -/
def SequenceCount.ofWord (w : UInt16) : SequenceCount := Fin.ofNat 16384 w.toNat

def SequenceCount.start : SequenceCount := 0

/-- The count after another.  The greatest one is followed by the first one. -/
def SequenceCount.next (n : SequenceCount) : SequenceCount := n + 1

/-- The flags in the low four bits of an octet. -/
def AckFlags.ofOctet (x : UInt8) : AckFlags := Fin.ofNat 16 x.toNat

def AckFlags.none : AckFlags := 0

/-! ### The header -/

/-- A primary header. -/
structure Header where
  kind : Kind
  hasSecondary : Bool
  apid : Apid
  segment : Segment
  sequence : SequenceCount
  length : UInt16
  deriving DecidableEq, Repr, Inhabited

namespace Header

def size : Nat := 6

/-- The header of a packet that could not be read. -/
def zero : Header :=
  ⟨.telemetry, false, 0, .continuation, 0, 0⟩

/-- The header of a packet that stands alone and carries a secondary header.  Identifier and count
are cut to the widths of their fields. -/
def alone (kind : Kind) (apid sequence length : UInt16) : Header :=
  ⟨kind, true, Apid.ofWord apid, .unsegmented, SequenceCount.ofWord sequence, length⟩

/-- The first word of the header with a zero version: type, secondary header flag, application. -/
def packetId (h : Header) : UInt16 :=
  UInt16.ofNat (h.kind.code * 4096 + h.hasSecondary.toNat * 2048 + h.apid.val)

/-- The second word of the header: sequence flags and count. -/
def sequenceControl (h : Header) : UInt16 :=
  UInt16.ofNat (h.segment.code * 16384 + h.sequence.val)

/-- Octets of the whole packet, header included. -/
def packetSize (h : Header) : Nat :=
  h.length.toNat + size + 1

/-! ### Wire format -/

def toBytes (h : Header) : Bytes :=
  Bytes.ofWord16 h.packetId ++ Bytes.ofWord16 h.sequenceControl ++ Bytes.ofWord16 h.length

/-- The header with given words. -/
def ofWords (id control length : UInt16) : Header where
  kind := if id.toNat / 4096 % 2 = 1 then .telecommand else .telemetry
  hasSecondary := id.toNat / 2048 % 2 = 1
  apid := Apid.ofWord id
  segment := (Segment.ofCode? (control.toNat / 16384)).getD .unsegmented
  sequence := SequenceCount.ofWord control
  length := length

/-- Reads the first six octets. -/
def ofBytes? : Bytes → Except Error Header
  | i1 :: i0 :: s1 :: s0 :: l1 :: l0 :: _ =>
    .ok (ofWords (Bytes.word16 i1 i0) (Bytes.word16 s1 s0) (Bytes.word16 l1 l0))
  | short => .error (.tooShort size short.length)

/-- Writes the header over the first six octets of a buffer and leaves the others alone. -/
def writeTo (h : Header) (buffer : Bytes) : Except Error Bytes :=
  if buffer.length < size then .error (.tooShort size buffer.length)
  else .ok (((buffer.overwrite 0 (Bytes.ofWord16 h.packetId)).overwrite 2
    (Bytes.ofWord16 h.sequenceControl)).overwrite 4 (Bytes.ofWord16 h.length))

/-! ### Looking ahead -/

/-- The size of the packet that a buffer starts with, from its length field alone. -/
def peekSize? : Bytes → Option Nat
  | _ :: _ :: _ :: _ :: l1 :: l0 :: _ => some ((Bytes.word16 l1 l0).toNat + size + 1)
  | _ => none

/-- The first word of the packet that a buffer starts with, version bits included. -/
def peekId? : Bytes → Option UInt16
  | i1 :: i0 :: _ => some (Bytes.word16 i1 i0)
  | _ => none

end Header

end GroundLink.Packet
