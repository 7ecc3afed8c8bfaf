import GroundLink.Packet.Secondary

/-!
# Telecommands

A telecommand is built from its fields, is then never changed, and is turned into a packet that
ends with its checksum.  What travels through queues and senders is the packet together with a
record of its fields (`Telecommand.Packed`), so that printers and reply matching need not decode it.

* `Telecommand.toBytes` is the packet.
* `Telecommand.crc` computes the checksum from the fields, without building the packet.
-/

namespace GroundLink

open Packet

namespace Telecommand

/-- Octets of application data that fit into one telecommand. -/
def maxData : Nat := Kind.telecommand.maxData

/-- What is remembered of a sent telecommand. -/
structure Info where
  service : UInt8
  subservice : UInt8
  sequence : UInt16
  packetId : UInt16
  data : Bytes
  deriving DecidableEq, Repr, Inhabited

/-- A telecommand ready for transmission: the packet and the record of its fields. -/
structure Packed where
  raw : Bytes
  info : Info
  deriving DecidableEq, Repr, Inhabited

end Telecommand

/-- A telecommand whose application data fits into one packet. -/
structure Telecommand where
  apid : Apid
  service : UInt8
  subservice : UInt8
  sequence : SequenceCount
  ack : AckFlags
  source : UInt8
  data : Bytes
  data_fits : data.length ≤ Telecommand.maxData
  deriving DecidableEq

namespace Telecommand

/-! ### Construction -/

/-- A telecommand without acknowledgement flags and source.  Data that does not fit into one packet
is refused. -/
def make (apid : UInt16) (service subservice : UInt8) (sequence : UInt16) (data : Bytes) :
    Except Packet.Error Telecommand :=
  if fits : data.length ≤ maxData then
    .ok ⟨Apid.ofWord apid, service, subservice, SequenceCount.ofWord sequence, AckFlags.none,
      0, data, fits⟩
  else .error (.appDataTooLarge data.length)

/-- The farewell to the spacecraft: every field but the application is zero. -/
def farewell (apid : UInt16) : Telecommand :=
  ⟨Apid.ofWord apid, 0, 0, SequenceCount.start, AckFlags.none, 0, [], Nat.zero_le _⟩

/-- Sets the acknowledgement flags to the low four bits of an octet. -/
def withAck (t : Telecommand) (ack : UInt8) : Telecommand :=
  { t with ack := AckFlags.ofOctet ack }

def withSource (t : Telecommand) (source : UInt8) : Telecommand :=
  { t with source := source }

/-! ### Wire format -/

def size (t : Telecommand) : Nat :=
  Header.size + sharedSize + t.data.length + Checksum.size

/-- The primary header. -/
def header (t : Telecommand) : Header where
  kind := .telecommand
  hasSecondary := true
  apid := t.apid
  segment := .unsegmented
  sequence := t.sequence
  length := UInt16.ofNat (sharedSize + t.data.length + Checksum.size - 1)

/-- The secondary header: version and acknowledgement flags share the first octet. -/
def secondary (t : Telecommand) : Bytes :=
  [UInt8.ofNat (Version.pusA.code * 16 + t.ack.val), t.service, t.subservice, t.source]

/-- The packet up to its checksum. -/
def covered (t : Telecommand) : Bytes :=
  t.header.toBytes ++ t.secondary ++ t.data

def toBytes (t : Telecommand) : Bytes :=
  Checksum.close t.covered

/-- The checksum, fed field by field. -/
def crc (t : Telecommand) : UInt16 :=
  let r := Checksum.run Checksum.start (Bytes.ofWord16 t.header.packetId)
  let r := Checksum.run r (Bytes.ofWord16 t.header.sequenceControl)
  let r := Checksum.run r (Bytes.ofWord16 t.header.length)
  let r := Checksum.run r t.secondary
  Checksum.run r t.data

/-- Writes the packet over the start of a buffer and leaves the rest alone.  Returns the number of
octets written and the buffer. -/
def writeTo (t : Telecommand) (buffer : Bytes) : Except Packet.Error (Nat × Bytes) :=
  if buffer.length < t.size then .error (.tooShort t.size buffer.length)
  else do
    let packet ← t.header.writeTo (buffer.take t.size)
    let packet := packet.overwrite Header.size t.secondary
    let packet := packet.overwrite (Header.size + sharedSize) t.data
    let (_, packet) ← Checksum.stamp packet
    return (t.size, packet ++ buffer.drop t.size)

/-! ### Bookkeeping -/

/-- The record of the fields. -/
def info (t : Telecommand) : Info where
  service := t.service
  subservice := t.subservice
  sequence := UInt16.ofNat t.sequence.val
  packetId := t.header.packetId
  data := t.data

def pack (t : Telecommand) : Packed :=
  ⟨t.toBytes, t.info⟩

end Telecommand

end GroundLink
