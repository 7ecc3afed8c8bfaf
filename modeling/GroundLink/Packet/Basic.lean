import GroundLink.Log
import GroundLink.Packet.Secondary

/-!
# Received packets

The decoder reads both directions: the type bit decides whether a timestamp follows the four octets
that both secondary headers share.

* `Packet.decode` is strict about structure.  A wrong checksum does not make it fail: the packet is
  kept and marked as invalid.
* `Packet.decodeLenient` never fails.  What cannot be read becomes a zeroed invalid packet that
  retains its octets.
* `Packet.decodeLog` is what the lenient decoder writes to the log.
-/

namespace GroundLink

open Packet in
/-- A decoded packet. -/
structure Packet where
  header : Header
  /-- The three version bits of the secondary header. -/
  version : Fin 8
  /-- The low half of the first octet of the secondary header: acknowledgement flags of a
  telecommand, spare bits of telemetry. -/
  ack : AckFlags
  service : UInt8
  subservice : UInt8
  subcounter : UInt8
  /-- The timestamp of telemetry, if it is of a known format. -/
  time : Option Cds
  data : Bytes
  crc : UInt16
  valid : Bool
  raw : Bytes
  deriving DecidableEq, Repr, Inhabited

namespace Packet

/-- The packets of one poll. -/
abbrev Batch := List Packet

def size (p : Packet) : Nat := p.raw.length

/-! ### Strict decoding -/

/-- The timestamp field of a packet, which only telemetry has. -/
def timeField (kind : Kind) (raw : Bytes) : Option (Except Cds.Error Cds) :=
  match kind with
  | .telemetry => some (Cds.ofBytes? (raw.drop (Header.size + sharedSize)))
  | .telecommand => none

/-- The packet in a string of exactly the declared size, which holds both headers and the
checksum. -/
def ofSpan (header : Header) (raw : Bytes) : Packet :=
  let first := raw.getD Header.size 0
  let secondarySize := header.kind.secondarySize
  let start := Header.size + secondarySize
  let finish := raw.length - Checksum.size
  { header
    version := Fin.ofNat 8 (first.toNat / 16)
    ack := AckFlags.ofOctet first
    service := raw.getD (Header.size + 1) 0
    subservice := raw.getD (Header.size + 2) 0
    subcounter := raw.getD (Header.size + 3) 0
    time := match timeField header.kind raw with
      | some (.ok time) => some time
      | _ => none
    data := (raw.take finish).drop start
    crc := Bytes.word16 (raw.getD finish 0) (raw.getD (finish + 1) 0)
    valid := Checksum.isClean raw
    raw }

/-- Reads the packet at the start of a buffer.  Only the declared span is looked at. -/
def decode (buffer : Bytes) : Except Error Packet := do
  let header ← Header.ofBytes? buffer
  let declared := header.packetSize
  if buffer.length < declared then throw (.tooShort declared buffer.length)
  if declared < header.kind.minSize then throw (.tooShort header.kind.minSize declared)
  return ofSpan header (buffer.take declared)

/-! ### Lenient decoding -/

/-- The invalid packet that stands for octets that could not be read. -/
def unreadable (raw : Bytes) : Packet where
  header := Header.zero
  version := 0
  ack := AckFlags.none
  service := 0
  subservice := 0
  subcounter := 0
  time := none
  data := []
  crc := 0
  valid := false
  raw := raw

/-- Reads the packet at the start of a buffer, or keeps the buffer as an invalid packet. -/
def decodeLenient (buffer : Bytes) : Packet :=
  match decode buffer with
  | .ok p => p
  | .error _ => unreadable buffer

/-- What decoding remarks on a packet that could be read. -/
def remarks (p : Packet) : List Log.Entry :=
  let time := match timeField p.header.kind p.raw with
    | some (.error cause) => [Log.warn ("PUS packet timestamp invalid: " ++ cause.message)]
    | _ => []
  let crc := if p.valid then [] else
    [Log.warn (s!"invalid CRC detected for PUS packet [{p.service},{p.subservice}] with SSC " ++
      toString p.header.sequence.val)]
  time ++ crc

def decodeLog (buffer : Bytes) : List Log.Entry :=
  match decode buffer with
  | .ok p => p.remarks
  | .error cause => [Log.error ("decoding PUS packet failed: " ++ cause.message)]

/-- Lenient decoding of the packets of one poll. -/
def decodeAll (buffers : List Bytes) : Batch :=
  buffers.map decodeLenient

def decodeAllLog (buffers : List Bytes) : List Log.Entry :=
  buffers.flatMap decodeLog

/-! ### Columns -/

def columnTitles (p : Packet) : List String :=
  ["APID", "SSC", "Service", "Subservice", "Subcounter"] ++
    (if p.time.isSome then ["Time"] else []) ++ ["Packet Size", "CRC", "Valid"]

/-- The contents of the columns, one for each title. -/
def columns (p : Packet) : List String :=
  [Text.hex 3 p.header.apid.val, toString p.header.sequence.val, toString p.service,
    toString p.subservice, toString p.subcounter] ++
    (p.time.map Cds.render).toList ++
    [toString p.size, Text.hex 4 p.crc.toNat, if p.valid then "Yes" else "No"]

end Packet

end GroundLink
