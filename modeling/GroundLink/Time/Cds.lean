import GroundLink.Bytes
import GroundLink.Time.Calendar

/-!
# Day segmented timestamps

Telemetry carries the time as a CDS short time code: one octet that identifies the format, 16 bits
of days since 1958-01-01 and 32 bits of milliseconds of the day.

* `Cds.ofUnixMs?` and `Cds.unixMs` convert from and to milliseconds since 1970.
* `Cds.toBytes` and `Cds.ofBytes?` are the seven octets on the wire.
-/

namespace GroundLink

/-- A CDS short timestamp.  The milliseconds may exceed a day: the field is 32 bits wide and the
receiver keeps what was sent. -/
structure Cds where
  days : UInt16
  msOfDay : UInt32
  deriving DecidableEq, Repr, Inhabited

namespace Cds

/-- Why a timestamp is refused. -/
inductive Error where
  /-- The format octet is not that of a CDS time code. -/
  | invalidFormat (octet : UInt8)
  /-- Fewer octets than a timestamp has. -/
  | tooShort (expected found : Nat)
  /-- The date does not fit into the day field. -/
  | dateOutOfRange
  deriving DecidableEq, Repr

/-- The text of a refusal. -/
def Error.message : Error → String
  | .invalidFormat octet =>
    "invalid P-field " ++ Text.hex 2 octet.toNat ++ ", expected CDS short"
  | .tooShort expected found =>
    s!"byte conversion error, expected {expected} bytes, found {found}"
  | .dateOutOfRange => "time is before the CCSDS epoch or too far in the future"

def size : Nat := 7

def msPerDay : Nat := 86400000

/-! ### Unix time -/

/-- The timestamp of a number of milliseconds since 1970, if its day fits into 16 bits. -/
def ofUnixMs? (ms : UInt64) : Except Error Cds :=
  let days := ms.toNat / msPerDay + Calendar.epochDays
  if days < 65536 then .ok ⟨UInt16.ofNat days, UInt32.ofNat (ms.toNat % msPerDay)⟩
  else .error .dateOutOfRange

/-- Milliseconds since 1970, negative for earlier times. -/
def unixMs (t : Cds) : Int :=
  ((t.days.toNat : Int) - (Calendar.epochDays : Int)) * (msPerDay : Int) + (t.msOfDay.toNat : Int)

/-- Seconds since 1970 with a resolution of one millisecond. -/
def unixSeconds (t : Cds) : Float :=
  Float.ofInt t.unixMs / 1000.0

/-! ### Wire format -/

/-- The format octet, the days and the milliseconds, big-endian. -/
def toBytes (t : Cds) : Bytes :=
  0x40 :: (Bytes.ofWord16 t.days ++ Bytes.ofWord32 t.msOfDay)

/-- Reads the first seven octets.  The upper half of the first one must identify a CDS time code,
its lower half is not looked at. -/
def ofBytes? : Bytes → Except Error Cds
  | p :: d1 :: d0 :: m3 :: m2 :: m1 :: m0 :: _ =>
    if p.toNat / 16 = 4 then .ok ⟨Bytes.word16 d1 d0, Bytes.word32 m3 m2 m1 m0⟩
    else .error (.invalidFormat p)
  | short => .error (.tooShort size short.length)

/-! ### Display -/

/-- Date and time of day with three decimals. -/
def render (t : Cds) : String :=
  let date := Calendar.dateOfDays (t.unixMs / (msPerDay : Int))
  let ofDay := (t.unixMs % (msPerDay : Int)).toNat
  date.render ++ " " ++ Calendar.clockText (ofDay / 1000) 0 ++ "." ++ Text.decimal 3 (ofDay % 1000)

end Cds

end GroundLink
