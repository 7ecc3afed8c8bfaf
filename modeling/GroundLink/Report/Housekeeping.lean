import GroundLink.Bytes
import GroundLink.Number.Shortest
import GroundLink.Text.Numeral

/-!
# Housekeeping reports

A housekeeping report is about a structure of parameters.  It either defines the structure or holds
the current values of its parameters, followed by one validity bit for each of them.

The layouts of two sets of values are known by their structure identifiers.
-/

namespace GroundLink.Housekeeping

/-! ### Sets of values -/

/-- The values that the test set holds. -/
structure TestSet where
  flag : Bool
  byte : UInt8
  half : UInt16
  word : UInt32
  /-- The bits of two numbers of 32 bits. -/
  first : UInt32
  second : UInt32
  validity : Bytes
  deriving DecidableEq, Repr

/-- The values that a navigation receiver reports. -/
structure NavigationSet where
  fixMode : UInt8
  satellites : UInt8
  week : UInt16
  timeOfWeek : UInt32
  latitude : UInt32
  longitude : UInt32
  altitude : UInt32
  /-- The bits of three numbers of 64 bits. -/
  position : List UInt64
  velocity : List UInt64
  validity : Bytes
  deriving DecidableEq, Repr

/-- The values of a report. -/
inductive DataSet where
  | test (values : TestSet)
  | navigation (values : NavigationSet)
  /-- No layout is known for the structure, or its values are incomplete. -/
  | unknown
  deriving DecidableEq, Repr

/-- The layout of the values of a structure. -/
inductive Layout where
  | test
  | navigation
  deriving DecidableEq, Repr

/-- The structure of the first navigation receiver. -/
def navigation0 : UInt32 := 0x1F00

/-- The structure of the second navigation receiver. -/
def navigation1 : UInt32 := 0x2F00

/-- The structure of the test set. -/
def testStructure : UInt32 := 0x4300

/-- A structure that uses the layout of the test set. -/
def customStructure : UInt32 := 0x4400

/-- The layout that belongs to a structure. -/
def layoutOf? (sid : UInt32) : Option Layout :=
  if sid = navigation0 ∨ sid = navigation1 then some .navigation
  else if sid = testStructure ∨ sid = customStructure then some .test
  else none

/-- Reads the values of the test set. -/
def TestSet.ofBytes? (bs : Bytes) : Option TestSet := do
  let flag ← bs.byteAt? 0
  let byte ← bs.byteAt? 1
  let half ← bs.word16At? 2
  let word ← bs.word32At? 4
  let first ← bs.word32At? 8
  let second ← bs.word32At? 12
  return ⟨flag ≠ 0, byte, half, word, first, second, bs.drop 16⟩

/-- Reads the values of a navigation receiver. -/
def NavigationSet.ofBytes? (bs : Bytes) : Option NavigationSet := do
  let fixMode ← bs.byteAt? 0
  let satellites ← bs.byteAt? 1
  let week ← bs.word16At? 2
  let timeOfWeek ← bs.word32At? 4
  let latitude ← bs.word32At? 8
  let longitude ← bs.word32At? 12
  let altitude ← bs.word32At? 16
  let position ← [20, 28, 36].mapM bs.word64At?
  let velocity ← [44, 52, 60].mapM bs.word64At?
  return ⟨fixMode, satellites, week, timeOfWeek, latitude, longitude, altitude, position, velocity,
    bs.drop 68⟩

/-- Reads the values of a layout. -/
def Layout.read? (layout : Layout) (bs : Bytes) : Option DataSet :=
  match layout with
  | .test => (TestSet.ofBytes? bs).map .test
  | .navigation => (NavigationSet.ofBytes? bs).map .navigation

namespace DataSet

/-- The values of a structure.  Values that are incomplete are unknown. -/
def ofBytes (sid : UInt32) (bs : Bytes) : DataSet :=
  match layoutOf? sid with
  | some layout => (layout.read? bs).getD .unknown
  | none => .unknown

def parameterCount : DataSet → Nat
  | .test _ => 6
  | .navigation _ => 13
  | .unknown => 0

/-- The octets behind the values. -/
def validity : DataSet → Bytes
  | .test v => v.validity
  | .navigation v => v.validity
  | .unknown => []

/-- The validity of each parameter: one bit each, most significant first.  A missing bit counts as
invalid. -/
def validityFlags (d : DataSet) : List Bool :=
  (List.range d.parameterCount).map fun i =>
    match d.validity.byteAt? (i / 8) with
    | some octet => octet.toNat.testBit (7 - i % 8)
    | none => false

def columnTitles : DataSet → List String
  | .test _ => ["Bool", "UINT8", "UINT16", "UINT32", "FLOAT1", "FLOAT2"]
  | .navigation _ => ["Fix Mode", "SV in Fix", "GNSS Week", "Time of Week", "Latitude", "Longitude",
    "Mean Sea Altitude", "Position X", "Position Y", "Position Z", "Velocity X", "Velocity Y",
    "Velocity Z"]
  | .unknown => []

def columns : DataSet → List String
  | .test v => [if v.flag then "true" else "false", toString v.byte, toString v.half,
    toString v.word, Binary.single.render v.first.toNat, Binary.single.render v.second.toNat]
  | .navigation v => [toString v.fixMode, toString v.satellites, toString v.week,
    toString v.timeOfWeek, toString v.latitude, toString v.longitude, toString v.altitude] ++
    (v.position ++ v.velocity).map fun w => Binary.double.render w.toNat
  | .unknown => []

end DataSet

/-! ### Reports -/

/-- What a housekeeping report holds. -/
inductive Content where
  /-- The definition of a structure: whether it is reported, the bits of the collection interval in
  seconds, and the parameters. -/
  | definition (enabled : Bool) (interval : UInt32) (parameters : List UInt32)
  /-- The values of a structure. -/
  | values (raw : Bytes) (set : DataSet)
  | other
  deriving DecidableEq, Repr

def isDefinition (subservice : UInt8) : Bool :=
  subservice = 10 || subservice = 12

def isValues (subservice : UInt8) : Bool :=
  subservice = 25 || subservice = 26

/-- Reads a definition behind the structure identifier. -/
def readDefinition? (data : Bytes) : Option Content := do
  let flag ← data.byteAt? 4
  let interval ← data.word32At? 5
  let count ← data.byteAt? 9
  let parameters ← (List.range count.toNat).mapM fun i => data.word32At? (10 + i * 4)
  return .definition (flag = 1) interval parameters

/-- The content of a report of a structure. -/
def Content.ofData? (subservice : UInt8) (sid : UInt32) (data : Bytes) : Option Content :=
  if isDefinition subservice then readDefinition? data
  else if isValues subservice then
    some (.values (data.drop 4) (DataSet.ofBytes sid (data.drop 4)))
  else some .other

end Housekeeping

/-- A housekeeping report. -/
structure Housekeeping where
  sid : UInt32
  content : Housekeeping.Content
  deriving DecidableEq, Repr

namespace Housekeeping

/-- Reads the report in the data of a packet. -/
def ofData? (subservice : UInt8) (data : Bytes) : Option Housekeeping := do
  let sid ← data.word32At? 0
  let content ← Content.ofData? subservice sid data
  return ⟨sid, content⟩

/-- Octets of the values that a report holds. -/
def valuesSize (h : Housekeeping) : Nat :=
  match h.content with
  | .values raw _ => raw.length
  | _ => 0

/-- Whether the values of a structure with a known layout are incomplete. -/
def isIncomplete (h : Housekeeping) : Bool :=
  match h.content with
  | .values _ .unknown => (layoutOf? h.sid).isSome
  | _ => false

def columnTitles : List String := ["SID", "HK Data Size"]

def columns (h : Housekeeping) : List String :=
  [Text.hex 8 h.sid.toNat, toString h.valuesSize]

end GroundLink.Housekeeping
