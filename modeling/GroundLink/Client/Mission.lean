import GroundLink.Report.Housekeeping

/-!
# Mission data

The identifiers that the on-board software gives to its devices, actions and parameters, as far as
the client commands them.
-/

namespace GroundLink.Client.Mission

/-! ### Objects -/

/-- The device without hardware that replies to everything. -/
def dummyDevice : UInt32 := 0x4400AFFE

/-- The first navigation receiver. -/
def receiver0 : UInt32 := 0x44101F00

/-- The second navigation receiver. -/
def receiver1 : UInt32 := 0x44202000

/-! ### Actions of the dummy device -/

/-- Leads to a completion reply. -/
def completionAction : UInt32 := 666

/-- Leads to a data reply. -/
def dataAction : UInt32 := 0xC0C0BABE

def dataActionParameters : List Bytes :=
  [[0xBA, 0xB0], [0x00, 0x00, 0x00, 0x52, 0x4F, 0x42, 0x49, 0x4E]]

/-- Leads to a step reply and a completion reply. -/
def stepAction : UInt32 := 0xBADEAFFE

/-! ### Other identifiers -/

def testParameters : List UInt32 :=
  [0x01010102, 0x02020204, 0x03030306, 0x04040408, 0x05050510]

/-- The events by which the dummy device reports a change of its mode. -/
def modeEvents : List UInt16 := [7400, 7401]

/-- The modes of a device. -/
inductive DeviceMode where
  | off
  | on
  | normal
  | raw
  deriving DecidableEq, Repr

/-- The number of a mode. -/
def DeviceMode.code : DeviceMode → UInt32
  | .off => 0
  | .on => 1
  | .normal => 2
  | .raw => 3

end GroundLink.Client.Mission
