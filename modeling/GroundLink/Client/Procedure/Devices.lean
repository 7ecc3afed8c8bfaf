import GroundLink.Client.Procedure.Services

/-!
# Procedures of devices

Procedures for the dummy device and the navigation receivers, and one that provokes many events and
replies.
-/

namespace GroundLink.Client.Procedure

open Mission

/-- The procedure of the dummy device. -/
def dummy : Procedure :=
  .print "Testing Dummy Device" ::
    setMode "Testing Service Dummy: Set On" 1 dummyDevice .on ++
    .print "Testing Service Dummy: Service 2" :: deviceAccessBody ++
    .print "Testing Service Dummy: Service 8" :: actionBody ++
    [.export "tmtc_log_service_dummy.txt"]

/-- A lot of events and a lot of pings. -/
def provocation : Procedure :=
  [.telecommand 17 129 2010 [], .telecommand 17 130 2020 []]

/-! ### Navigation receivers -/

def receiverName (object : UInt32) : String :=
  if object = receiver0 then "GPS0"
  else if object = receiver1 then "GPS1"
  else "unknown"

/-- The housekeeping structure of a navigation receiver, and the sequence count of the telecommand
that enables it. -/
def receiverStructure? (object : UInt32) : Option (UInt32 × UInt16) :=
  if object = receiver0 then some (Housekeeping.navigation0, 13)
  else if object = receiver1 then some (Housekeeping.navigation1, 14)
  else none

/-- Enables the reports of a navigation receiver, if it is known. -/
def enableReports (object : UInt32) : Procedure :=
  match receiverStructure? object with
  | some (sid, sequence) =>
    announced ("Testing " ++ receiverName object ++ ": Enable HK Reporting") .housekeeping 5
      sequence (Bytes.ofWord32 sid)
  | none => []

/-- The procedure of a navigation receiver.  The wait lets it start and send a few reports. -/
def receiver (object : UInt32) : Procedure :=
  let name := receiverName object
  let sid := ((receiverStructure? object).map (·.1)).getD 0
  .print ("Testing " ++ name ++ " Device") ::
    setMode ("Testing " ++ name ++ ": Set Off") 11 object .off ++
    setMode ("Testing " ++ name ++ ": Set On") 12 object .on ++
    enableReports object ++
    [.waitSecs 5] ++
    announced ("Testing Service 3: Disable " ++ name ++ " definition") .housekeeping 6 15
      (Bytes.ofWord32 sid) ++
    setMode ("Testing " ++ name ++ ": Set Off") 13 object .off ++
    [.export ("tmtc_log_service_" ++ name ++ ".txt")]

end GroundLink.Client.Procedure
