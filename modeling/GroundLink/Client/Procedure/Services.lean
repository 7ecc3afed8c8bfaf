import GroundLink.Client.Procedure.Basic
import GroundLink.Log

/-!
# Procedures of the services

One procedure for each service of the on-board software.  A procedure starts with a title and ends
by writing its output to a file.  Procedures that others contain have a body without these.
-/

namespace GroundLink.Client.Procedure

open Mission

/-- A body with a title, and with its output written to a file. -/
def titled (title file : String) (body : Procedure) : Procedure :=
  .print title :: (body ++ [.export file])

/-! ### Device access -/

/-- Raw commands need a device in raw mode.  With wiretapping on, the device repeats them and their
replies. -/
def deviceAccessBody : Procedure :=
  let raw := Bytes.ofWord32 dummyDevice ++ Bytes.ofWord32 completionAction
  setMode "Testing Service 2: Setting Raw Mode" 2020 dummyDevice .raw ++
    announced "Testing Service 2: Toggling Wiretapping Raw" .deviceAccess 129 200
      (wiretappingData dummyDevice 1) ++
    announced "Testing Service 2: Sending Raw Command" .deviceAccess 128 201 raw ++
    announced "Testing Service 2: Toggle Wiretapping Off" .deviceAccess 129 204
      (wiretappingData dummyDevice 0) ++
    announced "Testing Service 2: Send second raw command" .deviceAccess 128 205 raw ++
    setMode "Testing Service 2: Setting Off Mode" 2020 dummyDevice .off

def deviceAccess : Procedure :=
  titled "Testing Service 2" "tmtc_log_service2.txt" deviceAccessBody

/-! ### Housekeeping -/

/-- The bits of three seconds. -/
def threeSeconds : UInt32 := 0x40400000

/-- The bits of the number nearest to 0.8 seconds. -/
def fourFifthsOfSecond : UInt32 := 0x3F4CCCCD

/-- Announces a telecommand of the housekeeping service about a structure. -/
def aboutStructure (text : String) (subservice : UInt8) (sequence : UInt16) (sid : UInt32) :
    Procedure :=
  announced ("Testing Service 3: " ++ text) .housekeeping subservice sequence (Bytes.ofWord32 sid)

/-- Structures that are there from the start.  The wait lets at least two packets arrive. -/
def predefinedStructures : Procedure :=
  let receiver := Housekeeping.navigation0
  let test := Housekeeping.testStructure
  aboutStructure "Enable GPS definition" 5 3000 receiver ++
    aboutStructure "Enable test definition" 5 3010 test ++
    [.waitSecs 2] ++
    aboutStructure "Disable GPS definition" 6 3020 receiver ++
    aboutStructure "Disable test definition" 6 3030 test ++
    aboutStructure "Reporting GPS definition" 9 3040 receiver ++
    aboutStructure "Reporting test definition" 9 3050 test ++
    aboutStructure "Generate one gps 0 definition" 27 3060 receiver ++
    aboutStructure "Generate test definition" 27 3070 test

/-- Structures that are defined by telecommand. -/
def definedStructures : Procedure :=
  let test := Housekeeping.testStructure
  let custom := Housekeeping.customStructure
  let housekeeping := definitionData test threeSeconds testParameters
  let diagnostics := definitionData custom fourFifthsOfSecond testParameters
  let define (text : String) := announced ("Testing Service 3: " ++ text) .housekeeping
  aboutStructure "Deleting pre-defined HK definition" 3 3100 test ++
    define "Adding pre-defined HK definition" 1 3110 housekeeping ++
    define "Adding custom diagnostics definition" 2 3120 diagnostics ++
    define "Enable custom definition" 5 3130 housekeeping ++
    define "Enable custom diagnostics definition" 7 3140 diagnostics ++
    aboutStructure "Disable custom diagnostics definition" 8 3160 custom ++
    aboutStructure "Disable custom definition" 6 3150 test ++
    aboutStructure "Reporting hk definition" 9 3170 test ++
    aboutStructure "Reporting diag definition" 11 3180 custom ++
    aboutStructure "Generate one custom hk definition" 27 3190 test ++
    aboutStructure "Generate one custom diagnostics definition" 28 3200 custom

def housekeeping : Procedure :=
  titled "Testing Service 3" "tmtc_log_service3.txt" (predefinedStructures ++ definedStructures)

/-! ### Events -/

/-- The procedure of the event service. -/
def event : Procedure :=
  titled "Testing Service 5" "tmtc_log_service5.txt" <|
    announced "Testing Service 5: Invalid subservice" .event 1 500 [] ++
    announced "Testing Service 5: Disable event" .event 6 500 [] ++
    announced "Testing Service 5: Trigger event" .test 128 510 [] ++
    announced "Testing Service 5: Enable event" .event 5 520 [] ++
    announced "Testing Service 5: Trigger another event" .test 128 530 []

/-! ### Actions -/

/-- A device only acts in normal mode. -/
def actionBody : Procedure :=
  let act (text : String) (sequence : UInt16) (action : UInt32) (parameters : List Bytes) :=
    announced ("Testing Service 8: " ++ text) .action 128 sequence
      (actionData dummyDevice action parameters)
  setMode "Testing Service 8: Set On Mode" 800 dummyDevice .on ++
    setMode "Testing Service 8: Set Normal Mode" 810 dummyDevice .normal ++
    act "Trigger Completion Reply" 820 completionAction [] ++
    act "Trigger Data Reply" 830 dataAction dataActionParameters ++
    act "Trigger Step and Completion Reply" 840 stepAction [] ++
    setMode "Testing Service 8: Set Off Mode" 800 dummyDevice .off ++
    [.waitSecs 2]

def action : Procedure :=
  titled "Testing Service 8" "tmtc_log_service8.txt" actionBody

/-! ### Time -/

/-- A time code with a date. -/
def timeCodeA : String := "2019-08-30T20:50:33.892429Z"

/-- A time code with a day of the year. -/
def timeCodeB : String := "2019-270T05:50:33.002000Z"

/-- The procedure of the time service at an instant. -/
def time (now : Calendar.Instant) : Procedure :=
  titled "Testing Service 9" "tmtc_log_service9.txt" <|
    announced "Testing Service 9: Testing timecode A" .time 128 900 (timeData timeCodeA) ++
    announced "Testing Service 9: Testing timecode B" .time 128 910 (timeData timeCodeB) ++
    announced "Testing Service 9: Testing timecode Current Time" .time 128 920
      (timeData now.render)

/-- What the procedure of the time service notes in the log. -/
def timeLog (now : Calendar.Instant) : List Log.Entry :=
  [Log.info ("Time Code 1: " ++ timeCodeA), Log.info ("Time Code 2: " ++ timeCodeB),
    Log.info ("Time Code 3: " ++ now.render)]

/-! ### Test -/

/-- The procedure of the test service. -/
def test : Procedure :=
  titled "Testing Service 17" "tmtc_log_service17.txt" <|
    announced "Testing Service 17: Ping Test" .test 1 1700 [] ++
    announced "Testing Service 17: Enable Event" .event 5 52 [] ++
    announced "Testing Service 17: Trigger event" .test 128 1701 [] ++
    announced "Testing Service 17: Invalid subservice" .test 243 1702 []

/-! ### Parameters -/

/-- A parameter is loaded and dumped. -/
def parameterBody : Procedure :=
  setMode "Testing Service 20: Set Normal Mode" 2000 dummyDevice .normal ++
    announced "Testing Service 20: Load uint32_t" .parameter 128 2001
      (loadData dummyDevice 0 (Bytes.ofWord32 42)) ++
    announced "Testing Service 20: Dump uint32_t" .parameter 129 2001 (dumpData dummyDevice 0)

def parameter : Procedure :=
  titled "Testing Service 20" "tmtc_log_service20.txt" parameterBody

/-! ### Modes -/

/-- The procedure of the mode service. -/
def mode : Procedure :=
  titled "Testing Service 200" "tmtc_log_service200.txt" <|
    setMode "Testing Service 200: Set Mode On" 2000 dummyDevice .on ++
    setMode "Testing Service 200: Set Mode Normal" 2010 dummyDevice .normal ++
    setMode "Testing Service 200: Set Mode Raw" 2020 dummyDevice .raw ++
    setMode "Testing Service 200: Set Mode Off" 2030 dummyDevice .off

end GroundLink.Client.Procedure
