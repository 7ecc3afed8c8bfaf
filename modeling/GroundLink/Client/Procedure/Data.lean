import GroundLink.Client.Mission
import GroundLink.Time.Calendar

/-!
# Application data of telecommands

The layouts of the data of the telecommands in procedures.
-/

namespace GroundLink.Client.Procedure

/-- A command to put an object into a mode. -/
def modeData (object mode : UInt32) (submode : UInt8) : Bytes :=
  Bytes.ofWord32 object ++ Bytes.ofWord32 mode ++ [submode]

/-- A command to switch the wiretapping of a device. -/
def wiretappingData (object : UInt32) (mode : UInt8) : Bytes :=
  Bytes.ofWord32 object ++ [mode]

/-- A command for an object to act, with the parameters of the action. -/
def actionData (object action : UInt32) (parameters : List Bytes) : Bytes :=
  Bytes.ofWord32 object ++ Bytes.ofWord32 action ++ parameters.flatten

/-- A request to dump a parameter of an object. -/
def dumpData (object parameter : UInt32) : Bytes :=
  Bytes.ofWord32 object ++ Bytes.ofWord32 parameter

/-- A command to load a value into a parameter of an object. -/
def loadData (object parameter : UInt32) (value : Bytes) : Bytes :=
  dumpData object parameter ++ value

/-- The definition of a housekeeping structure.  The interval is given by the bits of its seconds,
and the number of parameters is written modulo 256. -/
def definitionData (sid interval : UInt32) (parameters : List UInt32) : Bytes :=
  Bytes.ofWord32 sid ++ Bytes.ofWord32 interval ++ [UInt8.ofNat parameters.length] ++
    parameters.flatMap Bytes.ofWord32

/-- A time code in text, ended by a zero. -/
def timeData (code : String) : Bytes :=
  code.toUTF8.toList ++ [0]

end GroundLink.Client.Procedure
