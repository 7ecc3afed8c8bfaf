/-!
# Listener modes and requests

The mode of the listener says how replies are collected.  Other parts of the program steer the
listener by requests, which it handles in the order in which they were made.
-/

namespace GroundLink

/-- How the listener collects replies. -/
inductive Listener.Mode where
  /-- Only poll and keep telemetry. -/
  | listener
  | singleCommand
  | serviceTest
  | softwareTest
  | unitTest
  deriving DecidableEq, Repr, Inhabited

/-- A request to the listener. -/
inductive Listener.Request where
  /-- Run the operation of a mode until it is finished. -/
  | changeMode (mode : Listener.Mode)
  /-- Finish the operation that is running. -/
  | finishOperation
  | setActive (active : Bool)
  | shutDown
  deriving DecidableEq, Repr

namespace Listener.Mode

/-- The number of a mode. -/
def code : Mode → Nat
  | .listener => 1
  | .singleCommand => 2
  | .serviceTest => 3
  | .softwareTest => 4
  | .unitTest => 5

/-- The mode with a given number. -/
def ofCode? : Nat → Option Mode
  | 1 => some .listener
  | 2 => some .singleCommand
  | 3 => some .serviceTest
  | 4 => some .softwareTest
  | 5 => some .unitTest
  | _ => none

/-- The name of a mode in the log. -/
def label : Mode → String
  | .listener => "Listener"
  | .singleCommand => "SingleCommand"
  | .serviceTest => "ServiceTest"
  | .softwareTest => "SoftwareTest"
  | .unitTest => "UnitTest"

end Listener.Mode

end GroundLink
