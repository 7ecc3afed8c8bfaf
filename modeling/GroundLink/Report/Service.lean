/-!
# Services

The services of the packet standard that this library knows by number.
-/

namespace GroundLink

/-- A known service. -/
inductive Service where
  | verification
  | deviceAccess
  | housekeeping
  | event
  | action
  | time
  | test
  | parameter
  | mode
  deriving DecidableEq, Repr

namespace Service

/-- The number of a service. -/
def code : Service → UInt8
  | .verification => 1
  | .deviceAccess => 2
  | .housekeeping => 3
  | .event => 5
  | .action => 8
  | .time => 9
  | .test => 17
  | .parameter => 20
  | .mode => 200

/-- The service with a given number. -/
def ofCode? (n : Nat) : Option Service :=
  match n with
  | 1 => some .verification
  | 2 => some .deviceAccess
  | 3 => some .housekeeping
  | 5 => some .event
  | 8 => some .action
  | 9 => some .time
  | 17 => some .test
  | 20 => some .parameter
  | 200 => some .mode
  | _ => none

end Service

end GroundLink
