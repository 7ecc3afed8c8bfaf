import GroundLink.Report.Service
import GroundLink.Telecommand
import GroundLink.Telemetry

/-!
# Verification reports

A telecommand is verified in four stages: acceptance, start, steps and completion.  Each stage is
reported as a success by an odd subservice or as a failure by the even one after it.  A report
repeats the packet identification and the sequence count of its telecommand.

* `Verification.ofData?` reads a report, `Verification.toTelemetry` creates one.
-/

namespace GroundLink

/-- What a failure report says about the failure. -/
structure Verification.Failure where
  code : UInt16
  first : UInt32
  second : UInt32
  deriving DecidableEq, Repr, Inhabited

/-- The stage of a report and how it went. -/
inductive Verification.Outcome where
  | acceptanceSuccess
  | acceptanceFailure (failure : Verification.Failure)
  | startSuccess
  | startFailure (failure : Verification.Failure)
  | stepSuccess (step : UInt8)
  | stepFailure (step : UInt8) (failure : Verification.Failure)
  | completionSuccess
  | completionFailure (failure : Verification.Failure)
  deriving DecidableEq, Repr

/-- A verification report. -/
structure Verification where
  packetId : UInt16
  sequence : UInt16
  outcome : Verification.Outcome
  deriving DecidableEq, Repr

namespace Verification

open Packet

/-! ### Subservices -/

/-- The subservice of a successful acceptance. -/
def acceptanceSuccess : UInt8 := 1

/-- The subservice of a successful completion. -/
def completionSuccess : UInt8 := 7

/-- The subservices of verification reports. -/
def isSubservice (n : UInt8) : Bool :=
  1 ≤ n && n ≤ 8

/-! ### Outcomes -/

/-- The failure that an outcome reports. -/
def Outcome.failure? : Outcome → Option Failure
  | .acceptanceFailure f => some f
  | .startFailure f => some f
  | .stepFailure _ f => some f
  | .completionFailure f => some f
  | _ => none

def Outcome.isFailure (o : Outcome) : Bool :=
  o.failure?.isSome

def Outcome.step? : Outcome → Option UInt8
  | .stepSuccess n => some n
  | .stepFailure n _ => some n
  | _ => none

/-- An outcome in words. -/
def Outcome.describe : Outcome → String
  | .acceptanceSuccess => "Success Verification : Acceptance success"
  | .acceptanceFailure _ => "Failure Verification : Acceptance failure"
  | .startSuccess => "Success Verification : Start success"
  | .startFailure _ => "Failure Verification : Start failure"
  | .stepSuccess _ => "Success Verification : Step success"
  | .stepFailure _ _ => "Failure Verification : Step failure"
  | .completionSuccess => "Success Verification : Completion success"
  | .completionFailure _ => "Failure Verification : Completion failure"

/-! ### Reading -/

/-- The failure data at an offset. -/
def Failure.at? (data : Bytes) (i : Nat) : Option Failure := do
  let code ← data.word16At? i
  let first ← data.word32At? (i + 2)
  let second ← data.word32At? (i + 6)
  return ⟨code, first, second⟩

/-- The outcome that the data of a subservice report behind the first four octets. -/
def Outcome.ofData? (subservice : UInt8) (data : Bytes) : Option Outcome :=
  match subservice with
  | 1 => some .acceptanceSuccess
  | 2 => (Failure.at? data 4).map .acceptanceFailure
  | 3 => some .startSuccess
  | 4 => (Failure.at? data 4).map .startFailure
  | 5 => (data.byteAt? 4).map .stepSuccess
  | 6 => do
    let step ← data.byteAt? 4
    let failure ← Failure.at? data 5
    return .stepFailure step failure
  | 7 => some .completionSuccess
  | 8 => (Failure.at? data 4).map .completionFailure
  | _ => none

/-- Reads the report in the data of a packet. -/
def ofData? (subservice : UInt8) (data : Bytes) : Option Verification := do
  let packetId ← data.word16At? 0
  let control ← data.word16At? 2
  let outcome ← Outcome.ofData? subservice data
  return ⟨packetId, UInt16.ofNat (SequenceCount.ofWord control).val, outcome⟩

/-! ### Creating -/

def Failure.toBytes (f : Failure) : Bytes :=
  Bytes.ofWord16 f.code ++ Bytes.ofWord32 f.first ++ Bytes.ofWord32 f.second

/-- The second header word of an unsegmented telecommand with a given sequence count. -/
def sequenceControl (sequence : UInt16) : UInt16 :=
  UInt16.ofNat (Segment.unsegmented.code * 16384 + (SequenceCount.ofWord sequence).val)

/-- The report of a subservice on a telecommand.  Failure data is written whenever it is given. -/
def toTelemetry (apid sequence : UInt16) (info : Telecommand.Info) (subservice : UInt8)
    (failure : Option Failure) : Telemetry where
  apid := apid
  service := Service.verification.code
  subservice := subservice
  sequence := sequence
  data := Bytes.ofWord16 info.packetId ++ Bytes.ofWord16 (sequenceControl info.sequence) ++
    (match failure with
     | some f => f.toBytes
     | none => [])

/-! ### Columns -/

def columnTitles (v : Verification) : List String :=
  ["TC Packet ID", "TC SSC"] ++
    (if v.outcome.step?.isSome then ["Step Number"] else []) ++
    (if v.outcome.isFailure then ["Return Value", "Error Param 1", "Error Param 2"] else [])

/-- A parameter in both notations. -/
def parameterText (w : UInt32) : String :=
  Text.hex 1 w.toNat ++ ", " ++ toString w

/-- The contents of the columns. -/
def columns (v : Verification) : List String :=
  [Text.hex 4 v.packetId.toNat, toString v.sequence] ++
    (v.outcome.step?.map toString).toList ++
    (match v.outcome.failure? with
     | some f => [Text.hex 4 f.code.toNat, parameterText f.first, parameterText f.second]
     | none => [])

end Verification

end GroundLink
