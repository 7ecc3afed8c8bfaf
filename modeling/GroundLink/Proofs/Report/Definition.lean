import GroundLink.Client.Procedure.Data
import GroundLink.Proofs.Report.Layout
import GroundLink.Telecommand
import Mathlib.Data.List.TakeDrop

/-!
# Definitions of housekeeping structures are read back

A report of a definition has the layout of the telecommand that defines the structure, with one
octet more: the flag of the reporting stands behind the structure identifier.  What was written is
read back (`Housekeeping.definition_readBack`), with one exception.  The number of parameters has
one octet, and the parameters themselves are all written, so of more than 255 parameters only as
many are read as that octet says.
-/

namespace GroundLink

open Client.Procedure (definitionData)

/-! ### Words one behind the other -/

namespace Bytes

/-- Words that stand one behind the other are found at every fourth octet, and behind the last of
them there is none. -/
theorem word32At?_flatMap (words : List UInt32) (i : Nat) :
    word32At? (words.flatMap ofWord32) (i * 4) = words[i]? := by
  induction words generalizing i with
  | nil => rw [List.flatMap_nil, word32At?, List.drop_nil, List.getElem?_nil]
  | cons w words ih =>
    rw [List.flatMap_cons]
    cases i with
    | zero => exact word32At?_append [] w _
    | succ i =>
      have hbehind : (ofWord32 w ++ words.flatMap ofWord32).drop ((i + 1) * 4) =
          (words.flatMap ofWord32).drop (i * 4) := by
        rw [Nat.succ_mul]
        rfl
      rw [List.getElem?_cons_succ, ← ih i, word32At?, word32At?, hbehind]

end Bytes

namespace Housekeeping

/-! ### Reports of definitions -/

/-- The data of a report of a definition: the flag of the reporting is put behind the structure
identifier. -/
def reportData (flag : UInt8) (definition : Bytes) : Bytes :=
  definition.take 4 ++ flag :: definition.drop 4

/-- Looking up the first members of a list finds them, if there are so many. -/
theorem mapM_getElem?_range {α : Type} {xs : List α} {n : Nat} (reaches : n ≤ xs.length) :
    (List.range n).mapM (fun i => xs[i]?) = some (xs.take n) := by
  induction n with
  | zero => rfl
  | succ n ih =>
    have hnext : xs[n]? = some xs[n] := List.getElem?_eq_getElem reaches
    rw [List.range_succ, List.mapM_append, ih (Nat.le_of_succ_le reaches), List.mapM_cons,
      List.mapM_nil, hnext, List.take_succ_eq_append_getElem reaches]
    rfl

variable (sid interval : UInt32) (flag : UInt8) (parameters : List UInt32)

theorem length_definitionData :
    (definitionData sid interval parameters).length = 9 + 4 * parameters.length := by
  have hwords : (parameters.flatMap Bytes.ofWord32).length = 4 * parameters.length := by
    have hword : (fun w => (Bytes.ofWord32 w).length) = fun _ => 4 := rfl
    rw [List.length_flatMap, hword, List.map_const', List.sum_replicate_nat, Nat.mul_comm]
  have hfixed : (Bytes.ofWord32 sid ++ Bytes.ofWord32 interval ++
      [UInt8.ofNat parameters.length]).length = 9 := rfl
  rw [definitionData, List.length_append, hfixed, hwords]

/-- A definition with its flag, part by part. -/
theorem reportData_definitionData : reportData flag (definitionData sid interval parameters) =
    Bytes.ofWord32 sid ++ (flag :: (Bytes.ofWord32 interval ++
      (UInt8.ofNat parameters.length :: parameters.flatMap Bytes.ofWord32))) := rfl

/-- **As many parameters are read as the count says.** -/
theorem readDefinition?_reportData :
    readDefinition? (reportData flag (definitionData sid interval parameters)) =
      some (.definition (flag = 1) interval (parameters.take (parameters.length % 256))) := by
  rw [reportData_definitionData]
  generalize hreport : Bytes.ofWord32 sid ++ (flag :: (Bytes.ofWord32 interval ++
    (UInt8.ofNat parameters.length :: parameters.flatMap Bytes.ofWord32))) = report
  have hflag : report.byteAt? 4 = some flag := by
    subst hreport
    rfl
  have hinterval : report.word32At? 5 = some interval := by
    subst hreport
    exact Bytes.word32At?_append (Bytes.ofWord32 sid ++ [flag]) interval _
  have hcount : report.byteAt? 9 = some (UInt8.ofNat parameters.length) := by
    subst hreport
    rfl
  -- The count was narrowed to an octet when it was written.
  have hnarrowed : (UInt8.ofNat parameters.length).toNat = parameters.length % 256 :=
    UInt8.toNat_ofNat'
  have hword (i : Nat) : report.word32At? (10 + i * 4) = parameters[i]? := by
    rw [← Bytes.word32At?_flatMap, Nat.add_comm]
    subst hreport
    rfl
  have hread : (List.range (UInt8.ofNat parameters.length).toNat).mapM (fun i =>
      report.word32At? (10 + i * 4)) = some (parameters.take (parameters.length % 256)) := by
    rw [funext hword, hnarrowed, mapM_getElem?_range (Nat.mod_le _ _)]
  unfold readDefinition?
  simp only [hflag, hinterval, hcount, hread, bind, Option.bind_some, pure]

theorem ofData?_reportData {subservice : UInt8} (definition : isDefinition subservice = true) :
    ofData? subservice (reportData flag (definitionData sid interval parameters)) =
      some ⟨sid, .definition (flag = 1) interval
        (parameters.take (parameters.length % 256))⟩ := by
  have hsid : (reportData flag (definitionData sid interval parameters)).word32At? 0 =
      some sid := by
    rw [reportData_definitionData]
    exact Bytes.word32At?_append [] sid _
  unfold ofData? Content.ofData?
  simp only [hsid, definition, readDefinition?_reportData, bind, Option.bind_some, pure, if_true]

/-- The parameters that are read are all that there are, exactly if one octet can count them. -/
theorem take_mod_eq_iff {α : Type} (xs : List α) :
    xs.take (xs.length % 256) = xs ↔ xs.length ≤ 255 := by
  rw [List.take_eq_self_iff]
  omega

/-- **Definitions are read back as far as one octet can count.**  For every structure identifier,
every pattern of the collection interval, every flag and every list of parameters, the definition
with its flag is read, by either of the two subservices that report definitions, as a definition
with that identifier, the same bits of the interval, and the reporting enabled if the flag is one.
Its parameters are the first of the list, and as many of them as the length of the list leaves
modulo 256.  So the whole list is read back exactly if it has at most 255 members, while up to 16380
of them fit into one telecommand. -/
theorem definition_readBack :
    let report := reportData flag (definitionData sid interval parameters)
    let read := parameters.take (parameters.length % 256)
    ofData? 10 report = some ⟨sid, .definition (flag = 1) interval read⟩ ∧
      ofData? 12 report = some ⟨sid, .definition (flag = 1) interval read⟩ ∧
      (read = parameters ↔ parameters.length ≤ 255) ∧
      ((definitionData sid interval parameters).length ≤ Telecommand.maxData ↔
        parameters.length ≤ 16380) := by
  intro report read
  have hmax : Telecommand.maxData = 65530 := rfl
  refine ⟨ofData?_reportData sid interval flag parameters rfl,
    ofData?_reportData sid interval flag parameters rfl, take_mod_eq_iff parameters, ?_⟩
  rw [length_definitionData, hmax]
  omega

end Housekeeping

end GroundLink
