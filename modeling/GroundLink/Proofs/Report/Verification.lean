import GroundLink.Proofs.Client.Loopback
import GroundLink.Proofs.Report.Layout

/-!
# Verification reports are read back

The reader expects the number of the step in front of the failure of a step report
(`Verification.Outcome.toBytes`), and reads every outcome that is written so
(`Verification.Outcome.ofData?_toBytes`).  The reports that are created here hold no step: they are
read back for acceptance, start and completion, while the two step reports are one octet short and
are kept as generic packets (`Verification.toTelemetry_readBack`).
-/

namespace GroundLink.Verification

open Packet

/-! ### Outcomes and subservices -/

/-- The subservice that reports an outcome. -/
def Outcome.subservice : Outcome → UInt8
  | .acceptanceSuccess => 1
  | .acceptanceFailure _ => 2
  | .startSuccess => 3
  | .startFailure _ => 4
  | .stepSuccess _ => 5
  | .stepFailure _ _ => 6
  | .completionSuccess => 7
  | .completionFailure _ => 8

def isStep (subservice : UInt8) : Bool :=
  subservice = 5 || subservice = 6

/-- **Even subservices report failures.** -/
theorem Outcome.isFailure_iff (o : Outcome) :
    o.isFailure = true ↔ o.subservice.toNat % 2 = 0 := by
  cases o
  case acceptanceSuccess | startSuccess | stepSuccess | completionSuccess =>
    exact iff_of_false Bool.false_ne_true (by simp [subservice])
  case acceptanceFailure | startFailure | stepFailure | completionFailure =>
    exact iff_of_true rfl (by simp [subservice])

/-- The numbers of the eight subservices. -/
theorem isSubservice_cases {subservice : UInt8} (known : isSubservice subservice = true) :
    subservice = 1 ∨ subservice = 2 ∨ subservice = 3 ∨ subservice = 4 ∨ subservice = 5 ∨
      subservice = 6 ∨ subservice = 7 ∨ subservice = 8 := by
  revert subservice
  have hall : ∀ n : Fin 256, isSubservice (UInt8.ofFin n) = true →
      UInt8.ofFin n = 1 ∨ UInt8.ofFin n = 2 ∨ UInt8.ofFin n = 3 ∨ UInt8.ofFin n = 4 ∨
        UInt8.ofFin n = 5 ∨ UInt8.ofFin n = 6 ∨ UInt8.ofFin n = 7 ∨ UInt8.ofFin n = 8 := by
    decide +kernel
  intro subservice known
  exact hall subservice.toFin known

/-- **Each subservice has one kind of outcome**: it says all that is to be said. -/
theorem Outcome.exists_of_isSubservice {subservice : UInt8} {failure : Option Failure}
    (known : isSubservice subservice = true)
    (given : failure.isSome = true ↔ subservice.toNat % 2 = 0) (step : UInt8) :
    ∃ o : Outcome, o.subservice = subservice ∧ o.failure? = failure ∧
      o.step? = if isStep subservice then some step else none := by
  cases failure with
  | none =>
    rcases isSubservice_cases known with rfl | rfl | rfl | rfl | rfl | rfl | rfl | rfl
    case inl => exact ⟨.acceptanceSuccess, rfl, rfl, rfl⟩
    case inr.inr.inl => exact ⟨.startSuccess, rfl, rfl, rfl⟩
    case inr.inr.inr.inr.inl => exact ⟨.stepSuccess step, rfl, rfl, rfl⟩
    case inr.inr.inr.inr.inr.inr.inl => exact ⟨.completionSuccess, rfl, rfl, rfl⟩
    all_goals exact absurd (given.mpr rfl) Bool.false_ne_true
  | some failure =>
    have heven := given.mp rfl
    rcases isSubservice_cases known with rfl | rfl | rfl | rfl | rfl | rfl | rfl | rfl
    case inr.inl => exact ⟨.acceptanceFailure failure, rfl, rfl, rfl⟩
    case inr.inr.inr.inl => exact ⟨.startFailure failure, rfl, rfl, rfl⟩
    case inr.inr.inr.inr.inr.inl => exact ⟨.stepFailure step failure, rfl, rfl, rfl⟩
    case inr.inr.inr.inr.inr.inr.inr => exact ⟨.completionFailure failure, rfl, rfl, rfl⟩
    all_goals exact absurd heven (by decide)

/-! ### The layout of the outcomes -/

/-- The octets of the failure data of a report, which may have none. -/
def failureBytes (failure : Option Failure) : Bytes :=
  match failure with
  | some f => f.toBytes
  | none => []

/-- The octets of an outcome as they are read: the step, if there is one, and then the failure. -/
def Outcome.toBytes (o : Outcome) : Bytes :=
  o.step?.toList ++ failureBytes o.failure?

/-- Failure data are read where they were written. -/
theorem Failure.at?_append (before : Bytes) (f : Failure) :
    Failure.at? (before ++ f.toBytes) before.length = some f := by
  let code := before ++ Bytes.ofWord16 f.code
  have hcode : (before ++ f.toBytes).word16At? before.length = some f.code := by
    rw [toBytes, List.append_assoc]
    exact Bytes.word16At?_append before f.code _
  have hfirst : (before ++ f.toBytes).word32At? (before.length + 2) = some f.first := by
    have hread := Bytes.word32At?_append code f.first (Bytes.ofWord32 f.second)
    rw [List.length_append] at hread
    rwa [toBytes, List.append_assoc, ← List.append_assoc before]
  have hsecond : (before ++ f.toBytes).word32At? (before.length + 6) = some f.second := by
    have hread := Bytes.word32At?_append (code ++ Bytes.ofWord32 f.first) f.second []
    rw [List.length_append, List.length_append, List.append_nil] at hread
    rwa [toBytes, ← List.append_assoc, ← List.append_assoc]
  unfold at?
  rw [hcode, hfirst, hsecond]
  rfl

/-- **Every outcome is read back** behind the four octets that name the telecommand. -/
theorem Outcome.ofData?_toBytes (o : Outcome) {name : Bytes} (hname : name.length = 4) :
    Outcome.ofData? o.subservice (name ++ o.toBytes) = some o := by
  have hfailure (f : Failure) : Failure.at? (name ++ f.toBytes) 4 = some f := by
    rw [← hname]
    exact Failure.at?_append name f
  have hstep (n : UInt8) (rest : Bytes) : (name ++ n :: rest).byteAt? 4 = some n := by
    rw [Bytes.byteAt?, ← hname, List.getElem?_append_right (Nat.le_refl _), Nat.sub_self]
    rfl
  cases o with
  | acceptanceSuccess | startSuccess | completionSuccess => rfl
  | acceptanceFailure f | startFailure f | completionFailure f =>
    exact congrArg (Option.map _) (hfailure f)
  | stepSuccess n => exact congrArg (Option.map _) (hstep n [])
  | stepFailure n f =>
    have hbehind : Failure.at? (name ++ n :: f.toBytes) 5 = some f := by
      have hread := Failure.at?_append (name ++ [n]) f
      rwa [List.length_append, hname, List.append_assoc] at hread
    have hread : Outcome.ofData? 6 (name ++ n :: f.toBytes) =
        ((name ++ n :: f.toBytes).byteAt? 4).bind fun step =>
          (Failure.at? (name ++ n :: f.toBytes) 5).bind fun failure =>
            some (.stepFailure step failure) := rfl
    exact hread.trans (by rw [hstep, hbehind]; rfl)

/-! ### Reading behind the name of a telecommand -/

section Named

variable (info : Telecommand.Info)

def nameBytes : Bytes :=
  Bytes.ofWord16 info.packetId ++ Bytes.ofWord16 (sequenceControl info.sequence)

theorem length_nameBytes : (nameBytes info).length = 4 := rfl

/-- A report on a telecommand, which repeats its identification and the fourteen bits of its
sequence count. -/
def onto (outcome : Outcome) : Verification :=
  ⟨info.packetId, UInt16.ofNat (info.sequence.toNat % 2 ^ 14), outcome⟩

/-- **A report names its telecommand**, whatever follows the name. -/
theorem ofData?_nameBytes (subservice : UInt8) (rest : Bytes) :
    ofData? subservice (nameBytes info ++ rest) =
      (Outcome.ofData? subservice (nameBytes info ++ rest)).map (onto info) := by
  have hid : (nameBytes info ++ rest).word16At? 0 = some info.packetId :=
    Bytes.word16At?_append [] info.packetId _
  have hcontrol : (nameBytes info ++ rest).word16At? 2 = some (sequenceControl info.sequence) :=
    Bytes.word16At?_append (Bytes.ofWord16 info.packetId) (sequenceControl info.sequence) rest
  have hcount : (SequenceCount.ofWord (sequenceControl info.sequence)).val =
      info.sequence.toNat % 2 ^ 14 := by
    rw [ofWord_sequenceControl]
    rfl
  unfold ofData?
  rw [hid, hcontrol]
  simp only [Option.bind_eq_bind, Option.bind_some, hcount]
  cases Outcome.ofData? subservice (nameBytes info ++ rest) <;> rfl

variable {info}

/-- The report of a packet which names a telecommand. -/
theorem ofPacket_nameBytes {p : Packet} {rest : Bytes}
    (service : p.service = Service.verification.code) (hdata : p.data = nameBytes info ++ rest) :
    Report.ofPacket p = ((Outcome.ofData? p.subservice p.data).map fun outcome =>
      Report.verification (onto info outcome)).getD .generic := by
  have hread : Report.ofPacket p =
      ((ofData? p.subservice p.data).map Report.verification).getD .generic := by
    rw [Report.ofPacket, service]
    rfl
  rw [hread, hdata, ofData?_nameBytes, Option.map_map]
  rfl

/-- A written outcome is the report of the packet. -/
theorem ofPacket_toBytes {p : Packet} {outcome : Outcome}
    (service : p.service = Service.verification.code)
    (hsubservice : p.subservice = outcome.subservice)
    (hdata : p.data = nameBytes info ++ outcome.toBytes) :
    Report.ofPacket p = .verification (onto info outcome) := by
  rw [ofPacket_nameBytes service hdata, hsubservice, hdata,
    outcome.ofData?_toBytes (length_nameBytes info)]
  rfl

end Named

/-! ### Creating and reading -/

/-- A report holds the name of its telecommand and the failure, but no step. -/
theorem data_toTelemetry (apid sequence : UInt16) (info : Telecommand.Info) (subservice : UInt8)
    (failure : Option Failure) : (toTelemetry apid sequence info subservice failure).data =
      nameBytes info ++ failureBytes failure := by
  cases failure <;> rfl

theorem length_failureBytes (failure : Option Failure) :
    (failureBytes failure).length = if failure.isSome then 10 else 0 := by
  cases failure <;> rfl

/-- **Without its step, a step report is one octet short.** -/
theorem Outcome.ofData?_withoutStep {subservice : UInt8} {failure : Option Failure}
    (step : isStep subservice = true) (given : failure.isSome = true ↔ subservice.toNat % 2 = 0)
    {name : Bytes} (hname : name.length = 4) :
    Outcome.ofData? subservice (name ++ failureBytes failure) = none := by
  have hcases : subservice = 5 ∨ subservice = 6 := by
    simpa [isStep] using step
  have hlength : (name ++ failureBytes failure).length =
      4 + if failure.isSome then 10 else 0 := by
    rw [List.length_append, hname, length_failureBytes]
  -- Success with a step lacks its only octet; failure with a step is one octet short.
  obtain rfl | rfl := hcases
  case inl =>
    have hnone : ¬ failure.isSome = true := fun h => absurd (given.mp h) (by decide)
    have hread : (name ++ failureBytes failure).byteAt? 4 = none := by
      rw [(Bytes.reads_byteAt 4).eq_none_iff, hlength, if_neg hnone]
      decide
    exact congrArg (Option.map _) hread
  case inr =>
    have hread : Failure.at? (name ++ failureBytes failure) 5 = none := by
      rw [(Failure.reads_at 5).eq_none_iff, hlength]
      split <;> decide
    have hoctet : ((name ++ failureBytes failure).byteAt? 4 >>= fun step =>
        Failure.at? (name ++ failureBytes failure) 5 >>= fun failure =>
          some (Outcome.stepFailure step failure)) = none := by
      rw [hread]
      cases (name ++ failureBytes failure).byteAt? 4 <;> rfl
    exact hoctet

/-- Every verification report fits into a packet. -/
theorem toTelemetry_fits (apid sequence : UInt16) (info : Telecommand.Info) (subservice : UInt8)
    (failure : Option Failure) :
    (toTelemetry apid sequence info subservice failure).data.length ≤ Telemetry.maxData := by
  have hmax : 14 ≤ Telemetry.maxData := by decide
  rw [data_toTelemetry, List.length_append, length_nameBytes, length_failureBytes]
  split <;> omega

/-- **A verification report is read back, unless it is about a step.**  The report of each
subservice on a telecommand, with failure data if and only if the subservice is even, is encoded and
decoded as a valid packet.  For acceptance, start and completion this packet tells of the
telecommand, with its sequence count cut to its width, and of the outcome with the very failure
data.  A report of a step is kept as a generic packet, because the number of the step is never
written; with the number in front of the failure data it would be read. -/
theorem toTelemetry_readBack (apid sequence : UInt16) (info : Telecommand.Info)
    (subservice : UInt8) (failure : Option Failure) (known : isSubservice subservice = true)
    (given : failure.isSome = true ↔ subservice.toNat % 2 = 0) :
    ∃ raw p, (toTelemetry apid sequence info subservice failure).toBytes? = .ok raw ∧
      Packet.decode raw = .ok p ∧ p.valid = true ∧
      p.header.apid.val = apid.toNat % 2 ^ 11 ∧ p.header.sequence.val = sequence.toNat % 2 ^ 14 ∧
      p.service = 1 ∧ p.subservice = subservice ∧
      if isStep subservice then
        Report.ofPacket p = .generic ∧
          ∀ step, ∃ outcome : Outcome,
            Report.ofPacket { p with data := p.data.take 4 ++ step :: p.data.drop 4 } =
              .verification ⟨info.packetId, UInt16.ofNat (info.sequence.toNat % 2 ^ 14), outcome⟩ ∧
            outcome.subservice = subservice ∧ outcome.failure? = failure ∧
            outcome.step? = some step
      else ∃ outcome : Outcome,
        Report.ofPacket p =
          .verification ⟨info.packetId, UInt16.ofNat (info.sequence.toNat % 2 ^ 14), outcome⟩ ∧
        outcome.subservice = subservice ∧ outcome.failure? = failure ∧ outcome.step? = none ∧
        (outcome.isFailure = true ↔ subservice.toNat % 2 = 0) := by
  let t := toTelemetry apid sequence info subservice failure
  have hdata : t.data = nameBytes info ++ failureBytes failure :=
    data_toTelemetry apid sequence info subservice failure
  have fits : t.data.length ≤ Telemetry.maxData :=
    toTelemetry_fits apid sequence info subservice failure
  have hdecode := Telemetry.decode_close_append fits []
  rw [List.append_nil] at hdecode
  refine ⟨_, _, if_pos fits, hdecode, rfl, rfl, rfl, rfl, rfl, ?_⟩
  -- The creator writes no step, so the step reports are the ones that are not read back.
  by_cases hstep : isStep subservice = true
  case neg =>
    rw [if_neg hstep]
    obtain ⟨outcome, rfl, rfl, hnone⟩ := Outcome.exists_of_isSubservice known given 0
    rw [if_neg hstep] at hnone
    have hbytes : outcome.toBytes = failureBytes outcome.failure? := by
      rw [Outcome.toBytes, hnone]
      rfl
    refine ⟨outcome, ?_, rfl, rfl, hnone, outcome.isFailure_iff⟩
    apply ofPacket_toBytes
    · rfl
    · rfl
    · rw [hbytes]
      exact hdata
  case pos =>
    rw [if_pos hstep]
    constructor
    · have hnone : Outcome.ofData? subservice t.data = none := by
        rw [hdata]
        exact Outcome.ofData?_withoutStep hstep given (length_nameBytes info)
      rw [ofPacket_nameBytes rfl hdata]
      exact congrArg (fun o => (Option.map _ o).getD _) hnone
    · -- With a step put in, the data are those of an outcome.
      intro step
      obtain ⟨outcome, rfl, rfl, hsome⟩ := Outcome.exists_of_isSubservice known given step
      rw [if_pos hstep] at hsome
      have hbytes : outcome.toBytes = step :: failureBytes outcome.failure? := by
        rw [Outcome.toBytes, hsome]
        rfl
      refine ⟨outcome, ?_, rfl, rfl, hsome⟩
      apply ofPacket_toBytes
      · rfl
      · rfl
      · rw [hbytes]
        dsimp only
        rw [hdata]
        rfl

/-- The report of a failed completion is read back; that of a successful step is not. -/
theorem toTelemetry_readBack_both :
    (∃ raw p, (toTelemetry 0x73 1 ⟨17, 129, 2010, 0x1873, []⟩ 8
        (some ⟨0x1A02, 5, 0xDEADBEEF⟩)).toBytes? = .ok raw ∧ Packet.decode raw = .ok p ∧
      ∃ outcome : Outcome, Report.ofPacket p = .verification ⟨0x1873, 2010, outcome⟩ ∧
        outcome.failure? = some ⟨0x1A02, 5, 0xDEADBEEF⟩) ∧
    ∃ raw p, (toTelemetry 0x73 1 ⟨17, 129, 2010, 0x1873, []⟩ 5 none).toBytes? = .ok raw ∧
      Packet.decode raw = .ok p ∧ Report.ofPacket p = .generic := by
  have hfailed := toTelemetry_readBack 0x73 1 ⟨17, 129, 2010, 0x1873, []⟩
    8 (some ⟨0x1A02, 5, 0xDEADBEEF⟩) (by decide) (by decide)
  have hstep := toTelemetry_readBack 0x73 1 ⟨17, 129, 2010, 0x1873, []⟩
    5 none (by decide) (by decide)
  obtain ⟨raw, p, hbytes, hdecode, -, -, -, -, -, outcome, hreport, -, hfailure, -⟩ := hfailed
  obtain ⟨raw', p', hbytes', hdecode', -, -, -, -, -, hgeneric, -⟩ := hstep
  exact ⟨⟨raw, p, hbytes, hdecode, outcome, hreport, hfailure⟩, raw', p', hbytes', hdecode',
    hgeneric⟩

end GroundLink.Verification
