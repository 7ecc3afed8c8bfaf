import GroundLink.Proofs.Client.Verdict
import GroundLink.Proofs.Report.Grammar

/-!
# Counting telemetry

The counts of a test are a sum over its packets, so neither the order of the packets nor their
division into batches matters, and what is received in two parts counts for what the parts count
for together.  They can be taken in one pass that stops early at an invalid packet and at a report
on an unknown telecommand (`Client.Counts.foldl_count`): a verification report is never a reply of a
device as well.

Verification reports fall into six classes (`Client.ReportClass`), and each class has a counter of
its own (`Client.ReportClass.of_ofPackets`).
-/

namespace GroundLink

/-- The report of a service is found in packets of that service only. -/
theorem Report.service_eq_of_ofPacket {p : Packet} {service : Service}
    (h : (ofPacket p).service? = some service) : p.service = service.code := by
  have typed : ofPacket p ≠ .generic := by
    intro hgeneric
    rw [hgeneric] at h
    cases h
  obtain ⟨other, hother, hread⟩ := (ofPacket_eq_iff typed).mp rfl
  rw [service?_of_ofService? typed hread] at h
  rw [hother, Option.some.inj h]

namespace Client

namespace Counts

variable (sent : List Telecommand.Info) (scan : Scan)

/-! ### A sum over packets -/

instance : AddCommMonoid Counts where
  add_comm a b := by simp only [add_def, Nat.add_comm]

theorem ofPackets_eq_sum (packets : List Packet) :
    ofPackets sent scan packets = (packets.map (ofPacket sent scan)).sum := rfl

theorem ofPackets_append (packets others : List Packet) :
    ofPackets sent scan (packets ++ others) =
      ofPackets sent scan packets + ofPackets sent scan others := by
  rw [ofPackets_eq_sum, List.map_append, List.sum_append]
  rfl

/-- **The order of the packets does not matter.** -/
theorem ofPackets_perm {packets others : List Packet} (h : packets.Perm others) :
    ofPackets sent scan packets = ofPackets sent scan others :=
  (h.map (ofPacket sent scan)).sum_eq

/-- Invalid packets only count as such. -/
theorem ofPackets_of_invalid {packets : List Packet} (invalid : ∀ p ∈ packets, p.valid = false) :
    ofPackets sent scan packets = { invalid := packets.length } := by
  induction packets with
  | nil => rfl
  | cons p rest ih =>
    have hrest := ih fun q hq => invalid q (List.mem_cons_of_mem p hq)
    have hfirst : ofPacket sent scan p = { invalid := 1 } := by
      rw [ofPacket, invalid p List.mem_cons_self, if_neg Bool.false_ne_true]
    rw [ofPackets_eq_sum, List.map_cons, List.sum_cons, ← ofPackets_eq_sum, hrest, hfirst,
      List.length_cons, Nat.add_comm rest.length]
    rfl

/-- **An invalid packet changes no other counter.** -/
theorem ofPackets_eq_valid (packets : List Packet) :
    ofPackets sent scan packets = ofPackets sent scan (packets.filter (·.valid)) +
      { invalid := packets.countP fun p => !p.valid } := by
  -- The order does not matter, so the invalid packets can stand behind the others.
  have hparts : (packets.filter (·.valid) ++ packets.filter fun p => !p.valid).Perm packets :=
    List.filter_append_perm _ _
  have hinvalid : ofPackets sent scan (packets.filter fun p => !p.valid) =
      { invalid := packets.countP fun p => !p.valid } := by
    rw [ofPackets_of_invalid, ← List.countP_eq_length_filter]
    intro p hp
    simpa using (List.mem_filter.mp hp).2
  rw [← ofPackets_perm sent scan hparts, ofPackets_append, hinvalid]

/-! ### One pass over the packets -/

/-- Counts one more packet.  Nothing else is asked of a packet that is invalid, or that is a report
on an unknown telecommand. -/
def count (c : Counts) (p : Packet) : Counts :=
  if !p.valid then { c with invalid := c.invalid + 1 }
  else
    match Report.ofPacket p with
    | .verification v =>
      if !isMatched sent v then { c with unmatched := c.unmatched + 1 }
      else c + ofOutcome v.outcome + ofReply scan p.service p.subservice
    | .event e =>
      (if isCounted scan e then { c with events := c.events + 1 } else c) +
        ofReply scan p.service p.subservice
    | _ => c + ofReply scan p.service p.subservice

/-- A verification report is no reply of a device. -/
theorem ofReply_of_verification {p : Packet} {v : Verification}
    (h : Report.ofPacket p = .verification v) : ofReply scan p.service p.subservice = 0 := by
  have hservice : p.service = Service.verification.code :=
    Report.service_eq_of_ofPacket (by rw [h]; rfl)
  rw [hservice]
  cases scan <;> rfl

/-- One pass counts every packet for the same, whatever came before it. -/
theorem count_eq (c : Counts) (p : Packet) : count sent scan c p = c + ofPacket sent scan p := by
  unfold count ofPacket
  cases p.valid with
  | false => rfl
  | true =>
    simp only [Bool.not_true, Bool.false_eq_true, if_false, if_true]
    cases hreport : Report.ofPacket p with
    | verification v =>
      -- No reply is missed if the pass stops at a report on an unknown telecommand.
      have hreply := ofReply_of_verification scan hreport
      simp only [ofReport, hreply, add_zero]
      cases isMatched sent v <;> rfl
    | event e =>
      simp only [ofReport, ← add_assoc]
      cases isCounted scan e <;> rfl
    | housekeeping | parameter | mode | generic =>
      simp only [ofReport]
      exact congrArg (c + ·) (zero_add _).symm

/-- **One pass over the packets** finds the counts. -/
theorem foldl_count (packets : List Packet) :
    packets.foldl (count sent scan) 0 = ofPackets sent scan packets := by
  have main (c : Counts) :
      packets.foldl (count sent scan) c = c + ofPackets sent scan packets := by
    induction packets generalizing c with
    | nil => exact (add_zero c).symm
    | cons p rest ih =>
      rw [List.foldl_cons, ih, count_eq, add_assoc]
      rfl
  rw [main, zero_add]

end Counts

/-! ### Classes of verification reports -/

/-- The classes of verification reports. -/
inductive ReportClass where
  | acceptance
  | start
  | steps
  | completion
  | failures
  /-- The report belongs to no telecommand that was sent. -/
  | unmatched
  deriving DecidableEq, Repr

namespace ReportClass

/-- The counter of a class. -/
def counter : ReportClass → Counts → Nat
  | acceptance => Counts.acceptance
  | start => Counts.start
  | steps => Counts.steps
  | completion => Counts.completion
  | failures => Counts.failures
  | unmatched => Counts.unmatched

/-- The class of an outcome. -/
def ofOutcome : Verification.Outcome → ReportClass
  | .acceptanceSuccess => acceptance
  | .startSuccess => start
  | .stepSuccess _ => steps
  | .completionSuccess => completion
  | .acceptanceFailure _ | .startFailure _ | .stepFailure _ _ | .completionFailure _ => failures

/-- The class of a report. -/
def ofReport (sent : List Telecommand.Info) (v : Verification) : ReportClass :=
  if Counts.isMatched sent v then ofOutcome v.outcome else unmatched

variable (sent : List Telecommand.Info) (scan : Scan)

theorem tally (c : ReportClass) : Tally c.counter where
  zero := by cases c <;> rfl
  add _ _ := by cases c <;> rfl
  misc := by cases c <;> rfl
  dataReply := by cases c <;> rfl
  event := by cases c <;> rfl
  invalid := by cases c <;> rfl

theorem of_ofReport (c : ReportClass) (v : Verification) :
    c.counter (Counts.ofReport sent scan (.verification v)) =
      if ofReport sent v = c then 1 else 0 := by
  have hreport : Counts.ofReport sent scan (.verification v) =
    if Counts.isMatched sent v then Counts.ofOutcome v.outcome else { unmatched := 1 } := rfl
  rw [hreport]
  by_cases hmatched : Counts.isMatched sent v = true
  · have hclass : ofReport sent v = ofOutcome v.outcome := if_pos hmatched
    rw [hclass, if_pos hmatched]
    cases v.outcome <;> cases c <;> rfl
  · have hclass : ofReport sent v = unmatched := if_neg hmatched
    rw [hclass, if_neg hmatched]
    cases c <;> rfl

/-- **Each class has its counter.** -/
theorem of_ofPackets (c : ReportClass) (packets : List Packet) :
    c.counter (Counts.ofPackets sent scan packets) =
      (verifications packets).countP fun v => ofReport sent v = c := by
  apply c.tally.ofPackets
  intro v
  rw [of_ofReport]
  exact if_congr (decide_eq_true_iff).symm rfl rfl

/-- Every report is of one class. -/
theorem sum_countP (reports : List Verification) :
    let size (c : ReportClass) := reports.countP fun v => ofReport sent v = c
    size acceptance + size start + size steps + size completion + size failures +
      size unmatched = reports.length := by
  intro size
  induction reports with
  | nil => rfl
  | cons v rest ih =>
    simp only [size, List.countP_cons, List.length_cons] at ih ⊢
    cases ofReport sent v <;> simp <;> omega

end ReportClass

/-- **Counting telemetry** loses nothing and depends on no order.  Two queues with the same packets,
in whatever order and batches, have the same counts, and the counts of two queues in succession are
the sums of their counts.  The invalid packets are counted, and change no other counter.  The
verification reports in valid packets are counted in six classes: as a success of one of four kinds
or as a failure of a telecommand that was sent, or as a report on an unknown telecommand.  Each of
them is counted once. -/
theorem Counts.ofPackets_unordered (sent : List Telecommand.Info) (scan : Scan) :
    let analyse (queue : List Packet.Batch) := ofPackets sent scan queue.flatten
    (∀ queue, queue.flatten.foldl (count sent scan) 0 = analyse queue) ∧
    (∀ queue queue', queue.flatten.Perm queue'.flatten → analyse queue = analyse queue') ∧
    (∀ queue queue', analyse (queue ++ queue') = analyse queue + analyse queue') ∧
    (∀ queue, (analyse queue).invalid = queue.flatten.countP (fun p => !p.valid) ∧
      analyse queue = ofPackets sent scan (queue.flatten.filter (·.valid)) +
        { invalid := (analyse queue).invalid }) ∧
    ∀ queue, let c := analyse queue
      c.acceptance + c.start + c.steps + c.completion + c.failures + c.unmatched =
          (verifications queue.flatten).length ∧
        ∀ kind : ReportClass, kind.counter c =
          (verifications queue.flatten).countP fun v => ReportClass.ofReport sent v = kind := by
  intro analyse
  refine ⟨fun queue => foldl_count sent scan _, fun _ _ => ofPackets_perm sent scan,
    fun queue queue' => ?_, fun queue => ?_, fun queue => ?_⟩
  · have hflatten : (queue ++ queue').flatten = queue.flatten ++ queue'.flatten :=
      List.flatten_append
    exact (congrArg _ hflatten).trans (ofPackets_append sent scan _ _)
  · have hinvalid := ofPackets_invalid sent scan queue.flatten
    refine ⟨hinvalid, ?_⟩
    rw [show (analyse queue).invalid = _ from hinvalid]
    exact ofPackets_eq_valid sent scan queue.flatten
  · intro c
    have hclass (kind : ReportClass) := kind.of_ofPackets sent scan queue.flatten
    refine ⟨?_, hclass⟩
    rw [← ReportClass.sum_countP sent]
    simp only [← hclass]
    rfl

end Client

end GroundLink
