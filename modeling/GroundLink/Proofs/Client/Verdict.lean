import GroundLink.Proofs.Client.Loopback
import Mathlib.Data.List.Perm.Subperm

/-!
# What a verdict vouches for

The counters of a test that concern verification are numbers of reports (`Client.Tally.ofPackets`),
whatever telecommand they are about.  So the verdict on a test in which everything is to succeed
vouches for totals (`Client.Verdict.isOk_totals`): every packet is valid, every verification report
is a success of a telecommand that was sent, and there are as many acceptances, and as many
completions, as telecommands.  That these are the reports of all telecommands is the same as that
none is reported too often.

* `Client.Verdict.isOk_iff` is what a verdict checks.
* `Client.count_eq_iff_le`: lists of names of the same length agree if one does not exceed the
  other.
-/

namespace GroundLink.Client

/-! ### Names -/

/-- What identifies a telecommand: packet identification and sequence count. -/
abbrev Name := UInt16 × UInt16

def nameOf (info : Telecommand.Info) : Name := (info.packetId, info.sequence)

def subject (v : Verification) : Name := (v.packetId, v.sequence)

/-- The verification report that a packet is counted for. -/
def verification? (p : Packet) : Option Verification :=
  if p.valid then
    match Report.ofPacket p with
    | .verification v => some v
    | _ => none
  else none

def verifications (packets : List Packet) : List Verification :=
  packets.filterMap verification?

/-- The names in the reports of an outcome. -/
def reported (outcome : Verification.Outcome) (packets : List Packet) : List Name :=
  ((verifications packets).filter fun v => v.outcome = outcome).map subject

theorem isMatched_iff {sent : List Telecommand.Info} {v : Verification} :
    Counts.isMatched sent v = true ↔ subject v ∈ sent.map nameOf := by
  rw [Counts.isMatched, List.any_eq_true, List.mem_map]
  refine exists_congr fun info => and_congr_right fun _ => ?_
  rw [Bool.and_eq_true, decide_eq_true_eq, decide_eq_true_eq, nameOf, subject, Prod.mk.injEq]
  exact and_comm

/-! ### Counters of verification reports -/

/-- A counter that only verification reports count for. -/
structure Tally (counter : Counts → Nat) : Prop where
  zero : counter 0 = 0
  add (a b : Counts) : counter (a + b) = counter a + counter b
  misc : counter { misc := 1 } = 0
  dataReply : counter { dataReplies := 1 } = 0
  event : counter { events := 1 } = 0
  invalid : counter { invalid := 1 } = 0

namespace Tally

variable {counter : Counts → Nat} (sent : List Telecommand.Info) (scan : Scan)

/-- What a packet counts for. -/
theorem ofPacket (h : Tally counter) (p : Packet) : counter (Counts.ofPacket sent scan p) =
    ((verification? p).map fun v =>
      counter (Counts.ofReport sent scan (.verification v))).getD 0 := by
  have hreply : counter (Counts.ofReply scan p.service p.subservice) = 0 := by
    unfold Counts.ofReply
    split
    · exact h.misc
    · split
      · exact h.dataReply
      · exact h.zero
  unfold Counts.ofPacket verification?
  by_cases hvalid : p.valid = true
  case neg =>
    rw [if_neg hvalid, if_neg hvalid]
    exact h.invalid
  rw [if_pos hvalid, if_pos hvalid, h.add, hreply, Nat.add_zero]
  cases Report.ofPacket p with
  | verification v => rfl
  | event e =>
    show counter (if Counts.isCounted scan e then { events := 1 } else {}) = 0
    split
    · exact h.event
    · exact h.zero
  | housekeeping | parameter | mode | generic => exact h.zero

/-- **A counter is a number of reports.** -/
theorem ofPackets (h : Tally counter) {counts : Verification → Bool}
    (each : ∀ v, counter (Counts.ofReport sent scan (.verification v)) = if counts v then 1 else 0)
    (packets : List Packet) :
    counter (Counts.ofPackets sent scan packets) = (verifications packets).countP counts := by
  induction packets with
  | nil => exact h.zero
  | cons p rest ih =>
    have hcons : Counts.ofPackets sent scan (p :: rest) =
      Counts.ofPacket sent scan p + Counts.ofPackets sent scan rest := rfl
    rw [hcons, h.add, ih, h.ofPacket, verifications, verifications, List.filterMap_cons]
    cases verification? p with
    | none => exact Nat.zero_add _
    | some v =>
      dsimp only [Option.map_some, Option.getD_some]
      rw [each, List.countP_cons, Nat.add_comm]

/-- **A counter of outcomes** counts the reports on telecommands that were sent. -/
theorem ofPackets_matched (h : Tally counter) (unmatched : counter { unmatched := 1 } = 0)
    (counts : Verification.Outcome → Bool)
    (each : ∀ outcome, counter (Counts.ofOutcome outcome) = if counts outcome then 1 else 0)
    (packets : List Packet) : counter (Counts.ofPackets sent scan packets) =
      (verifications packets).countP fun v => Counts.isMatched sent v && counts v.outcome := by
  apply h.ofPackets
  intro v
  have hreport : Counts.ofReport sent scan (.verification v) =
      if Counts.isMatched sent v then Counts.ofOutcome v.outcome else { unmatched := 1 } := rfl
  rw [hreport]
  cases Counts.isMatched sent v with
  | false => exact unmatched
  | true => exact each v.outcome

end Tally

namespace Counts

variable (sent : List Telecommand.Info) (scan : Scan) (packets : List Packet)

theorem ofPackets_acceptance : (ofPackets sent scan packets).acceptance =
    (verifications packets).countP fun v => isMatched sent v && v.outcome = .acceptanceSuccess := by
  have tally : Tally Counts.acceptance := ⟨rfl, fun _ _ => rfl, rfl, rfl, rfl, rfl⟩
  apply tally.ofPackets_matched sent scan rfl fun o => o = .acceptanceSuccess
  intro outcome
  cases outcome <;> rfl

theorem ofPackets_completion : (ofPackets sent scan packets).completion =
    (verifications packets).countP fun v => isMatched sent v && v.outcome = .completionSuccess := by
  have tally : Tally Counts.completion := ⟨rfl, fun _ _ => rfl, rfl, rfl, rfl, rfl⟩
  apply tally.ofPackets_matched sent scan rfl fun o => o = .completionSuccess
  intro outcome
  cases outcome <;> rfl

theorem ofPackets_failures : (ofPackets sent scan packets).failures =
    (verifications packets).countP fun v => isMatched sent v && v.outcome.isFailure := by
  have tally : Tally Counts.failures := ⟨rfl, fun _ _ => rfl, rfl, rfl, rfl, rfl⟩
  apply tally.ofPackets_matched sent scan rfl Verification.Outcome.isFailure
  intro outcome
  cases outcome <;> rfl

theorem ofPackets_unmatched : (ofPackets sent scan packets).unmatched =
    (verifications packets).countP fun v => !isMatched sent v := by
  have tally : Tally Counts.unmatched := ⟨rfl, fun _ _ => rfl, rfl, rfl, rfl, rfl⟩
  apply tally.ofPackets
  intro v
  have hreport : (ofReport sent scan (.verification v)).unmatched =
      if isMatched sent v then (ofOutcome v.outcome).unmatched else 1 :=
    apply_ite Counts.unmatched _ _ _
  rw [hreport]
  cases isMatched sent v with
  | false => rfl
  | true => cases v.outcome <;> rfl

theorem ofPackets_invalid :
    (ofPackets sent scan packets).invalid = packets.countP fun p => !p.valid := by
  induction packets with
  | nil => rfl
  | cons p rest ih =>
    have hcons : (ofPackets sent scan (p :: rest)).invalid =
      (ofPacket sent scan p).invalid + (ofPackets sent scan rest).invalid := rfl
    -- Reports and replies never count as invalid, so only the check of the packet does.
    have hpacket : (ofPacket sent scan p).invalid = if !p.valid then 1 else 0 := by
      have hreport : (ofReport sent scan (Report.ofPacket p)).invalid = 0 := by
        unfold ofReport
        split
        · split
          · cases ‹Verification›.outcome <;> rfl
          · rfl
        · split <;> rfl
        · rfl
      have hreply : (ofReply scan p.service p.subservice).invalid = 0 := by
        unfold ofReply
        split
        · rfl
        · split <;> rfl
      have hvalid : (ofReport sent scan (Report.ofPacket p) +
          ofReply scan p.service p.subservice).invalid = 0 :=
        Nat.add_eq_zero_iff.mpr ⟨hreport, hreply⟩
      unfold ofPacket
      cases p.valid with
      | true => exact hvalid
      | false => rfl
    rw [hcons, ih, hpacket, List.countP_cons, Nat.add_comm]

end Counts

/-! ### What a verdict checks -/

/-- **A verdict is OK if each counter is as expected.** -/
theorem Verdict.isOk_iff (v : Verdict) : v.isOk = true ↔
    v.counts.completion = v.sent - v.expectation.missingCompletion ∧
      v.counts.acceptance = v.sent - v.expectation.failures ∧
      v.counts.failures = v.expectation.failures ∧ v.counts.steps = v.expectation.steps ∧
      v.counts.events = v.expectation.events ∧ v.counts.misc = v.expectation.misc ∧
      v.counts.dataReplies = v.expectation.dataReplies ∧ v.counts.unmatched = 0 ∧
      v.counts.invalid = 0 := by
  rw [isOk, List.isEmpty_iff, mismatches, List.map_eq_nil_iff, List.filter_eq_nil_iff, checks]
  simp

/-! ### Lists of names -/

/-- **Lists of the same length agree if one does not exceed the other.** -/
theorem count_eq_iff_le {names sent : List Name} (total : names.length = sent.length) :
    (∀ n, names.count n = sent.count n) ↔ ∀ n, names.count n ≤ sent.count n := by
  constructor
  · exact fun h n => Nat.le_of_eq (h n)
  · intro h
    have hsub : names.Subperm sent := List.subperm_ext_iff.mpr fun n _ => h n
    exact List.perm_iff_count.mp (hsub.perm_of_length_le (Nat.le_of_eq total.symm))

/-- If all names are sent once, one is missing exactly if another one is there twice. -/
theorem exists_missing_iff {names sent : List Name} (total : names.length = sent.length)
    (subset : ∀ n ∈ names, n ∈ sent) (distinct : sent.Nodup) :
    (∃ n ∈ sent, n ∉ names) ↔ ∃ n, 2 ≤ names.count n := by
  have hcount (n : Name) : sent.count n ≤ 1 := List.nodup_iff_count.mp distinct n
  constructor
  · rintro ⟨n, hsent, hmissing⟩
    by_contra hall
    push Not at hall
    -- No name twice: as the lengths agree, no name can be missing.
    have hle : ∀ m, names.count m ≤ sent.count m := by
      intro m
      by_cases hm : m ∈ names
      · have hsome := List.count_pos_iff.mpr (subset m hm)
        have hfew := hall m
        omega
      · rw [List.count_eq_zero_of_not_mem hm]
        exact Nat.zero_le _
    have heq := (count_eq_iff_le total).mpr hle n
    rw [List.count_eq_zero_of_not_mem hmissing] at heq
    exact hmissing (absurd (List.count_pos_iff.mpr hsent) (heq ▸ Nat.lt_irrefl 0))
  · rintro ⟨n, htwice⟩
    by_contra hall
    push Not at hall
    -- No name missing: as the lengths agree, no name can be there twice.
    have hle : ∀ m, sent.count m ≤ names.count m := by
      intro m
      by_cases hm : m ∈ sent
      · exact Nat.le_trans (hcount m) (List.count_pos_iff.mpr (hall m hm))
      · rw [List.count_eq_zero_of_not_mem hm]
        exact Nat.zero_le _
    have heq := (count_eq_iff_le total.symm).mpr hle n
    have honce := hcount n
    omega

/-! ### What a verdict vouches for -/

/-- If all reports are on telecommands that were sent, the reports of an outcome are counted. -/
theorem length_reported {sent : List Telecommand.Info} {packets : List Packet}
    (matched : ∀ v ∈ verifications packets, Counts.isMatched sent v = true)
    (outcome : Verification.Outcome) : (reported outcome packets).length =
      (verifications packets).countP fun v => Counts.isMatched sent v && v.outcome = outcome := by
  rw [reported, List.length_map, ← List.countP_eq_length_filter]
  refine List.countP_congr fun v hv => ?_
  rw [matched v hv, Bool.true_and]

theorem mem_of_mem_reported {sent : List Telecommand.Info} {packets : List Packet}
    (matched : ∀ v ∈ verifications packets, Counts.isMatched sent v = true)
    {outcome : Verification.Outcome} {n : Name} (mem : n ∈ reported outcome packets) :
    n ∈ sent.map nameOf := by
  obtain ⟨v, hv, rfl⟩ := List.mem_map.mp mem
  exact isMatched_iff.mp (matched v (List.mem_filter.mp hv).1)

namespace Verdict

variable {test : ServiceTest} {sent : List Telecommand.Info} {received : List Packet.Batch}

/-- **A test that is OK has no packets and reports that it should not have.** -/
theorem isOk_clean (noFailures : test.expectation.failures = 0)
    (ok : (make test sent received).isOk = true) :
    (∀ p ∈ received.flatten, p.valid = true) ∧
      ∀ v ∈ verifications received.flatten,
        Counts.isMatched sent v = true ∧ v.outcome.isFailure = false := by
  obtain ⟨-, -, hfailures, -, -, -, -, hunmatched, hinvalid⟩ := (isOk_iff _).mp ok
  have hnoFailures : (Counts.ofPackets sent test.scan received.flatten).failures = 0 :=
    hfailures.trans noFailures
  have hnoUnmatched : (Counts.ofPackets sent test.scan received.flatten).unmatched = 0 := hunmatched
  have hnoInvalid : (Counts.ofPackets sent test.scan received.flatten).invalid = 0 := hinvalid
  rw [Counts.ofPackets_failures, List.countP_eq_zero] at hnoFailures
  rw [Counts.ofPackets_unmatched, List.countP_eq_zero] at hnoUnmatched
  rw [Counts.ofPackets_invalid, List.countP_eq_zero] at hnoInvalid
  constructor
  · intro p hp
    simpa using hnoInvalid p hp
  · intro v hv
    have hmatched : Counts.isMatched sent v = true := by simpa using hnoUnmatched v hv
    have hsuccess := hnoFailures v hv
    rw [hmatched, Bool.true_and] at hsuccess
    exact ⟨hmatched, Bool.eq_false_iff.mpr hsuccess⟩

/-- **What an OK vouches for.**  In a test in which no telecommand is expected to fail or to remain
incomplete, a verdict that is OK says that all packets are valid, that every verification report is
a success of a telecommand that was sent, and that there are as many acceptances as telecommands,
and as many completions.  It compares these totals only: the reports are those of the telecommands,
each as often as it was sent, if and only if no telecommand is reported more often than it was sent.
If all telecommands have different names, then one of them remains without a report exactly if
another one is reported twice. -/
theorem isOk_totals (noFailures : test.expectation.failures = 0)
    (allComplete : test.expectation.missingCompletion = 0)
    (ok : (make test sent received).isOk = true) :
    (∀ p ∈ received.flatten, p.valid = true) ∧
      (∀ v ∈ verifications received.flatten,
        subject v ∈ sent.map nameOf ∧ v.outcome.isFailure = false) ∧
      ∀ outcome, outcome = .acceptanceSuccess ∨ outcome = .completionSuccess →
        let names := reported outcome received.flatten
        names.length = sent.length ∧
          ((∀ n, names.count n = (sent.map nameOf).count n) ↔
            ∀ n, names.count n ≤ (sent.map nameOf).count n) ∧
          ((sent.map nameOf).Nodup →
            ((∃ info ∈ sent, nameOf info ∉ names) ↔ ∃ n, 2 ≤ names.count n)) := by
  obtain ⟨hvalid, hreports⟩ := isOk_clean noFailures ok
  have hmatched : ∀ v ∈ verifications received.flatten, Counts.isMatched sent v = true :=
    fun v hv => (hreports v hv).1
  refine ⟨hvalid, fun v hv => ⟨isMatched_iff.mp (hmatched v hv), (hreports v hv).2⟩, ?_⟩
  intro outcome houtcome names
  -- The verdict compares numbers only, and without failures as many are expected as were sent.
  have htotal : names.length = sent.length := by
    obtain ⟨hcompletion, hacceptance, -⟩ := (isOk_iff _).mp ok
    have hlength := length_reported hmatched outcome
    rw [hlength]
    obtain rfl | rfl := houtcome
    · rw [← Counts.ofPackets_acceptance sent test.scan]
      exact hacceptance.trans (by rw [make, noFailures]; rfl)
    · rw [← Counts.ofPackets_completion sent test.scan]
      exact hcompletion.trans (by rw [make, allComplete]; rfl)
  have hnames : names.length = (sent.map nameOf).length := by rw [htotal, List.length_map]
  refine ⟨htotal, count_eq_iff_le hnames, fun distinct => ?_⟩
  rw [← exists_missing_iff hnames (fun n hn => mem_of_mem_reported hmatched hn) distinct]
  constructor
  · rintro ⟨info, hinfo, hmissing⟩
    exact ⟨nameOf info, List.mem_map_of_mem hinfo, hmissing⟩
  · rintro ⟨n, hn, hmissing⟩
    obtain ⟨info, hinfo, rfl⟩ := List.mem_map.mp hn
    exact ⟨info, hinfo, hmissing⟩

/-- The totals do not tell two telecommands apart: the first one is reported twice, the second one
not at all, and the test is OK. -/
theorem isOk_totals_doubled :
    let first : Telecommand.Info := ⟨17, 1, 1, 0x1873, []⟩
    let second : Telecommand.Info := ⟨17, 1, 2, 0x1873, []⟩
    let test : ServiceTest :=
      ⟨.test, Procedure.test, ServiceTest.uniform 4 1, {}, .eventsAndPings⟩
    let report (subservice : UInt8) : Bytes :=
      (Verification.toTelemetry 0x73 0 first subservice none).octets
    let received := [Packet.decodeAll [report 1, report 7], Packet.decodeAll [report 1, report 7]]
    (make test [first, second] received).isOk = true ∧
      (reported .acceptanceSuccess received.flatten).length = 2 ∧
      nameOf second ∉ reported .acceptanceSuccess received.flatten ∧
      ∃ n, 2 ≤ (reported .acceptanceSuccess received.flatten).count n := by
  intro first second test report received
  have hok : (make test [first, second] received).isOk = true := by decide +kernel
  have hnoFailures : test.expectation.failures = 0 := rfl
  obtain ⟨-, -, htotals⟩ := isOk_totals hnoFailures rfl hok
  obtain ⟨htotal, -, htwice⟩ := htotals .acceptanceSuccess (.inl rfl)
  have hmissing : nameOf second ∉ reported .acceptanceSuccess received.flatten := by
    decide +kernel
  have hdistinct : ([first, second].map nameOf).Nodup := by decide
  have hmem : second ∈ [first, second] := List.mem_cons_of_mem _ List.mem_cons_self
  exact ⟨hok, htotal, hmissing, (htwice hdistinct).mp ⟨second, hmem, hmissing⟩⟩

end Verdict

end GroundLink.Client
