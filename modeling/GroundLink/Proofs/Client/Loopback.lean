import GroundLink.Client.Verdict
import GroundLink.Proofs.Link.Loopback
import Mathlib.Algebra.BigOperators.Group.List.Basic

/-!
# Testing against a loopback link

What the loopback link replies is read back as reports on the very telecommands that were sent, and
the verdict on a test counts all of them and nothing else (`Client.loopback_counts`).

* `Verification.ofData?_toTelemetry`: a verification report names its telecommand, whatever it says.
* `Client.told` is what the user is told about one telecommand, `Client.told_eq` that the replies
  say so.
* `Client.Counts.ofPackets_valid`: the counts of valid packets are a sum over what these report.
-/

namespace GroundLink

open Packet

/-! ### Reading verification reports -/

namespace Verification

variable {info : Telecommand.Info} (apid n : UInt16) (subservice : UInt8)

/-- The sequence flags do not disturb the sequence count. -/
theorem ofWord_sequenceControl (sequence : UInt16) :
    SequenceCount.ofWord (sequenceControl sequence) = SequenceCount.ofWord sequence := by
  refine Fin.ext ?_
  have hbound := (SequenceCount.ofWord sequence).isLt
  have hword : (sequenceControl sequence).toNat =
      3 * 16384 + (SequenceCount.ofWord sequence).val := by
    rw [sequenceControl, UInt16.toNat_ofNat', Segment.code]
    omega
  have hval : (SequenceCount.ofWord (sequenceControl sequence)).val =
      (sequenceControl sequence).toNat % 16384 := rfl
  rw [hval, hword]
  omega

/-- **A verification report names its telecommand**, whatever it says about it. -/
theorem ofData?_toTelemetry (info : Telecommand.Info) (failure : Option Failure) :
    let data := (toTelemetry apid n info subservice failure).data
    ofData? subservice data = (Outcome.ofData? subservice data).map fun outcome =>
      ⟨info.packetId, UInt16.ofNat (SequenceCount.ofWord info.sequence).val, outcome⟩ := by
  intro data
  have hid : data.word16At? 0 = some info.packetId :=
    Bytes.word16At?_append [] info.packetId _
  have hcontrol : data.word16At? 2 = some (sequenceControl info.sequence) :=
    Bytes.word16At?_append (Bytes.ofWord16 info.packetId) (sequenceControl info.sequence) _
  unfold ofData?
  rw [hid, hcontrol]
  simp only [Option.bind_eq_bind, Option.bind_some, ofWord_sequenceControl]
  cases Outcome.ofData? subservice data <;> rfl

end Verification

namespace Client

open Link.Loopback (Use content repliesTo replies numbered holding)

/-! ### What is told about a telecommand -/

/-- What a packet is for the user: service, subservice and report. -/
abbrev View := UInt8 × UInt8 × Report

def viewOf (c : UInt8 × UInt8 × Bytes) : View :=
  (c.1, c.2.1, match Service.ofCode? c.1.toNat with
    | some service => (Report.ofService? service c.2.1 c.2.2).getD .generic
    | none => .generic)

/-- What the user sees of a packet. -/
def view (p : Packet) : View := (p.service, p.subservice, Report.ofPacket p)

/-- The number of a packet is not seen. -/
theorem view_eq (p : Packet) : view p = viewOf (content p) := rfl

/-- **What the user is told about a telecommand**: that it was accepted, the answer to a ping, and
that it was completed. -/
def told (info : Telecommand.Info) : List View :=
  if info.service = 17 ∨ info.service = 5 then
    (1, 1, .verification ⟨info.packetId, info.sequence, .acceptanceSuccess⟩) ::
      ((if info.service = 17 ∧ info.subservice = 1 then [(17, 2, .generic)] else []) ++
        [(1, 7, .verification ⟨info.packetId, info.sequence, .completionSuccess⟩)])
  else []

/-- The record of a telecommand holds its sequence count, which has the width of the field. -/
theorem sequence_info (tc : Telecommand) :
    UInt16.ofNat (SequenceCount.ofWord tc.info.sequence).val = tc.info.sequence := by
  have hbound := tc.sequence.isLt
  have hword : tc.info.sequence = UInt16.ofNat tc.sequence.val := rfl
  have hcount : SequenceCount.ofWord tc.info.sequence = tc.sequence := by
    refine Fin.ext ?_
    rw [hword, SequenceCount.ofWord, Fin.val_ofNat, UInt16.toNat_ofNat']
    omega
  rw [hcount, hword]

/-- **The replies say so.** -/
theorem told_eq (apid : UInt16) (tc : Telecommand) :
    (repliesTo apid tc.info).map (fun t => viewOf (t.service, t.subservice, t.data)) =
      told tc.info := by
  have hreport (subservice : UInt8) (outcome : Verification.Outcome)
      (houtcome : ∀ data, Verification.Outcome.ofData? subservice data = some outcome) :
      viewOf (1, subservice, (Verification.toTelemetry apid 0 tc.info subservice none).data) =
        (1, subservice, .verification ⟨tc.info.packetId, tc.info.sequence, outcome⟩) := by
    have hread := Verification.ofData?_toTelemetry apid 0 subservice tc.info none
    dsimp only at hread
    rw [houtcome, Option.map_some, sequence_info] at hread
    have hview : viewOf (1, subservice,
        (Verification.toTelemetry apid 0 tc.info subservice none).data) =
      (1, subservice, ((Verification.ofData? subservice
        (Verification.toTelemetry apid 0 tc.info subservice none).data).map
          Report.verification).getD .generic) := rfl
    rw [hview, hread]
    rfl
  have haccepted := hreport 1 .acceptanceSuccess fun _ => rfl
  have hcompleted := hreport 7 .completionSuccess fun _ => rfl
  unfold repliesTo told
  split_ifs
  · exact congrArg₂ List.cons haccepted (congrArg (_ :: ·) (congrArg ([·]) hcompleted))
  · exact congrArg₂ List.cons haccepted (congrArg ([·]) hcompleted)
  · rfl

/-! ### Counting -/

namespace Counts

variable (sent : List Telecommand.Info) (scan : Scan)

theorem add_def (a b : Counts) : a + b = ⟨a.acceptance + b.acceptance, a.start + b.start,
    a.steps + b.steps, a.completion + b.completion, a.failures + b.failures, a.events + b.events,
    a.misc + b.misc, a.dataReplies + b.dataReplies, a.unmatched + b.unmatched,
    a.invalid + b.invalid⟩ := rfl

theorem zero_def : (0 : Counts) = ⟨0, 0, 0, 0, 0, 0, 0, 0, 0, 0⟩ := rfl

instance : AddMonoid Counts where
  add_assoc a b c := by simp only [add_def, Nat.add_assoc]
  zero_add a := by simp only [add_def, zero_def, Nat.zero_add]
  add_zero a := by simp only [add_def, zero_def, Nat.add_zero]
  nsmul := nsmulRec

def ofView (v : View) : Counts := ofReport sent scan v.2.2 + ofReply scan v.1 v.2.1

/-- **Valid packets count for what the user sees of them.** -/
theorem ofPackets_valid {packets : List Packet} (valid : ∀ p ∈ packets, p.valid = true) :
    ofPackets sent scan packets = ((packets.map view).map (ofView sent scan)).sum := by
  have hpacket : packets.map (ofPacket sent scan) = (packets.map view).map (ofView sent scan) := by
    rw [List.map_map]
    exact List.map_congr_left fun p hp => if_pos (valid p hp)
  have hcounts : ofPackets sent scan packets = (packets.map (ofPacket sent scan)).sum := rfl
  rw [hcounts, hpacket]

/-- Every answered telecommand is accepted and completed, and every ping is replied to. -/
def answered (infos : List Telecommand.Info) : Counts where
  acceptance := infos.countP fun i => i.service = 17 ∨ i.service = 5
  completion := infos.countP fun i => i.service = 17 ∨ i.service = 5
  misc := infos.countP fun i => i.service = 17 ∧ i.subservice = 1

theorem answered_cons (info : Telecommand.Info) (rest : List Telecommand.Info) :
    answered (info :: rest) = answered [info] + answered rest := by
  simp [answered, add_def, List.countP_cons, Nat.add_comm]

variable {sent}

/-- A report on a telecommand that was sent is matched. -/
theorem ofReport_matched {info : Telecommand.Info} (mem : info ∈ sent)
    (outcome : Verification.Outcome) :
    ofReport sent scan (.verification ⟨info.packetId, info.sequence, outcome⟩) =
      ofOutcome outcome := by
  have hmatched : isMatched sent ⟨info.packetId, info.sequence, outcome⟩ = true := by
    rw [isMatched, List.any_eq_true]
    exact ⟨info, mem, by simp⟩
  exact if_pos hmatched

/-- What is told about one telecommand. -/
theorem sum_told {info : Telecommand.Info} (mem : info ∈ sent) :
    ((told info).map (ofView sent .eventsAndPings)).sum = answered [info] := by
  have haccepted : ofView sent .eventsAndPings
      (1, 1, .verification ⟨info.packetId, info.sequence, .acceptanceSuccess⟩) =
        { acceptance := 1 } := by
    rw [ofView, ofReport_matched _ mem]
    rfl
  have hcompleted : ofView sent .eventsAndPings
      (1, 7, .verification ⟨info.packetId, info.sequence, .completionSuccess⟩) =
        { completion := 1 } := by
    rw [ofView, ofReport_matched _ mem]
    rfl
  have hreplied : ofView sent .eventsAndPings (17, 2, .generic) = { misc := 1 } := rfl
  unfold told answered
  by_cases hanswered : info.service = 17 ∨ info.service = 5
  case neg =>
    have hnoPing : ¬ (info.service = 17 ∧ info.subservice = 1) := fun h => hanswered (.inl h.1)
    simp [hanswered, hnoPing, zero_def]
  case pos =>
    by_cases hping : info.service = 17 ∧ info.subservice = 1
    case pos => simp [hping, haccepted, hcompleted, hreplied, add_def]
    case neg => simp [hanswered, hping, haccepted, hcompleted, add_def]

/-- What is told about some of the telecommands that were sent. -/
theorem sum_flatMap_told {infos : List Telecommand.Info} (mem : ∀ i ∈ infos, i ∈ sent) :
    ((infos.flatMap told).map (ofView sent .eventsAndPings)).sum = answered infos := by
  induction infos with
  | nil => rfl
  | cons info rest ih =>
    have hfirst := sum_told (mem info List.mem_cons_self)
    have hrest := ih fun i hi => mem i (List.mem_cons_of_mem info hi)
    rw [List.flatMap_cons, List.map_append, List.sum_append, hfirst, hrest]
    exact (answered_cons info rest).symm

end Counts

/-! ### The whole test -/

/-- What the user sees of the replies to the telecommands of a run. -/
theorem view_replies (apid : UInt16) (uses : List Use) :
    (replies apid uses).map (fun t => viewOf (t.service, t.subservice, t.data)) =
      (uses.filterMap Use.info?).flatMap told := by
  induction uses with
  | nil => rfl
  | cons use rest ih =>
    cases use with
    | send tc =>
      rw [Link.Loopback.replies_send, List.map_append, told_eq, ih]
      rfl
    | poll => exact ih

/-- **A test against a loopback link.**  However telecommands and polls follow each other, no use of
the link fails, and after one more poll everything is received.  The received packets are valid;
they tell of every telecommand of the test and the event service, in the order of sending, that it
was accepted and completed, with the reply to a ping in between, and of no other one; their sequence
counts run through all fourteen bits again and again; and they are counted as just these reports. -/
theorem loopback_counts (apid : UInt16) (uses : List Use) : ∃ batches more l last,
    Link.Loopback.run (.make apid) uses = .ok (batches, l) ∧
    Link.Loopback.run (.make apid) (uses ++ [.poll]) = .ok (batches ++ [more], last) ∧
    let received := (batches ++ [more]).flatten
    let sent := uses.filterMap Use.info?
    (∀ p ∈ received, p.valid = true) ∧
    received.map view = sent.flatMap told ∧
    received.map (·.header.sequence.val) = (List.range received.length).map (· % 2 ^ 14) ∧
    Counts.ofPackets sent .eventsAndPings received =
      { acceptance := sent.countP fun i => i.service = 17 ∨ i.service = 5
        completion := sent.countP fun i => i.service = 17 ∨ i.service = 5
        misc := sent.countP fun i => i.service = 17 ∧ i.subservice = 1 } := by
  obtain ⟨batches, left, hrun, hreceived⟩ :=
    Link.Loopback.run_holding apid 0 [] uses
  have hmake : Link.Loopback.make apid = holding apid 0 [] := rfl
  have hfits : ∀ t ∈ replies apid uses, t.data.length ≤ Telemetry.maxData :=
    Link.Loopback.replies_fits
  -- The last poll takes what is left, so that nothing is missing.
  have hall : (batches ++ [decodeAll left]).flatten =
      decodeAll ((numbered 0 (replies apid uses)).map Telemetry.octets) := by
    rw [List.flatten_append, ← List.nil_append ((numbered 0 _).map _), ← hreceived]
    simp
  have hvalid := Link.Loopback.valid_numbered (k := 0) hfits
  have hsequence := Link.Loopback.sequence_numbered (k := 0) hfits
  have hcontent := Link.Loopback.content_numbered (k := 0) hfits
  have hview : (decodeAll ((numbered 0 (replies apid uses)).map Telemetry.octets)).map view =
      (uses.filterMap Use.info?).flatMap told := by
    have hviews : view = viewOf ∘ content := funext view_eq
    rw [← view_replies apid, hviews, ← List.map_map, hcontent, List.map_map]
    rfl
  -- As many packets as replies, hence the range over the packets that were received.
  have hlength := congrArg List.length hsequence
  rw [List.length_map, List.length_map, List.length_range'] at hlength
  refine ⟨batches, decodeAll left, _, _, hrun, Link.Loopback.run_poll hrun, ?_⟩
  dsimp only
  rw [hall, hlength, List.range_eq_range', Counts.ofPackets_valid _ _ hvalid, hview]
  exact ⟨hvalid, rfl, hsequence, Counts.sum_flatMap_told fun _ hi => hi⟩

end Client

end GroundLink
