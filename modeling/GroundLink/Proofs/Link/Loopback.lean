import GroundLink.Link.Loopback
import GroundLink.Proofs.Packet.RoundTrip

/-!
# What a loopback link answers

A loopback link answers every telecommand at once, and keeps the replies until it is polled.
However telecommands and polls follow each other, what the polls receive and what is still pending
are the replies to all telecommands, in the order in which these were sent
(`Link.Loopback.run_holding`).

The replies are numbered consecutively through the whole run, also where the count wraps around
(`Link.Loopback.sequence_numbered`), and nothing else about them depends on their number
(`Link.Loopback.content_numbered`).
-/

namespace GroundLink

open Packet

/-! ### Telemetry that fits into a packet -/

namespace Telemetry

def octets (t : Telemetry) : Bytes :=
  Checksum.close t.covered

variable {t : Telemetry}

theorem toBytes?_eq_octets (fits : t.data.length ≤ maxData) : t.toBytes? = .ok t.octets :=
  if_pos fits

/-- **A lenient receiver reads what was sent.** -/
theorem decodeLenient_octets (fits : t.data.length ≤ maxData) :
    (decodeLenient t.octets).header = t.header ∧ (decodeLenient t.octets).service = t.service ∧
      (decodeLenient t.octets).subservice = t.subservice ∧
      (decodeLenient t.octets).data = t.data ∧ (decodeLenient t.octets).valid = true := by
  have hdecode := decode_close_append fits []
  rw [List.append_nil] at hdecode
  unfold decodeLenient octets
  rw [hdecode]
  exact ⟨rfl, rfl, rfl, rfl, rfl⟩

end Telemetry

namespace Link.Loopback

open Telemetry (octets)

/-! ### Replies and their numbers -/

/-- The replies to a telecommand, before they are numbered. -/
def repliesTo (apid : UInt16) (info : Telecommand.Info) : List Telemetry :=
  if info.service = 17 ∨ info.service = 5 then
    Verification.toTelemetry apid 0 info 1 none ::
      ((if info.service = 17 ∧ info.subservice = 1 then [pingReply apid 0] else []) ++
        [Verification.toTelemetry apid 0 info 7 none])
  else []

/-- Telemetry with the number `k`, modulo the width of the sequence count. -/
def withNumber (k : Nat) (t : Telemetry) : Telemetry :=
  { t with sequence := UInt16.ofNat (k % 16384) }

/-- Numbers telemetry consecutively. -/
def numbered (k : Nat) : List Telemetry → List Telemetry
  | [] => []
  | t :: rest => withNumber k t :: numbered (k + 1) rest

/-- The sequence count after `k` replies. -/
def count (k : Nat) : SequenceCount := ⟨k % 16384, Nat.mod_lt k (by decide)⟩

/-- A link that has made `k` replies so far, of which some are pending. -/
def holding (apid : UInt16) (k : Nat) (pending : List Bytes) : Loopback :=
  ⟨apid, count k, pending⟩

variable {apid : UInt16} {k : Nat} {pending : List Bytes}

theorem numbered_append (k : Nat) (ts us : List Telemetry) :
    numbered k (ts ++ us) = numbered k ts ++ numbered (k + ts.length) us := by
  induction ts generalizing k with
  | nil => rfl
  | cons t rest ih =>
    have hcount : k + 1 + rest.length = k + (t :: rest).length := by
      rw [List.length_cons]
      omega
    rw [List.cons_append, numbered, ih, hcount]
    rfl

/-- The greatest number is followed by the first one. -/
theorem next_count (k : Nat) :
    SequenceCount.next (count k) = count (k + 1) := by
  refine Fin.ext ?_
  simp [SequenceCount.next, count, Fin.val_add]

/-- A reply is made with the next number, and waits behind those that are pending. -/
theorem reply_holding (apid : UInt16) (k : Nat) (pending : List Bytes) (make : UInt16 → Telemetry)
    (fits : (make (UInt16.ofNat (k % 16384))).data.length ≤ Telemetry.maxData) :
    (holding apid k pending).reply make =
      holding apid (k + 1) (pending ++ [octets (make (UInt16.ofNat (k % 16384)))]) := by
  have hnumber : (holding apid k pending).next.val = k % 16384 := rfl
  unfold reply
  rw [hnumber, Telemetry.toBytes?_eq_octets fits]
  dsimp only [holding]
  rw [next_count]

/-- A verification report has room in a packet. -/
theorem report_fits (apid n : UInt16) (info : Telecommand.Info) (subservice : UInt8) :
    (Verification.toTelemetry apid n info subservice none).data.length ≤ Telemetry.maxData := by
  have hlength : (Verification.toTelemetry apid n info subservice none).data.length = 4 := rfl
  have hmax : Telemetry.maxData = 65523 := rfl
  omega

theorem repliesTo_fits {info : Telecommand.Info} : ∀ t ∈ repliesTo apid info,
    t.data.length ≤ Telemetry.maxData := by
  intro t ht
  have hping : (pingReply apid 0).data.length ≤ Telemetry.maxData := Nat.zero_le _
  have haccepted := report_fits apid 0 info 1
  have hcompleted := report_fits apid 0 info 7
  unfold repliesTo at ht
  split_ifs at ht with hanswered hisPing
  · simp only [List.singleton_append, List.mem_cons, List.not_mem_nil, or_false] at ht
    rcases ht with rfl | rfl | rfl
    · exact haccepted
    · exact hping
    · exact hcompleted
  · simp only [List.nil_append, List.mem_cons, List.not_mem_nil, or_false] at ht
    rcases ht with rfl | rfl
    · exact haccepted
    · exact hcompleted
  · exact absurd ht List.not_mem_nil

theorem answers_iff (service : UInt8) : answers service = true ↔ service = 17 ∨ service = 5 := by
  rw [answers, Bool.or_eq_true, decide_eq_true_iff, decide_eq_true_iff]
  exact Iff.rfl

theorem isPing_iff (info : Telecommand.Info) :
    isPing info = true ↔ info.service = 17 ∧ info.subservice = 1 := by
  rw [isPing, Bool.and_eq_true, decide_eq_true_iff, decide_eq_true_iff]
  exact Iff.rfl

@[simp] theorem reply_apid (l : Loopback) (make : UInt16 → Telemetry) :
    (l.reply make).apid = l.apid := by
  unfold reply
  split <;> rfl

/-- Adds given telemetry with the next number. -/
def queue (l : Loopback) (t : Telemetry) : Loopback :=
  l.reply fun n => { t with sequence := n }

/-- Telemetry that waits is numbered consecutively. -/
theorem queue_holding {ts : List Telemetry} (fits : ∀ t ∈ ts, t.data.length ≤ Telemetry.maxData) :
    ts.foldl queue (holding apid k pending) =
      holding apid (k + ts.length) (pending ++ (numbered k ts).map octets) := by
  induction ts generalizing k pending with
  | nil => simp [numbered]
  | cons t rest ih =>
    have hreply := reply_holding apid k pending
      (fun n => { t with sequence := n }) (fits t List.mem_cons_self)
    have hcount : k + 1 + rest.length = k + (t :: rest).length := by
      rw [List.length_cons]
      omega
    rw [List.foldl_cons, queue, hreply, ih fun u hu => fits u (List.mem_cons_of_mem t hu), hcount]
    simp [numbered, withNumber]

/-- **A telecommand is answered** by its replies one after another. -/
theorem send_eq (l : Loopback) (tc : Telecommand.Packed) :
    (l.send tc).result = .ok () ∧ (l.send tc).link = (repliesTo l.apid tc.info).foldl queue l := by
  unfold send repliesTo
  dsimp only
  by_cases hanswered : tc.info.service = 17 ∨ tc.info.service = 5
  case neg =>
    have hsilent : ¬ answers tc.info.service = true := mt (answers_iff _).mp hanswered
    rw [if_neg hsilent, if_neg hanswered]
    exact ⟨rfl, rfl⟩
  case pos =>
    rw [if_pos ((answers_iff _).mpr hanswered), if_pos hanswered]
    by_cases hisPing : tc.info.service = 17 ∧ tc.info.subservice = 1
    case pos =>
      rw [if_pos ((isPing_iff _).mpr hisPing), if_pos hisPing, reply_apid, reply_apid]
      exact ⟨rfl, rfl⟩
    case neg =>
      rw [if_neg (mt (isPing_iff _).mp hisPing), if_neg hisPing, reply_apid]
      exact ⟨rfl, rfl⟩

/-- The replies to a telecommand take the next numbers. -/
theorem send_holding (apid : UInt16) (k : Nat) (pending : List Bytes) (tc : Telecommand.Packed) :
    ((holding apid k pending).send tc).link =
      holding apid (k + (repliesTo apid tc.info).length)
        (pending ++ (numbered k (repliesTo apid tc.info)).map octets) := by
  have hsent := (send_eq (holding apid k pending) tc).2
  rw [hsent]
  exact queue_holding repliesTo_fits

/-! ### Using a link -/

inductive Use where
  | send (tc : Telecommand)
  | poll

def Use.info? : Use → Option Telecommand.Info
  | .send tc => some tc.info
  | .poll => none

/-- Uses a link, and collects what the polls receive. -/
def run (l : Loopback) : List Use → Except Error (List Batch × Loopback)
  | [] => .ok ([], l)
  | .send tc :: rest => do
    let _ ← (l.send tc.pack).result
    run (l.send tc.pack).link rest
  | .poll :: rest => do
    let (_, batch) ← l.poll.result
    let (batches, last) ← run l.poll.link rest
    return (batch :: batches, last)

/-- **The replies to all telecommands of a run**, in the order in which these are sent. -/
def replies (apid : UInt16) (uses : List Use) : List Telemetry :=
  (uses.filterMap Use.info?).flatMap (repliesTo apid)

theorem replies_send (tc : Telecommand) (rest : List Use) :
    replies apid (.send tc :: rest) = repliesTo apid tc.info ++ replies apid rest := rfl

theorem replies_poll (rest : List Use) : replies apid (.poll :: rest) = replies apid rest := rfl

theorem replies_fits {uses : List Use} : ∀ t ∈ replies apid uses,
    t.data.length ≤ Telemetry.maxData := by
  intro t ht
  obtain ⟨info, -, hreply⟩ := List.mem_flatMap.mp ht
  exact repliesTo_fits t hreply

@[simp] theorem send_result (l : Loopback) (tc : Telecommand.Packed) :
    (l.send tc).result = .ok () := (send_eq l tc).1

@[simp] theorem poll_result (l : Loopback) :
    l.poll.result = .ok (!l.pending.isEmpty, decodeAll l.pending) := rfl

/-- **No use of a link fails.**  What the polls receive and what is still pending at the end are the
replies that were pending before and those to all telecommands. -/
theorem run_holding (apid : UInt16) (k : Nat) (pending : List Bytes) (uses : List Use) :
    ∃ batches left,
    run (holding apid k pending) uses =
      .ok (batches, holding apid (k + (replies apid uses).length) left) ∧
    batches.flatten ++ decodeAll left =
      decodeAll (pending ++ (numbered k (replies apid uses)).map octets) := by
  induction uses generalizing k pending with
  | nil => exact ⟨[], pending, rfl, by simp [replies, numbered]⟩
  | cons use rest ih =>
    cases use with
    -- The replies of this telecommand are numbered first, and the rest goes on behind them.
    | send tc =>
      obtain ⟨batches, left, hrun, hreceived⟩ := ih (k + (repliesTo apid tc.info).length)
        (pending ++ (numbered k (repliesTo apid tc.info)).map octets)
      have hlink := send_holding apid k pending tc.pack
      have hinfo : tc.pack.info = tc.info := rfl
      rw [hinfo] at hlink
      refine ⟨batches, left, ?_, ?_⟩
      · simp only [run, send_result, hlink, bind, Except.bind]
        rw [hrun, replies_send, List.length_append, Nat.add_assoc]
      · rw [hreceived, replies_send, numbered_append, List.map_append, List.append_assoc]
    -- What was pending comes out now, and the rest starts with nothing pending.
    | poll =>
      obtain ⟨batches, left, hrun, hreceived⟩ := ih k []
      have hlink : (holding apid k pending).poll.link = holding apid k [] := rfl
      refine ⟨decodeAll pending :: batches, left, ?_, ?_⟩
      · simp only [run, poll_result, hlink, bind, Except.bind]
        rw [hrun, replies_poll]
        rfl
      · rw [List.flatten_cons, List.append_assoc, hreceived, replies_poll]
        simp [decodeAll]

/-- One more poll receives what a run leaves pending. -/
theorem run_poll {l last : Loopback} {uses : List Use} {batches : List Batch}
    (hrun : run l uses = .ok (batches, last)) :
    run l (uses ++ [.poll]) =
      .ok (batches ++ [decodeAll last.pending], { last with pending := [] }) := by
  induction uses generalizing l batches with
  | nil =>
    obtain ⟨rfl, rfl⟩ : [] = batches ∧ l = last := by simpa [run] using hrun
    rfl
  | cons use rest ih =>
    cases use with
    | send tc =>
      simp only [run, send_result, bind, Except.bind] at hrun
      simp only [List.cons_append, run, send_result, bind, Except.bind]
      exact ih hrun
    | poll =>
      simp only [run, poll_result, bind, Except.bind] at hrun
      cases hrest : run l.poll.link rest with
      | error cause =>
        rw [hrest] at hrun
        cases hrun
      | ok received =>
        rw [hrest] at hrun
        cases hrun
        simp only [List.cons_append, run, poll_result, bind, Except.bind, ih hrest]
        rfl

/-! ### What is received -/

/-- A number is cut to the width of the sequence count once. -/
theorem ofWord_ofNat (k : Nat) :
    (SequenceCount.ofWord (UInt16.ofNat (k % 16384))).val = k % 2 ^ 14 := by
  have hword : (UInt16.ofNat (k % 16384)).toNat = k % 16384 := by
    rw [UInt16.toNat_ofNat']
    omega
  have hval : (SequenceCount.ofWord (UInt16.ofNat (k % 16384))).val = k % 16384 % 16384 := by
    rw [SequenceCount.ofWord, hword, Fin.val_ofNat]
  omega

/-- **What a receiver makes of numbered telemetry**, one packet after the other: what is seen of a
packet is decided by its number and the telemetry in it. -/
theorem map_numbered {α : Type} (seen : Packet → α) (expected : Nat → Telemetry → α)
    (h : ∀ k t, t.data.length ≤ Telemetry.maxData →
      seen (decodeLenient (withNumber k t).octets) = expected k t)
    {ts : List Telemetry} (fits : ∀ t ∈ ts, t.data.length ≤ Telemetry.maxData) :
    (decodeAll ((numbered k ts).map octets)).map seen =
      (ts.zipIdx k).map fun x => expected x.2 x.1 := by
  induction ts generalizing k with
  | nil => rfl
  | cons t rest ih =>
    have hfirst := h k t (fits t List.mem_cons_self)
    have hrest := ih (k := k + 1) fun u hu => fits u (List.mem_cons_of_mem t hu)
    rw [List.zipIdx_cons, List.map_cons, ← hrest, ← hfirst]
    rfl

/-- The packets that a receiver makes of numbered telemetry are valid. -/
theorem valid_numbered {ts : List Telemetry} (fits : ∀ t ∈ ts, t.data.length ≤ Telemetry.maxData) :
    ∀ p ∈ decodeAll ((numbered k ts).map octets), p.valid = true := by
  have hvalid := map_numbered (k := k) Packet.valid (fun _ _ => true) (fun n t hfits => by
    have hread := Telemetry.decodeLenient_octets (t := withNumber n t) hfits
    exact hread.2.2.2.2) fits
  intro p hp
  have hmem : p.valid ∈ (decodeAll ((numbered k ts).map octets)).map Packet.valid :=
    List.mem_map_of_mem hp
  rw [hvalid] at hmem
  obtain ⟨-, -, htrue⟩ := List.mem_map.mp hmem
  exact htrue.symm

/-- **The numbers are consecutive**, and follow the greatest one by the first one. -/
theorem sequence_numbered {ts : List Telemetry}
    (fits : ∀ t ∈ ts, t.data.length ≤ Telemetry.maxData) :
    (decodeAll ((numbered k ts).map octets)).map (·.header.sequence.val) =
      (List.range' k ts.length).map (· % 2 ^ 14) := by
  have hnumbers := map_numbered (k := k) (·.header.sequence.val) (fun n _ => n % 2 ^ 14)
    (fun n t hfits => by
      have hread := Telemetry.decodeLenient_octets (t := withNumber n t) hfits
      rw [hread.1]
      exact ofWord_ofNat n) fits
  rw [hnumbers, ← List.zipIdx_map_snd k ts, List.map_map]
  rfl

/-- What a packet reports, its number apart. -/
def content (p : Packet) : UInt8 × UInt8 × Bytes := (p.service, p.subservice, p.data)

/-- **The number does not change what is reported.** -/
theorem content_numbered {ts : List Telemetry}
    (fits : ∀ t ∈ ts, t.data.length ≤ Telemetry.maxData) :
    (decodeAll ((numbered k ts).map octets)).map content =
      ts.map fun t => (t.service, t.subservice, t.data) := by
  have hcontent := map_numbered (k := k) content (fun _ t => (t.service, t.subservice, t.data))
    (fun n t hfits => by
      have hread := Telemetry.decodeLenient_octets (t := withNumber n t) hfits
      unfold content
      rw [hread.2.1, hread.2.2.1, hread.2.2.2.1]
      rfl) fits
  have htelemetry : (ts.zipIdx k).map Prod.fst = ts := List.zipIdx_map_fst k ts
  rw [hcontent]
  conv_rhs => rw [← htelemetry]
  rw [List.map_map]
  rfl

end Link.Loopback

end GroundLink
