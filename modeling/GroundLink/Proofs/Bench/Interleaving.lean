import GroundLink.Proofs.Bench.World
import GroundLink.Proofs.Listener.Batches
import GroundLink.Proofs.Listener.Reports
import GroundLink.Proofs.Sender.Rounds

/-!
# A reply that is found means telemetry

A listener tells of replies in two ways: it stores a batch in the telemetry queue, and it puts a
report into the reply channel.  The two are apart, and a sender uses them at different times: it
looks for a report while its telecommand waits, and takes the telemetry when the wait is over.
Still, a report that is found means that there is telemetry to take, in whatever order the deeds of
the two come (`Bench.telemetry_of_found`).

`Bench.Balance` is the invariant.  The reports that were found or are still in the channel were all
made, and the batches that were stored are all in the queue, until the sender takes them.  A
listener that never reports more often than it stores batches (`Listener.Works.ahead`) closes the
gap.
-/

namespace GroundLink

def Deed.isFind (d : Deed Sender) : Bool :=
  match d with
  | ⟨_, .takeReply, found⟩ => found
  | _ => false

namespace Sender

open Routine (Secures)

/-! ### What a single telecommand returns -/

def finds (t : Trace Sender) : Nat := t.countP Deed.isFind

/-- An effect that neither stores nor takes telemetry, and reports no replies. -/
def Spares : Effect → Prop
  | .store _ | .takeTelemetry | .reportReply => False
  | _ => True

/-- What is returned after some deeds: the telemetry that is taken at the end, or a failure.  The
link only failed if no report was found. -/
inductive Returns : Except Error (List Packet.Batch) → Trace Sender → Prop
  | gone (t : Trace Sender) : Returns (.error .listenerGone) t
  | failed (cause : Link.Error) {t : Trace Sender} (none : finds t = 0) :
      Returns (.error (.link cause)) t
  | taken (batches : List Packet.Batch) (m : Sender) {p q : Trace Sender}
      (before : ∀ d ∈ p, Spares d.effect) (nothing : finds q = 0) :
      Returns (.ok batches) (p ++ ⟨m, .takeTelemetry, batches⟩ :: q)

variable {tc : Telecommand.Packed} {r s s' : Sender} {start : Span} {t u w : Trace Sender}

theorem finds_append (t u : Trace Sender) : finds (t ++ u) = finds t + finds u :=
  List.countP_append

theorem Aside.finds_eq (h : Aside t) : finds t = 0 := by
  refine List.countP_eq_zero.mpr fun d hd => ?_
  obtain ⟨mark, effect, answer⟩ := d
  have haside := h _ hd
  cases effect <;> first | exact Bool.false_ne_true | exact absurd haside id

theorem Logs.spares (h : Logs s t) : ∀ d ∈ t, Spares d.effect := by
  intro d hd
  obtain ⟨-, entries, heffect⟩ := h d hd
  rw [heffect]
  trivial

theorem IsPatient.spares {d : Deed Sender} (h : IsPatient tc d) : Spares d.effect := by
  obtain ⟨mark, effect, answer⟩ := d
  cases effect <;> trivial

/-- A transmission finds nothing and takes nothing. -/
theorem Transmits.spares {sent : Except Link.Error Unit} (h : Transmits tc s start sent u r) :
    finds u = 0 ∧ ∀ d ∈ u, Spares d.effect := by
  cases h with
  | intro printer printed hprinted =>
    constructor
    · show finds (printed ++ _) = 0
      rw [finds_append, hprinted.aside.finds_eq]
      rfl
    · simp only [List.mem_append, List.mem_cons, List.not_mem_nil, or_false]
      rintro d ((rfl | hd) | rfl)
      · trivial
      · exact hprinted.spares d hd
      · trivial

/-- **No round of waiting takes telemetry.** -/
theorem Rounds.spares (h : Rounds tc r w s) : ∀ d ∈ w, Spares d.effect := by
  induction h with
  | start => exact fun d hd => absurd hd List.not_mem_nil
  | found before pending ih =>
    refine fun d hd => (List.mem_append.mp hd).elim (ih d) fun hd => ?_
    rw [List.mem_singleton.mp hd]
    trivial
  | checked before pending started step ih =>
    refine fun d hd => (List.mem_append.mp hd).elim (ih d) fun hd => ?_
    simp only [emptyRound, List.mem_append, List.mem_cons, List.not_mem_nil, or_false] at hd
    rcases hd with (rfl | hd) | rfl
    · trivial
    · exact (step.patient d hd).spares
    · trivial

/-- **What a single telecommand returns**, however it ends. -/
theorem secures_sendSingle_returns :
    Secures (Looks fun _ _ => True) (sendSingle tc) (fun result t _ => Returns result t) [] s := by
  -- Entering the mode, the sender only forgets reports, makes a request and sleeps.
  have hentering : ∀ d ∈ enteringSingle s, Spares d.effect := by
    intro d hd
    simp only [enteringSingle, List.mem_cons, List.not_mem_nil, or_false] at hd
    rcases hd with rfl | rfl | rfl <;> trivial
  refine secures_sendSingle_ends (.gone _) ?_ (fun _ _ _ _ _ _ _ _ => .gone _) ?_
  · intro start cause u r told failed
    cases told with
    | false => exact .gone _
    | true =>
      refine .failed cause ?_
      rw [finds_append, finds_append, failed.spares.1]
      rfl
  · intro start u r w s' batches printer printed sent rounds ended hprinted
    have hreturns : Returns (.ok batches)
        ((enteringSingle s ++ u ++ w ++ [⟨s', .request .finishOperation, true⟩]) ++
          ⟨s', .takeTelemetry, batches⟩ :: printed) := by
      refine .taken batches s' ?_ hprinted.aside.finds_eq
      -- No deed before the queue is emptied takes telemetry.
      simp only [List.mem_append, List.mem_singleton]
      rintro d (((hd | hd) | hd) | rfl)
      · exact hentering d hd
      · exact sent.spares.2 d hd
      · exact rounds.spares d hd
      · trivial
    rw [List.append_assoc _ [_]] at hreturns
    exact hreturns

end Sender

namespace Bench

open Listener (Works reports stores StoredInStep)
open Sender (Spares finds)

/-! ### Interleavings -/

/-- One thing that happens while a listener and a sender work: a deed of either, or others change
the world. -/
inductive Turn where
  | listener (d : Deed Listener)
  | sender (d : Deed Sender)
  | other (change : World → World)

namespace Turn

def listener? : Turn → Option (Deed Listener)
  | .listener d => some d
  | _ => none

def sender? : Turn → Option (Deed Sender)
  | .sender d => some d
  | _ => none

def act (w : World) : Turn → World
  | .listener d => (w.perform d.effect).2
  | .sender d => (w.perform d.effect).2
  | .other change => change w

/-- What can happen in a world.  The sender finds the reports and the batches that are there.
Others take nothing out of the telemetry queue and report no replies.  Everything else is free: the
link and the clock answer whatever they like, to both. -/
def IsPossible (w : World) : Turn → Prop
  | .sender ⟨_, .takeReply, found⟩ => found = (w.perform .takeReply).1
  | .sender ⟨_, .takeTelemetry, batches⟩ => batches = (w.perform .takeTelemetry).1
  | .listener _ | .sender _ => True
  | .other change => w.batches <+: (change w).batches ∧ (change w).replies ≤ w.replies

end Turn

def listenerDeeds (h : List Turn) : Trace Listener := h.filterMap Turn.listener?

def senderDeeds (h : List Turn) : Trace Sender := h.filterMap Turn.sender?

def World.after (w : World) (h : List Turn) : World := h.foldl Turn.act w

/-- One turn after the other can happen. -/
def Happens (w : World) : List Turn → Prop
  | [] => True
  | x :: h => x.IsPossible w ∧ Happens (x.act w) h

variable {w : World} {h : List Turn} {x : Turn} {d : Deed Listener} {e : Deed Sender}

theorem listenerDeeds_append (h h' : List Turn) :
    listenerDeeds (h ++ h') = listenerDeeds h ++ listenerDeeds h' :=
  List.filterMap_append

theorem senderDeeds_append (h h' : List Turn) :
    senderDeeds (h ++ h') = senderDeeds h ++ senderDeeds h' :=
  List.filterMap_append

theorem World.after_append (w : World) (h h' : List Turn) :
    w.after (h ++ h') = (w.after h).after h' :=
  List.foldl_append

/-- Every turn was possible after those before it. -/
theorem Happens.of_append {h' : List Turn} (happens : Happens w (h ++ h')) :
    Happens w h ∧ Happens (w.after h) h' := by
  induction h generalizing w with
  | nil => exact ⟨trivial, happens⟩
  | cons x h ih =>
    obtain ⟨first, rest⟩ := happens
    obtain ⟨hrest, hlast⟩ := ih rest
    exact ⟨⟨first, hrest⟩, hlast⟩

/-- A deed of the sender was its turn at some point. -/
theorem senderDeeds_split {p q : Trace Sender} (hdeeds : senderDeeds h = p ++ e :: q) :
    ∃ h₁ h₂, h = h₁ ++ .sender e :: h₂ ∧ senderDeeds h₁ = p ∧ senderDeeds h₂ = q := by
  obtain ⟨h₁, h', rfl, hbefore, hrest⟩ := List.filterMap_eq_append_iff.mp hdeeds
  obtain ⟨skipped, x, h₂, rfl, hskipped, hx, hafter⟩ := List.filterMap_eq_cons_iff.mp hrest
  cases x with
  | sender e' =>
    obtain rfl : e' = e := Option.some.inj hx
    have hnone : senderDeeds skipped = [] := List.filterMap_eq_nil_iff.mpr hskipped
    refine ⟨h₁ ++ skipped, h₂, (List.append_assoc _ _ _).symm, ?_, hafter⟩
    rw [senderDeeds_append, hnone, List.append_nil]
    exact hbefore
  | listener => cases hx
  | other => cases hx

/-! ### The balance -/

/-- What is in the telemetry queue and in the reply channel, against what the listener and the
sender did so far. -/
structure Balance (w : World) (l : Trace Listener) (s : Trace Sender) : Prop where
  /-- Whatever was stored is in the queue. -/
  batches : stores l ≤ w.batches.length
  /-- Whatever was found or is in the channel was reported. -/
  replies : w.replies + finds s ≤ reports l

variable {l : Trace Listener} {s : Trace Sender}

/-- **A deed of the listener** that takes no telemetry keeps the balance. -/
theorem Balance.listener (h : Balance w l s) (keeps : d.effect ≠ .takeTelemetry) :
    Balance (w.perform d.effect).2 (l ++ [d]) s := by
  obtain ⟨mark, effect, answer⟩ := d
  constructor
  -- A store adds a batch, and no other deed of the listener touches the queue.
  case batches =>
    have hbatches := h.batches
    rw [Listener.stores_append]
    by_cases uses : World.UsesQueue effect
    · cases effect with
      | store batch =>
        have hlength : (w.batches ++ [batch]).length = w.batches.length + 1 :=
          List.length_append
        show stores l + 1 ≤ (w.batches ++ [batch]).length
        omega
      | takeTelemetry => exact absurd rfl keeps
      | _ => exact absurd uses id
    · have hnone : stores [⟨mark, effect, answer⟩] = 0 := by
        cases effect <;> first | rfl | exact absurd trivial uses
      show stores l + stores _ ≤ (w.perform effect).2.batches.length
      rw [w.perform_batches uses, hnone]
      exact hbatches
  case replies =>
    have hreplies := h.replies
    obtain ⟨hsame, hmore⟩ := w.perform_replies_le effect
    show (w.perform effect).2.replies + finds s ≤ _
    rw [Listener.reports_append]
    -- Either the deed makes a report, which the world counts as well, or nothing changes.
    rcases Listener.reports_cases ⟨mark, effect, answer⟩ with ⟨-, -, hone⟩ | hnone
    · rw [hone]
      omega
    · have hother : effect ≠ .reportReply := by
        rintro rfl
        cases hnone
      have hsame := hsame hother
      omega

/-- **A deed of the sender** that takes no telemetry keeps the balance, if it finds a report only
where there is one. -/
theorem Balance.sender (h : Balance w l s) (spares : Spares e.effect)
    (possible : (Turn.sender e).IsPossible w) : Balance (w.perform e.effect).2 l (s ++ [e]) := by
  obtain ⟨mark, effect, answer⟩ := e
  constructor
  case batches =>
    have hidle : ¬ World.UsesQueue effect := by
      cases effect <;> first | exact id | exact absurd spares id
    show stores l ≤ (w.perform effect).2.batches.length
    rw [w.perform_batches hidle]
    exact h.batches
  case replies =>
    have hreplies := h.replies
    have hother : effect ≠ .reportReply := by
      rintro rfl
      exact spares
    have hsame := (w.perform_replies_le effect).1 hother
    show (w.perform effect).2.replies + finds (s ++ [⟨mark, effect, answer⟩]) ≤ reports l
    rw [Sender.finds_append]
    cases effect with
    | takeReply =>
      -- The report that is found leaves the channel.
      have hanswer : answer = decide (0 < w.replies) := possible
      have hfinds : finds [⟨mark, .takeReply, answer⟩] = answer.toNat := by
        cases answer <;> rfl
      show w.replies - 1 + _ ≤ reports l
      rw [hfinds, hanswer]
      by_cases hsome : 0 < w.replies
      · simp only [hsome, decide_true, Bool.toNat_true]
        omega
      · simp only [hsome, decide_false, Bool.toNat_false]
        omega
    | _ => exact Nat.le_trans (Nat.add_le_add_right hsame _) hreplies

/-- **What others do** keeps the balance. -/
theorem Balance.other (h : Balance w l s) {change : World → World}
    (possible : (Turn.other change).IsPossible w) : Balance (change w) l s where
  batches := Nat.le_trans h.batches possible.1.length_le
  replies := Nat.le_trans (Nat.add_le_add_right possible.2 _) h.replies

/-- **The balance is kept** until the sender takes the telemetry. -/
theorem balance (fresh : w.replies = 0) (happens : Happens w h)
    (keeps : ∀ d ∈ listenerDeeds h, d.effect ≠ .takeTelemetry)
    (spares : ∀ e ∈ senderDeeds h, Spares e.effect) :
    Balance (w.after h) (listenerDeeds h) (senderDeeds h) := by
  -- The induction is on whose turn it was last.
  induction h using List.reverseRecOn with
  | nil => exact ⟨Nat.zero_le _, Nat.le_of_eq fresh⟩
  | append_singleton h x ih =>
    obtain ⟨before, possible, -⟩ := happens.of_append
    rw [listenerDeeds_append] at keeps
    rw [senderDeeds_append] at spares
    have hbalance := ih before (fun d hd => keeps d (List.mem_append_left _ hd))
      fun e he => spares e (List.mem_append_left _ he)
    rw [World.after_append, listenerDeeds_append, senderDeeds_append]
    cases x with
    | listener d =>
      have hd : d.effect ≠ .takeTelemetry := keeps d (List.mem_append_right _ List.mem_cons_self)
      have hnone : senderDeeds [.listener d] = [] := rfl
      rw [hnone, List.append_nil]
      exact hbalance.listener hd
    | sender e =>
      have he : Spares e.effect := spares e (List.mem_append_right _ List.mem_cons_self)
      have hnone : listenerDeeds [.sender e] = [] := rfl
      rw [hnone, List.append_nil]
      exact hbalance.sender he possible
    | other change =>
      have hnone : listenerDeeds [.other change] = [] ∧ senderDeeds [.other change] = [] :=
        ⟨rfl, rfl⟩
      rw [hnone.1, hnone.2, List.append_nil, List.append_nil]
      exact hbalance.other possible

/-! ### Replies and telemetry -/

/-- A listener takes no telemetry. -/
theorem keeps_telemetry {l : Listener} {t : Trace Listener} (works : Works l t) :
    ∀ d ∈ t, d.effect ≠ .takeTelemetry := by
  intro d hd htakes
  obtain ⟨p, q, ht⟩ := List.append_of_mem hd
  have hhands := works.handles p d q ht
  rw [htakes] at hhands
  exact hhands

/-- **A sender that found a report takes telemetry**, in whatever order the deeds come. -/
theorem ne_nil_of_taken {l : Listener} (fresh : w.replies = 0) (happens : Happens w h)
    (works : Works l (listenerDeeds h)) {p q : Trace Sender} {m : Sender}
    {batches : List Packet.Batch}
    (split : senderDeeds h = p ++ ⟨m, .takeTelemetry, batches⟩ :: q)
    (spares : ∀ e ∈ p, Spares e.effect) (found : 0 < finds p) : batches ≠ [] := by
  obtain ⟨h₁, h₂, rfl, rfl, -⟩ := senderDeeds_split split
  obtain ⟨before, possible, -⟩ := happens.of_append
  rw [listenerDeeds_append] at works
  have hkeeps : ∀ d ∈ listenerDeeds h₁, d.effect ≠ .takeTelemetry := fun d hd =>
    keeps_telemetry works d (List.mem_append_left _ hd)
  obtain ⟨hbatches, hreplies⟩ := balance fresh before hkeeps spares
  -- What was found was reported, what was reported was stored, and what was stored is there.
  have hahead : reports (listenerDeeds h₁) ≤ stores (listenerDeeds h₁) := works.ahead rfl
  have htaken : batches = (w.after h₁).batches := possible
  rw [htaken]
  refine List.ne_nil_of_length_pos ?_
  omega

/-- **A reply that is found means telemetry.**  A listener that was just created does whatever it is
asked to do, and a sender sends a single telecommand, in any order of their deeds and whatever the
link answers, while others neither take telemetry nor report replies.  Then:

* At any moment there were at most as many reports of replies as batches that were stored.
* Every report is made in the middle of a step of collecting replies that has stored a batch.
* If the sender stopped waiting because it found a report, it returns a telemetry queue that is not
  empty, unless the listener is gone when it is told that the operation is finished. -/
theorem telemetry_of_found {settings : Settings} (fresh : w.replies = 0) (happens : Happens w h)
    (works : Works (.make settings) (listenerDeeds h)) :
    (∀ h₁ h₂, h = h₁ ++ h₂ → reports (listenerDeeds h₁) ≤ stores (listenerDeeds h₁)) ∧
      (∀ h₁ d h₂, h = h₁ ++ .listener d :: h₂ → d.effect = .reportReply →
        StoredInStep (listenerDeeds h₁) d.mark) ∧
      ∀ tc s result s', (Sender.sendSingle tc).Completes s (senderDeeds h) result s' →
        0 < finds (senderDeeds h) →
        result = .error .listenerGone ∨ ∃ batches, result = .ok batches ∧ batches ≠ [] := by
  refine ⟨?_, ?_, ?_⟩
  · rintro h₁ h₂ rfl
    rw [listenerDeeds_append] at works
    exact works.ahead rfl
  · rintro h₁ d h₂ rfl report
    rw [listenerDeeds_append] at works
    exact works.reported rfl report
  · intro tc s result s' run found
    have returns : Sender.Returns result (senderDeeds h) :=
      Sender.secures_sendSingle_returns.of_completes run
    -- The run says how the sender ended; only the branch that took telemetry found a report.
    generalize hdeeds : senderDeeds h = t at returns found
    cases returns with
    | gone => exact .inl rfl
    | failed cause hnone =>
      rw [hnone] at found
      exact absurd found (Nat.lt_irrefl 0)
    | @taken batches m p q before hnothing =>
      have htaking : finds (⟨m, .takeTelemetry, batches⟩ :: q) = finds q := rfl
      rw [Sender.finds_append, htaking, hnothing, Nat.add_zero] at found
      exact .inr ⟨batches, rfl, ne_nil_of_taken fresh happens works hdeeds before found⟩

/-! ### One after the other -/

/-- The listener works while the sender pauses between two parts of its work. -/
def merge (t : Trace Sender) (l : Trace Listener) (u : Trace Sender) : List Turn :=
  t.map .sender ++ (l.map .listener ++ u.map .sender)

theorem deeds_map_listener (t : Trace Listener) :
    listenerDeeds (t.map .listener) = t ∧ senderDeeds (t.map .listener) = [] := by
  induction t with
  | nil => exact ⟨rfl, rfl⟩
  | cons d t ih => exact ⟨congrArg (d :: ·) ih.1, ih.2⟩

theorem deeds_map_sender (t : Trace Sender) :
    listenerDeeds (t.map .sender) = [] ∧ senderDeeds (t.map .sender) = t := by
  induction t with
  | nil => exact ⟨rfl, rfl⟩
  | cons e t ih => exact ⟨ih.1, congrArg (e :: ·) ih.2⟩

theorem listenerDeeds_merge (t : Trace Sender) (l : Trace Listener) (u : Trace Sender) :
    listenerDeeds (merge t l u) = l := by
  rw [merge, listenerDeeds_append, listenerDeeds_append, (deeds_map_sender t).1,
    (deeds_map_listener l).1, (deeds_map_sender u).1, List.append_nil]
  rfl

theorem senderDeeds_merge (t : Trace Sender) (l : Trace Listener) (u : Trace Sender) :
    senderDeeds (merge t l u) = t ++ u := by
  rw [merge, senderDeeds_append, senderDeeds_append, (deeds_map_sender t).2,
    (deeds_map_listener l).2, (deeds_map_sender u).2]
  rfl

theorem Happens.append {h' : List Turn} (first : Happens w h) (second : Happens (w.after h) h') :
    Happens w (h ++ h') := by
  induction h generalizing w with
  | nil => exact second
  | cons x h ih => exact ⟨first.1, ih first.2 second⟩

/-- A listener alone can do anything. -/
theorem happens_listener (w : World) (t : Trace Listener) : Happens w (t.map .listener) := by
  induction t generalizing w with
  | nil => exact trivial
  | cons d t ih => exact ⟨trivial, ih _⟩

/-- Answers by which the listener takes up the mode of a single telecommand and receives one packet,
which cannot be read. -/
def receivingOne (p : Trace Listener) : (effect : Effect) → effect.Answer
  | .nextRequest => if p.isEmpty then .request (.changeMode .singleCommand) else .nothing
  | .available => .ok true
  | .poll => .ok (2 ≤ p.length, [Packet.unreadable []])
  | .now => if p.length < 14 then 0 else Span.ofSecs 5
  | effect => effect.calm

/-- Answers by which the sender finds a report at once, and takes that packet. -/
def findingOne (_ : Trace Sender) : (effect : Effect) → effect.Answer
  | .takeReply => true
  | .takeTelemetry => [[Packet.unreadable []]]
  | effect => effect.calm

/-- What the sender does then. -/
def findingDeeds : Trace Sender :=
  (Activity.play findingOne 20 [] (Sender.sendSingle default
    (.make {} (Printer.make .short false false)))).1

/-- What the listener does then, up to its first report. -/
def receivingDeeds : Trace Listener :=
  (Activity.play receivingOne 23 [] (Listener.defaultOperation (.make {}))).1

/-- The telecommand is sent, the listener takes up the mode, collects the packet and reports it, and
the sender finds the report. -/
theorem telemetry_of_found_once :
    ∃ (w : World) (h : List Turn) (s : Sender) (batches : List Packet.Batch) (s' : Sender),
      w.replies = 0 ∧ Happens w h ∧ Works (.make {}) (listenerDeeds h) ∧
      (Sender.sendSingle default).Completes s (senderDeeds h) (.ok batches) s' ∧
      reports (listenerDeeds h) = 1 ∧ finds (senderDeeds h) = 1 ∧
      reports (listenerDeeds h) ≤ stores (listenerDeeds h) ∧ batches ≠ [] := by
  have happens : Happens (.make (.recorder (.make .silent)) [])
      (merge (findingDeeds.take 5) receivingDeeds (findingDeeds.drop 5)) := by
    -- A report is there when the sender looks for it, and so is the telemetry when it is taken.
    have hfound : true = decide (0 < (((World.make (.recorder (.make .silent)) []).after
        ((findingDeeds.take 5).map .sender)).after (receivingDeeds.map .listener)).replies) := by
      decide +kernel
    have htaken : [[Packet.unreadable []]] = ((((World.make (.recorder (.make .silent)) []).after
        ((findingDeeds.take 5).map .sender)).after (receivingDeeds.map .listener)).after
          (((findingDeeds.drop 5).take 2).map .sender)).batches := by
      decide +kernel
    refine .append ⟨trivial, trivial, trivial, trivial, trivial, trivial⟩ ?_
    exact .append (happens_listener _ _) ⟨hfound, trivial, htaken, trivial, trivial, trivial⟩
  have works : Works (.make {}) receivingDeeds :=
    .going .defaultOperation (Activity.reaches_play receivingOne 23 [] _)
  have hreports : reports receivingDeeds = 1 := by decide +kernel
  obtain ⟨s, batches, s', run, hfinds⟩ : ∃ s batches s',
      (Sender.sendSingle default).Completes s findingDeeds (.ok batches) s' ∧
        finds findingDeeds = 1 :=
    ⟨_, _, _, Activity.reaches_play findingOne 20 [] _, rfl⟩
  have hlistener := listenerDeeds_merge (findingDeeds.take 5) receivingDeeds (findingDeeds.drop 5)
  have hsender := senderDeeds_merge (findingDeeds.take 5) receivingDeeds (findingDeeds.drop 5)
  rw [List.take_append_drop] at hsender
  rw [← hlistener] at works hreports
  rw [← hsender] at run hfinds
  obtain ⟨hcount, -, hresult⟩ := telemetry_of_found rfl happens works
  rcases hresult default s _ s' run (hfinds ▸ Nat.one_pos) with hgone | ⟨batches, hok, hsome⟩
  · cases hgone
  · cases hok
    exact ⟨_, _, s, _, s', rfl, happens, works, run, hreports, hfinds,
      hcount _ [] (List.append_nil _).symm, hsome⟩

end Bench

end GroundLink
