import GroundLink.Proofs.Activity.Uses
import GroundLink.Proofs.Sender.Rounds
import GroundLink.Sender.Burst
import GroundLink.Sender.Sequential

/-!
# Plain routines of a sender

Only the two waits for a reply are loops.  Everything else that a sender does comes to its end in
any world, a burst included (`Sender.plain_sendBurst`), and to no effects but those of a sender
(`Sender.IsOwn`).
-/

namespace GroundLink.Sender

open Routine

/-- An effect that senders come to.  They neither close the client nor shut the listener down. -/
def IsOwn : Effect → Prop
  | .now | .sleep _ | .log _ | .send _ | .takeReply | .clearReplies | .takeTelemetry |
    .writeFile _ _ | .request (.changeMode _) | .request .finishOperation => True
  | _ => False

/-! ### Output and transmission -/

theorem plain_print (f : Printer → Printer × List Log.Entry) : Plain IsOwn (print f) := by
  refine plain_bind plain_get fun s => ?_
  exact plain_bind (plain_set _) fun _ => plain_log trivial

theorem plain_transmit (tc : Telecommand.Packed) : Plain IsOwn (transmit tc) :=
  plain_bind (plain_print _) fun _ => plain_perform trivial

theorem plain_printTelemetry : Plain IsOwn printTelemetry := by
  refine plain_bind (plain_perform trivial) fun batches => ?_
  exact plain_bind (plain_print _) fun _ => plain_pure batches

theorem plain_sendLast : Plain IsOwn sendLast := by
  refine plain_bind plain_get fun s => ?_
  split
  · exact plain_bind (plain_perform trivial) fun _ => plain_pure _
  · refine plain_bind (plain_perform trivial) fun now => ?_
    exact plain_bind (plain_modify _) fun _ => plain_transmit _

/-! ### One round of waiting -/

theorem plain_resendLast : Plain IsOwn resendLast := by
  refine plain_bind plain_get fun s => ?_
  split
  · refine plain_bind (plain_transmit _) fun sent => ?_
    split
    · exact plain_perform trivial
    · exact plain_pure ()
  · exact plain_pure ()

theorem plain_settle : Plain IsOwn settle := plain_modify _

theorem plain_handleTimeout : Plain IsOwn handleTimeout := by
  refine plain_bind plain_get fun s => ?_
  split
  · refine plain_bind (plain_perform trivial) fun _ => ?_
    refine plain_bind plain_resendLast fun _ => ?_
    exact plain_bind (plain_perform trivial) fun now => plain_modify _
  · exact plain_bind (plain_perform trivial) fun _ => plain_settle

theorem plain_waitingSince : Plain IsOwn waitingSince := by
  refine plain_bind plain_get fun s => ?_
  split
  · exact plain_pure _
  · refine plain_bind (plain_perform trivial) fun start => ?_
    exact plain_bind (plain_modify _) fun _ => plain_pure start

theorem plain_checkForTimeout : Plain IsOwn checkForTimeout := by
  refine plain_bind plain_waitingSince fun start => ?_
  refine plain_bind plain_get fun s => ?_
  split
  · refine plain_bind (plain_perform trivial) fun _ => ?_
    exact plain_bind plain_settle fun _ => plain_perform trivial
  · refine plain_bind plain_get fun s' => ?_
    refine plain_bind (plain_elapsedSince trivial start) fun time => ?_
    split
    · exact plain_bind plain_handleTimeout fun _ => plain_perform trivial
    · exact plain_perform trivial

theorem plain_checkForFirstReply : Plain IsOwn checkForFirstReply := by
  refine plain_bind (plain_perform trivial) fun replied => ?_
  cases replied with
  | true => exact plain_settle
  | false => exact plain_checkForTimeout

theorem plain_awaitRound : Plain IsOwn awaitRound := by
  refine plain_bind plain_get fun s => ?_
  split
  · exact plain_pure _
  · exact plain_bind plain_checkForFirstReply fun _ => plain_pure _

/-! ### Modes of the listener -/

theorem plain_enterMode (mode : Listener.Mode) : Plain IsOwn (enterMode mode) := by
  refine plain_bind (plain_perform trivial) fun _ => ?_
  refine plain_bind (plain_perform trivial) fun delivered => ?_
  cases delivered with
  | true => exact plain_bind (plain_perform trivial) fun _ => plain_pure true
  | false => exact plain_pure false

theorem plain_finish {α : Type} (result : Except Link.Error α) : Plain IsOwn (finish result) := by
  refine plain_bind (plain_perform trivial) fun told => ?_
  cases told with
  | true => exact plain_pure _
  | false => exact plain_pure _

/-- What comes after the wait has no loops. -/
theorem plain_conclude (sent : Except Link.Error Unit) : Plain IsOwn (conclude sent) := by
  refine plain_bind (plain_finish sent) fun result => ?_
  split
  · exact plain_pure _
  · refine plain_bind plain_printTelemetry fun batches => ?_
    refine plain_bind plain_get fun s => ?_
    split
    · exact plain_bind (plain_perform trivial) fun _ => plain_pure _
    · exact plain_pure _

/-! ### Queues -/

theorem plain_exportBuffer (path : Path) : Plain IsOwn (exportBuffer path) := by
  refine plain_bind (plain_print _) fun _ => ?_
  refine plain_bind plain_get fun s => ?_
  refine plain_bind (plain_perform trivial) fun written => ?_
  split
  · exact plain_print _
  · exact plain_perform trivial

theorem plain_carryOut (e : Queue.Entry) : Plain IsOwn (carryOut e) := by
  cases e with
  | telecommand tc => exact plain_bind (plain_modify _) fun _ => plain_pure _
  | wait time =>
    refine plain_bind (plain_modify _) fun _ => ?_
    exact plain_bind (plain_perform trivial) fun _ => plain_pure _
  | print text => exact plain_bind (plain_print _) fun _ => plain_pure _
  | printPlain text => exact plain_bind (plain_print _) fun _ => plain_pure _
  | «export» path => exact plain_bind (plain_exportBuffer path) fun _ => plain_pure _
  | timeout time => exact plain_bind (plain_modify _) fun _ => plain_pure _

theorem plain_sendNext (queue : Queue) : Plain IsOwn (sendNext queue) := by
  induction queue with
  | nil => exact plain_pure _
  | cons e rest ih =>
    refine plain_bind (plain_carryOut e) fun isTelecommand => ?_
    split
    · exact plain_bind plain_sendLast fun _ => plain_pure _
    · exact ih

theorem plain_pause (b : Burst) (count : Nat) : Plain IsOwn (b.pause count) := by
  unfold Burst.pause
  split
  · split
    · exact plain_perform trivial
    · exact plain_perform trivial
  · exact plain_pure ()

theorem plain_sendAll (b : Burst) (count : Nat) (queue : Queue) :
    Plain IsOwn (b.sendAll count queue) := by
  induction queue generalizing count with
  | nil => exact plain_pure _
  | cons e rest ih =>
    refine plain_bind (plain_carryOut e) fun isTelecommand => ?_
    split
    · refine plain_bind plain_sendLast fun sent => ?_
      split
      · exact plain_pure _
      · refine plain_bind (plain_pause b _) fun _ => ?_
        exact plain_bind (ih _) fun _ => plain_pure _
    · exact ih count

/-- **A burst has no loops.** -/
theorem plain_sendBurst (b : Burst) (queue : Queue) : Plain IsOwn (sendBurst b queue) := by
  refine plain_bind (plain_enterMode _) fun entered => ?_
  split
  · exact plain_pure _
  · refine plain_bind (plain_sendAll b 0 queue) fun (sent, others) => ?_
    have hending : Plain IsOwn (do
        let batches ← Routine.takeTelemetry
        if b.printsTelemetry then print (·.printBatches batches)
        return (← finish (sent.map fun infos => (infos, batches)), others) :
        Routine Sender
          (Except Error (List Telecommand.Info × List Packet.Batch) × Queue)) := by
      refine plain_bind (plain_perform trivial) fun batches => ?_
      have hfinish := plain_finish (sent.map fun infos => (infos, batches))
      split
      · refine plain_bind (plain_print _) fun _ => ?_
        exact plain_bind hfinish fun _ => plain_pure _
      · exact plain_bind hfinish fun _ => plain_pure _
    cases sent with
    | error cause => exact hending
    | ok infos =>
      refine plain_bind plain_get fun s => ?_
      exact plain_bind (plain_perform trivial) fun _ => hending

end GroundLink.Sender
