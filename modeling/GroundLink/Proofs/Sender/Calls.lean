import GroundLink.Proofs.Sender.Brackets

/-!
# One call after another

A sender makes any number of calls, one after another (`Sender.Calls`).  Whatever they are and
whatever the world answers, it only comes to effects of a sender (`Sender.Calls.own`).  So it never
closes the client, and never shuts the listener down.
-/

namespace GroundLink.Sender

open Activity (Reaches)
open Routine

/-! ### Waits -/

theorem uses_awaitReply : Uses IsOwn awaitReply := by
  rw [awaitReply_eq]
  exact uses_iterate (fun _ => plain_awaitRound.uses) ()

theorem uses_sendOthers (queue : Queue) : Uses IsOwn (sendOthers queue) := by
  rw [sendOthers_eq]
  exact uses_iterate (fun rest => (plain_othersRound rest).uses) queue

/-! ### Calls -/

theorem uses_sendSingle (tc : Telecommand.Packed) : Uses IsOwn (sendSingle tc) := by
  refine uses_bind (plain_enterMode _).uses fun entered => ?_
  cases entered with
  | false => exact (plain_pure _).uses
  | true =>
    refine uses_bind (plain_modify _).uses fun _ => ?_
    refine uses_bind plain_sendLast.uses fun sent => ?_
    cases sent with
    | error cause => exact (plain_conclude (.error cause)).uses
    | ok => exact uses_bind uses_awaitReply fun _ => (plain_conclude (.ok ())).uses

theorem uses_sendQueue (queue : Queue) : Uses IsOwn (sendQueue queue) := by
  refine uses_bind (plain_sendNext queue).uses fun sent => ?_
  split
  · exact uses_sendOthers _
  · exact (plain_bind (plain_perform trivial) fun _ => plain_pure _).uses
  · exact (plain_pure _).uses

theorem uses_sendSequentially (mode : Listener.Mode) (queue : Queue) :
    Uses IsOwn (sendSequentially mode queue) := by
  refine uses_bind (plain_enterMode _).uses fun entered => ?_
  cases entered with
  | false => exact (plain_pure _).uses
  | true =>
    refine uses_bind (uses_sendQueue queue) fun sent => ?_
    exact (plain_bind (plain_finish _) fun _ => plain_pure _).uses

theorem Call.uses_run (call : Call) : Uses IsOwn call.run := by
  cases call with
  | single tc => exact uses_bind (uses_sendSingle tc) fun _ => (plain_pure _).uses
  | sequential mode queue => exact uses_sendSequentially mode queue
  | burst b queue => exact (plain_bind (plain_sendBurst b queue) fun _ => plain_pure _).uses

/-! ### Everything that a sender does -/

/-- What a sender does, so far, that makes one call after another. -/
inductive Calls : Sender → Trace Sender → Prop
  | going {s : Sender} {t : Trace Sender}
      {b : Activity Sender ((Except Error Unit × Queue) × Sender)} (call : Call)
      (run : Reaches (call.run s) t b) : Calls s t
  | next {s s' : Sender} {t u : Trace Sender} {x : Except Error Unit × Queue} (call : Call)
      (run : call.run.Completes s t x s') (rest : Calls s' u) : Calls s (t ++ u)

/-- **A sender only comes to effects of its own**, whatever it is called for. -/
theorem Calls.own {s : Sender} {t : Trace Sender} (calls : Calls s t) :
    ∀ d ∈ t, IsOwn d.effect := by
  induction calls with
  | going call run => exact call.uses_run.of_reaches run
  | next call run _ ih =>
    intro d hd
    rcases List.mem_append.mp hd with hd | hd
    · exact call.uses_run.of_reaches run d hd
    · exact ih d hd

end GroundLink.Sender
