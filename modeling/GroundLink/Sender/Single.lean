import GroundLink.Sender.Basic

/-!
# Single telecommands

One telecommand is sent, and its sender waits for the first reply.
-/

namespace GroundLink.Sender

/-- Waits until the last telecommand is answered or given up. -/
def awaitReply : Routine Sender Unit :=
  Routine.iterate () fun _ => do
    if !(← get).isPending then return .inr ()
    checkForFirstReply
    return .inl ()

/-- Sends a telecommand, waits for the first reply and prints what was received.  The listener
always leaves its mode. -/
def sendSingle (tc : Telecommand.Packed) : Routine Sender (Except Error (List Packet.Batch)) := do
  if !(← enterMode .singleCommand) then return .error .listenerGone
  modify fun s => { s with last := some tc }
  let sent ← sendLast
  if sent.isOk then awaitReply
  match ← finish sent with
  | .error cause => return .error cause
  | .ok () =>
    let batches ← printTelemetry
    if (← get).isAnswered then
      Routine.note (Log.info "SingleCommandSenderReceiver: reply received")
    return .ok batches

end GroundLink.Sender
