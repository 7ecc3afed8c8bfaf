import GroundLink.Sender.Basic

/-!
# Telecommands one after another

The telecommands of a queue are sent one after another: the next one only when the last one was
answered or given up.  Directives are carried out in between.
-/

namespace GroundLink.Sender

/-- Carries out entries up to and including the next telecommand, which is sent.  Tells whether
there was one, and returns the rest of the queue. -/
def sendNext : Queue → Routine Sender (Except Link.Error Bool × Queue)
  | [] => return (.ok false, [])
  | e :: rest => do
    if ← carryOut e then
      let sent ← sendLast
      return (sent.map fun _ => true, rest)
    else sendNext rest

/-- Sends the telecommands of a queue, the first of which has just been sent. -/
def sendOthers (queue : Queue) : Routine Sender (Except Link.Error Unit × Queue) :=
  Routine.iterate queue fun queue => do
    if ← Routine.takeReply then modify fun s => { s with isAnswered := true }
    if !(← get).isAnswered then
      checkForTimeout
      return .inl queue
    let _ ← printTelemetry
    match ← sendNext queue with
    | (.ok true, rest) => return .inl rest
    | (.ok false, rest) =>
      Routine.note (Log.info "SequentialSenderReceiver: all replies received")
      return .inr (.ok (), rest)
    | (.error cause, rest) => return .inr (.error cause, rest)

/-- Sends the telecommands of a queue. -/
def sendQueue (queue : Queue) : Routine Sender (Except Link.Error Unit × Queue) := do
  match ← sendNext queue with
  | (.ok true, rest) => sendOthers rest
  | (.ok false, rest) =>
    Routine.note (Log.info "SequentialSenderReceiver: no telecommands in queue")
    return (.ok (), rest)
  | (.error cause, rest) => return (.error cause, rest)

/-- Sends the telecommands of a queue while the listener is in a mode.  Returns the rest of the
queue too, which is empty unless sending failed. -/
def sendSequentially (mode : Listener.Mode) (queue : Queue) :
    Routine Sender (Except Error Unit × Queue) := do
  if !(← enterMode mode) then return (.error .listenerGone, queue)
  let (sent, rest) ← sendQueue queue
  return (← finish sent, rest)

end GroundLink.Sender
