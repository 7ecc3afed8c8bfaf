import GroundLink.Sender.Basic

/-!
# Telecommands in bursts

A whole queue is sent without waiting for replies, but with pauses after some of its telecommands.
Telemetry is collected at the end.
-/

namespace GroundLink.Sender

/-- How long the pauses are. -/
inductive WaitTime where
  | uniform (time : Span)
  /-- One time for each listed send count, in the same order. -/
  | perInterval (times : List Span)
  deriving DecidableEq

/-- How a burst is sent. -/
structure Burst where
  /-- The numbers of telecommands, counted from one, after which there is a pause. -/
  intervals : List Nat
  waitTime : WaitTime
  /-- Whether the telemetry is printed. -/
  printsTelemetry : Bool
  deriving DecidableEq

/-- The pause at a position of the listed send counts. -/
def WaitTime.at? (w : WaitTime) (position : Nat) : Option Span :=
  match w with
  | .uniform time => some time
  | .perInterval times => times[position]?

/-- Pauses after a number of telecommands, if there is to be a pause. -/
def Burst.pause (b : Burst) (count : Nat) : Routine Sender Unit := do
  if let some position := b.intervals.findIdx? (· = count) then
    match b.waitTime.at? position with
    | some time => Routine.sleep time
    | none =>
      Routine.note <| Log.warn
        s!"MultipleCommandSenderReceiver: no wait time for interval {position}"

/-- Sends the telecommands of a queue, before which a number of them was sent.  Returns the records
of these telecommands and the rest of the queue. -/
def Burst.sendAll (b : Burst) (count : Nat) :
    Queue → Routine Sender (Except Link.Error (List Telecommand.Info) × Queue)
  | [] => return (.ok [], [])
  | e :: rest => do
    if ← carryOut e then
      match ← sendLast with
      | .error cause => return (.error cause, rest)
      | .ok () =>
        b.pause (count + 1)
        let (sent, others) ← b.sendAll (count + 1) rest
        return (sent.map fun infos => (e.telecommand?.map (·.info)).toList ++ infos, others)
    else b.sendAll count rest

/-- Sends a queue, waits for the last replies and returns the records of all sent telecommands with
all telemetry received meanwhile.  Returns the rest of the queue too. -/
def sendBurst (b : Burst) (queue : Queue) :
    Routine Sender (Except Error (List Telecommand.Info × List Packet.Batch) × Queue) := do
  if !(← enterMode .unitTest) then return (.error .listenerGone, queue)
  let (sent, rest) ← b.sendAll 0 queue
  if sent.isOk then Routine.sleep ((← get).tmTimeout.divide Settings.burstDivisor)
  let batches ← Routine.takeTelemetry
  if b.printsTelemetry then print (·.printBatches batches)
  return (← finish (sent.map fun infos => (infos, batches)), rest)

end GroundLink.Sender
