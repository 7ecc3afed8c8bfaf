import GroundLink.Activity.Basic
import GroundLink.Settings

/-!
# Listener

The listener polls the link in the background and appends every batch of packets to the telemetry
queue.  On request it runs the operation of a mode: in the command and test modes it waits for the
first packet of a sequence, collects the sequence and reports the replies; in the unit test mode it
only polls more often.

Requests are handled one at a time.  A change of mode stops whatever reading goes on, so that the
operation of a mode starts after all requests that were made before.

* `Listener.perform` is the whole work of the listener, until it is shut down.
* `Listener.defaultOperation` is one round of it.
* `Listener.handle` is what a request does to the state, without any effect but a line in the log.
-/

namespace GroundLink

/-- The state of the listener. -/
structure Listener where
  settings : Settings
  /-- The mode that was announced last. -/
  mode : Listener.Mode
  isActive : Bool
  isShutDown : Bool
  /-- The mode whose operation is to be run next. -/
  pending : Option Listener.Mode
  /-- Whether an operation is running. -/
  inOperation : Bool
  /-- Whether the running operation is to end. -/
  isFinished : Bool
  /-- The number of steps of mode operations so far. -/
  steps : Nat
  deriving Inhabited

namespace Listener

def make (settings : Settings) : Listener :=
  ⟨settings, .listener, true, false, none, false, false, 0⟩

/-- How long the first packet of a sequence is waited for. -/
def firstDataTimeout (l : Listener) : Span := l.settings.tcTimeout

/-! ### Requests -/

/-- The state after a request, whether the current reading activity stops, and the log. -/
def handle (l : Listener) : Request → Listener × Bool × List Log.Entry
  | .changeMode mode =>
    ({ l with isFinished := l.isFinished || l.inOperation, pending := some mode }, true, [])
  | .finishOperation =>
    if l.inOperation then ({ l with isFinished := true }, true, [])
    else
      match l.pending with
      | some mode =>
        ({ l with pending := none }, false,
          [Log.debug ("TM listener: pending mode " ++ mode.label ++ " cancelled")])
      | none => (l, false, [])
  | .setActive active =>
    ({ l with isActive := active, isFinished := l.isFinished || (!active && l.inOperation) },
      !active, [])
  | .shutDown => ({ l with isShutDown := true }, true, [])

/-- Handles a request.  Tells whether the current reading activity stops. -/
def accept (r : Request) : Routine Listener Bool := do
  let (l, stops, entries) := (← get).handle r
  set l
  Routine.log entries
  return stops

def shutDown : Routine Listener Unit :=
  modify fun l => { l with isShutDown := true }

/-- Handles requests until one of them stops the current reading activity, which is told, or until
there is none left. -/
def handleRequests : Routine Listener Bool :=
  Routine.iterate () fun _ => do
    match (← Routine.perform .nextRequest : Incoming) with
    | .request r => return if ← accept r then .inr true else .inl ()
    | .nothing => return .inr false
    | .disconnected =>
      shutDown
      return .inr true

/-! ### Reading -/

/-- Polls the link once and stores what it received.  Tells whether that was anything. -/
def pollOnce : Routine Listener Bool := do
  match (← Routine.perform .poll : Except Link.Error Link.Polled) with
  | .ok (received, packets) =>
    if received && !packets.isEmpty then
      Routine.perform (.store packets)
      return true
    else return false
  | .error cause =>
    Routine.note <| Log.error <|
      "TM listener: polling communication interface failed: " ++ cause.message
    return false

/-- Whether there is anything to receive. -/
def isDataAvailable : Routine Listener Bool := do
  match (← Routine.perform .available : Except Link.Error Bool) with
  | .ok available => return available
  | .error cause =>
    Routine.note (Log.error ("TM listener: checking for data failed: " ++ cause.message))
    return false

/-- Polls for as long as a sequence of telemetry may take, or until a request stops it.  Tells
whether anything was received. -/
def readSequence : Routine Listener Bool := do
  let start ← Routine.now
  Routine.iterate false fun received => do
    let received := (← pollOnce) || received
    if (← get).settings.tmTimeout ≤ (← Routine.elapsedSince start) then return .inr received
    if ← handleRequests then return .inr received
    Routine.sleep Settings.sequenceInterval
    return .inl received

/-- Waits for the first packet of a sequence.  Tells whether there is one. -/
def awaitFirstData : Routine Listener Bool := do
  let start ← Routine.now
  Routine.iterate () fun _ => do
    if (← get).firstDataTimeout ≤ (← Routine.elapsedSince start) then return .inr false
    if ← handleRequests then return .inr false
    if ← isDataAvailable then return .inr true
    Routine.sleep Settings.firstDataInterval
    return .inl ()

/-- Waits for one sequence of telemetry and collects it.  Tells whether anything was received. -/
def checkForSequence : Routine Listener Bool := do
  if ← awaitFirstData then readSequence else return false

/-! ### Modes -/

def announce (mode : Mode) : Routine Listener Unit := do
  modify fun l => { l with mode }
  Routine.perform (.announceMode mode)

/-- One step of collecting replies the way the announced mode does. -/
def collectReplies : Routine Listener Unit := do
  match (← get).mode with
  | .listener => modify fun l => { l with isFinished := true }
  | .singleCommand | .serviceTest | .softwareTest =>
    if ← checkForSequence then
      let delivered ← (Routine.perform .reportReply : Routine Listener Bool)
      if !delivered then Routine.note (Log.debug "TM listener: no receiver for reply event")
  | .unitTest => if !(← pollOnce) then Routine.sleep Settings.idleInterval

/-- One step of the operation of the announced mode. -/
def stepOperation : Routine Listener Unit := do
  collectReplies
  modify fun l => { l with steps := l.steps + 1 }

/-- Runs the operation of a mode until it is finished, or for as long as it may take. -/
def runOperation (mode : Mode) : Routine Listener Unit := do
  Routine.note (Log.debug ("TM listener entering mode " ++ mode.label))
  announce mode
  modify fun l => { l with inOperation := true, isFinished := false }
  let start ← Routine.now
  Routine.iterate () fun _ => do
    let l ← get
    if l.isFinished || l.isShutDown then return .inr ()
    if l.settings.operationTimeout ≤ (← Routine.elapsedSince start) then
      Routine.note <| Log.warn <| "TM listener: mode operation " ++ mode.label ++
        " timed out after " ++ l.settings.operationTimeout.render
      return .inr ()
    if !(← handleRequests) then stepOperation
    return .inl ()
  modify fun l => { l with inOperation := false, isFinished := false }
  announce .listener

/-! ### The whole work -/

/-- Handles requests, polls the link once and runs all pending mode operations. -/
def defaultOperation : Routine Listener Unit := do
  let _ ← handleRequests
  let _ ← pollOnce
  Routine.iterate () fun _ => do
    let l ← get
    match l.pending with
    | none => return .inr ()
    | some mode =>
      set { l with pending := none }
      if l.isShutDown || !l.isActive then return .inr ()
      runOperation mode
      return .inl ()

/-- While it is inactive, the listener does nothing but handle requests. -/
def idle : Routine Listener Unit := do
  match (← Routine.perform (.awaitRequest Settings.inactiveInterval) : Incoming) with
  | .request r => let _ ← accept r
  | .nothing => return
  | .disconnected => shutDown

/-- The work of the listener, from its start until it is shut down or nobody can make requests any
more. -/
def perform : Routine Listener Unit := do
  Routine.note (Log.info "TM listener started")
  Routine.iterate () fun _ => do
    let l ← get
    if l.isShutDown then return .inr ()
    if l.isActive then
      defaultOperation
      Routine.sleep Settings.idleInterval
    else idle
    return .inl ()
  Routine.note (Log.info "TM listener stopped")

end Listener

end GroundLink
