import GroundLink.Activity.Basic
import GroundLink.Printer
import GroundLink.Queue.Basic

/-!
# Senders

All senders share one state and its basic routines: they print and transmit telecommands, carry out
the directives of a queue, and wait for replies.  A telecommand without a reply is sent again or
given up, depending on the settings.

* `Sender.carryOut` is what a queue entry does.
* `Sender.sendLast` transmits the last telecommand as a new one.
* `Sender.checkForTimeout` is one step of waiting.
* `Sender.enterMode` and `Sender.finish` bracket the work of every sender.
-/

namespace GroundLink

/-- The state of a sender. -/
structure Sender where
  printer : Printer
  /-- The collection window for one sequence of telemetry. -/
  tmTimeout : Span
  tcTimeoutFactor : Float
  /-- Whether a telecommand without a reply is sent again. -/
  resend : Bool
  /-- Since when a reply is waited for. -/
  started : Option Span
  /-- How often the last telecommand was sent again. -/
  resends : Nat
  last : Option Telecommand.Packed
  /-- Whether the last telecommand waits for its first reply. -/
  isPending : Bool
  /-- Whether the last telecommand was answered or given up. -/
  isAnswered : Bool
  deriving Inhabited

/-- Why the work of a sender fails. -/
inductive Sender.Error where
  | listenerGone
  | link (cause : Link.Error)
  deriving DecidableEq, Repr

namespace Sender

def Error.message : Error → String
  | .listenerGone => "listener error: TM listener is disconnected"
  | .link cause => "communication interface error: " ++ cause.message

def make (settings : Settings) (printer : Printer) : Sender :=
  ⟨printer, settings.tmTimeout, settings.tcTimeoutFactor, settings.resend, none, 0, none, false,
    false⟩

/-- How long a telecommand waits for its reply. -/
def tcTimeout (s : Sender) : Span := s.tmTimeout.scale s.tcTimeoutFactor

/-! ### Output -/

/-- Prints something. -/
def print (f : Printer → Printer × List Log.Entry) : Routine Sender Unit := do
  let s ← get
  let (printer, entries) := f s.printer
  set { s with printer }
  Routine.log entries

def transmit (tc : Telecommand.Packed) : Routine Sender (Except Link.Error Unit) := do
  print (·.printTelecommand tc)
  Routine.send tc

/-- Takes the telemetry that the listener received and prints it. -/
def printTelemetry : Routine Sender (List Packet.Batch) := do
  let batches ← Routine.takeTelemetry
  print (·.printBatches batches)
  return batches

/-- Puts a copy of the file buffer to the pages, and moves the buffer to a file.  A buffer that
cannot be written is kept. -/
def exportBuffer (path : Path) : Routine Sender Unit := do
  print fun printer => (printer.keepPage, [])
  match ← Routine.writeFile path (← get).printer.buffer with
  | .ok () => print fun printer => (printer.clear, [])
  | .error cause =>
    Routine.note (Log.error ("exporting output to " ++ path.text ++ " failed: " ++ cause.message))

/-! ### Queue entries -/

/-- Carries out a directive, or remembers a telecommand as the last one.  Tells whether the entry
is a telecommand. -/
def carryOut (e : Queue.Entry) : Routine Sender Bool := do
  match e with
  | .telecommand tc => modify fun s => { s with last := some tc }
  | .wait time =>
    modify fun s => { s with tmTimeout := s.tmTimeout + time }
    Routine.sleep time
  | .print text => print (·.printText text true)
  | .printPlain text => print (·.printText text false)
  | .export path => exportBuffer path
  | .timeout time => modify fun s => { s with tmTimeout := time }
  return e.isTelecommand

/-! ### Transmission and waiting -/

/-- Sends the last telecommand as a new one: it starts waiting for its reply. -/
def sendLast : Routine Sender (Except Link.Error Unit) := do
  match (← get).last with
  | none =>
    Routine.note (Log.warn "CommandSenderReceiver: no telecommand to send")
    return .ok ()
  | some tc =>
    let now ← Routine.now
    modify fun s =>
      { s with resends := 0, isAnswered := false, isPending := true, started := some now }
    transmit tc

/-- Sends the last telecommand again.  A failure only shows in the log. -/
def resendLast : Routine Sender Unit := do
  if let some tc := (← get).last then
    if let .error cause ← transmit tc then
      Routine.note <| Log.error <|
        "CommandSenderReceiver: resending telecommand failed: " ++ cause.message

def settle : Routine Sender Unit :=
  modify fun s => { s with isAnswered := true, isPending := false }

/-- Since when a reply is waited for: from now on, if nothing was sent yet. -/
def waitingSince : Routine Sender Span := do
  match (← get).started with
  | some start => return start
  | none =>
    let start ← Routine.now
    modify fun s => { s with started := some start }
    return start

/-- What happens when the time for the reply is up: the last telecommand is sent again, or given
up. -/
def handleTimeout : Routine Sender Unit := do
  let s ← get
  if s.resend then
    Routine.note (Log.info "CommandSenderReceiver: timeout, sending TC again")
    resendLast
    let now ← Routine.now
    modify fun s => { s with resends := s.resends + 1, started := some now }
  else
    Routine.note <| Log.info <|
      "CommandSenderReceiver: no reply within " ++ s.tcTimeout.render ++ ", continuing"
    settle

/-- One step of waiting for a reply, followed by a pause.  After the last retransmission the sender
carries on as if a reply had been received. -/
def checkForTimeout : Routine Sender Unit := do
  let start ← waitingSince
  if Settings.maxResends ≤ (← get).resends then
    Routine.note (Log.info "CommandSenderReceiver: no response from command")
    settle
  else if (← get).tcTimeout ≤ (← Routine.elapsedSince start) then handleTimeout
  Routine.sleep Settings.checkInterval

/-- Takes a report of replies, or waits for it. -/
def checkForFirstReply : Routine Sender Unit := do
  if ← Routine.takeReply then settle else checkForTimeout

/-! ### Modes of the listener -/

/-- Forgets earlier replies, asks the listener for a mode and gives it the time to follow.  Tells
whether the listener is there. -/
def enterMode (mode : Listener.Mode) : Routine Sender Bool := do
  Routine.perform .clearReplies
  if ← Routine.request (.changeMode mode) then
    Routine.sleep Settings.modeChangeDelay
    return true
  else return false

/-- Tells the listener that the operation of its mode is finished.  What the work yielded counts
only if that can be told. -/
def finish {α : Type} (result : Except Link.Error α) : Routine Sender (Except Error α) := do
  if ← Routine.request .finishOperation then return result.mapError .link
  else return .error .listenerGone

end Sender

end GroundLink
