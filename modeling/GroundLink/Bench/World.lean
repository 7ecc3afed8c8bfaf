import GroundLink.Activity.Basic
import GroundLink.Client.Exit
import GroundLink.Link.Basic
import GroundLink.Printer

/-!
# The world of a bench

On a bench, activities run against a simulated world: a clock that moves only when somebody sleeps,
a link whose operations can be made to fail, channels, files and a log.  Things that happen without
the program's doing are planned for a time, and happen when the clock gets there.

* `World.perform` is what an effect does to the world and what it answers.
* `World.advance` moves the clock.
-/

namespace GroundLink.Bench

/-! ### Faults -/

/-- How many of the next operations of a link fail, and how. -/
structure Faults where
  cause : Link.Error
  sends : Nat
  polls : Nat
  looks : Nat
  closings : Nat
  deriving DecidableEq, Repr

/-- The failure of a device that was told to fail. -/
def injected : Link.Error := .io .other "injected"

def Faults.none : Faults := ⟨injected, 0, 0, 0, 0⟩

/-! ### Plans -/

/-- Something that happens without the program's doing. -/
inductive Action where
  | request (r : Listener.Request)
  /-- Telemetry arrives. -/
  | push (raw : Bytes)
  /-- The next telecommands are not answered. -/
  | ignore (count : Nat)
  | fail (faults : Faults)
  /-- Somebody tells the client to stop. -/
  | stop
  /-- Somebody closes the client. -/
  | exit (apid : UInt16)
  deriving DecidableEq, Repr

/-- The world of a bench. -/
structure World where
  now : Span
  today : Calendar.Instant
  /-- What is still to happen, in the order of time. -/
  plan : List (Span × Action)
  link : Link
  faults : Faults
  /-- Whether the link was closed. -/
  isClosed : Bool
  /-- The telecommands that were sent, with the time of each. -/
  sent : Array (Span × Telecommand.Packed)
  /-- Whether there is a listener to handle requests. -/
  hasListener : Bool
  /-- Whether there is anybody left to make requests. -/
  hasHandle : Bool
  requests : List Listener.Request
  /-- Reports of replies that were not taken yet. -/
  replies : Nat
  /-- The telemetry queue. -/
  batches : List Packet.Batch
  /-- The mode that the listener announced last. -/
  mode : Listener.Mode
  files : FileTree
  log : Array Log.Entry
  /-- Whether nobody told the client to stop. -/
  isRunning : Bool
  /-- Whether the right to close the client is taken. -/
  isExited : Bool

namespace World

/-- A world in which nothing happened yet. -/
def make (link : Link) (plan : List (Span × Action)) : World where
  now := 0
  today := ⟨0, 0⟩
  plan := plan
  link := link
  faults := Faults.none
  isClosed := false
  sent := #[]
  hasListener := true
  hasHandle := true
  requests := []
  replies := 0
  batches := []
  mode := .listener
  files := FileTree.empty
  log := #[]
  isRunning := true
  isExited := false

def note (w : World) (entries : List Log.Entry) : World :=
  { w with log := w.log ++ entries.toArray }

/-! ### The link -/

/-- The outcome of an operation on the link. -/
def settle {α : Type} (w : World) (o : Link.Outcome Link α) : Except Link.Error α × World :=
  (o.result, { w.note o.log with link := o.link })

/-- Sends a telecommand, unless that is to fail. -/
def send (w : World) (tc : Telecommand.Packed) : Except Link.Error Unit × World :=
  if 0 < w.faults.sends then
    (.error w.faults.cause, { w with faults.sends := w.faults.sends - 1 })
  else
    let (result, w) := w.settle (w.link.send tc)
    (result, if result.isOk then { w with sent := w.sent.push (w.now, tc) } else w)

def sendData (w : World) (data : Bytes) : Except Link.Error Unit × World :=
  w.settle (w.link.sendData data)

/-- Polls the link, unless that is to fail. -/
def poll (w : World) : Except Link.Error Link.Polled × World :=
  if 0 < w.faults.polls then
    (.error w.faults.cause, { w with faults.polls := w.faults.polls - 1 })
  else w.settle w.link.poll

/-- Looks whether there is anything to receive, unless that is to fail. -/
def available (w : World) : Except Link.Error Bool × World :=
  if 0 < w.faults.looks then
    (.error w.faults.cause, { w with faults.looks := w.faults.looks - 1 })
  else w.settle w.link.available

/-- Closes the link, unless that is to fail. -/
def close (w : World) : Except Link.Error Unit × World :=
  if 0 < w.faults.closings then
    (.error w.faults.cause, { w with faults.closings := w.faults.closings - 1 })
  else
    let (result, w) := w.settle w.link.close
    (result, { w with isClosed := w.isClosed || result.isOk })

/-! ### The channels -/

/-- Makes a request, if there is a listener. -/
def request (w : World) (r : Listener.Request) : Bool × World :=
  (w.hasListener, if w.hasListener then { w with requests := w.requests ++ [r] } else w)

def nextRequest (w : World) : Incoming × World :=
  match w.requests with
  | r :: rest => (.request r, { w with requests := rest })
  | [] => (if w.hasHandle then .nothing else .disconnected, w)

/-- Looks at the telemetry queue, out of which nothing is taken. -/
def retrieve (w : World) : List Packet.Batch × World := (w.batches, w)

/-- The world without a listener.  Requests that it did not handle are lost. -/
def dropListener (w : World) : World :=
  { w with hasListener := false, requests := [] }

/-! ### Effects -/

/-- What an effect answers, and the world afterwards.  Time does not move. -/
def perform (w : World) : (effect : Effect) → effect.Answer × World
  | .now => (w.now, w)
  | .today => (w.today, w)
  | .sleep _ => ((), w)
  | .log entries => ((), w.note entries)
  | .send tc => w.send tc
  | .poll => w.poll
  | .available => w.available
  | .conclude tc =>
    let (sent, w) := w.send tc
    let (closed, w) := w.close
    ((sent, closed), w)
  | .request r => w.request r
  | .nextRequest => w.nextRequest
  | .awaitRequest _ => w.nextRequest
  | .announceMode mode => ((), { w with mode })
  | .reportReply =>
    (w.hasHandle, if w.hasHandle then { w with replies := w.replies + 1 } else w)
  | .takeReply => (0 < w.replies, { w with replies := w.replies - 1 })
  | .clearReplies => ((), { w with replies := 0 })
  | .store batch => ((), { w with batches := w.batches ++ [batch] })
  | .takeTelemetry => (w.batches, { w with batches := [] })
  | .writeFile path text =>
    let (files, entries, result) := w.files.writeOutput path text.toUTF8
    (result, { w.note entries with files })
  | .isRunning => (w.isRunning, w)
  | .stop => ((), { w with isRunning := false })
  | .claimExit => (!w.isExited, { w with isExited := true })

/-! ### Time -/

/-- Performs the effects of an activity, without letting time pass.  At most `count` of them are
performed. -/
def performAll {σ α : Type} (count : Nat) (a : Activity σ α) (w : World) : World :=
  match count with
  | 0 => w
  | count + 1 =>
    match a.next? count with
    | some (.act _ effect next) =>
      let (answer, w) := w.perform effect
      performAll count (next answer) w
    | _ => w

/-- Effects that are enough to close the client. -/
def exitEffects : Nat := 16

/-- What an action does to the world. -/
def act (w : World) : Action → World
  | .request r => (w.request r).2
  | .push raw => { w with link := w.link.mapRecorder (·.push raw) }
  | .ignore count => { w with link := w.link.mapRecorder fun l => { l with ignored := count } }
  | .fail faults => { w with faults }
  | .stop => { w with isRunning := false }
  | .exit apid => w.performAll exitEffects (Client.exit apid ())

/-- Lets everything happen that is planned up to a time. -/
def runPlan (w : World) (time : Span) : List (Span × Action) → World
  | [] => { w with plan := [] }
  | (due, action) :: rest =>
    if due ≤ time then
      runPlan ({ w with now := if w.now ≤ due then due else w.now }.act action) time rest
    else { w with plan := (due, action) :: rest }

def advance (w : World) (time : Span) : World :=
  { w.runPlan time w.plan with now := time }

end World

end GroundLink.Bench
