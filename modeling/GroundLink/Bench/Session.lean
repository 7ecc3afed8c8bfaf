import GroundLink.Bench.Scheduler
import GroundLink.Sender.Burst
import GroundLink.Sender.Sequential
import GroundLink.Sender.Single

/-!
# Sessions on a bench

A session has one listener and one sender on a bench and makes them work step by step.  The listener
either runs in the background all the time, or is worked by hand.

* `Session.take` is one step.
* `rehearse` is a whole session: what every step answered, and what is left in the end.
-/

namespace GroundLink.Bench

/-! ### Steps -/

/-- What a listener that is worked by hand can be told to do. -/
inductive Chore where
  | defaultOperation
  | pollOnce
  | stepOperation
  | checkForSequence
  | perform
  deriving DecidableEq, Repr

/-- Settings of a sender to be changed. -/
structure Adjustment where
  tmTimeout : Option Span
  tcTimeoutFactor : Option Float
  resend : Option Bool

/-- A step of a session. -/
inductive Step where
  | sleep (time : Span)
  | request (r : Listener.Request)
  | act (action : Action)
  | listen (chore : Chore)
  | dropListener
  | takeReply
  | clearReplies
  /-- Look at the telemetry queue. -/
  | look
  | takeTelemetry
  | receive
  | sendData (data : Bytes)
  | close
  | adjust (change : Adjustment)
  | carryOut (e : Queue.Entry)
  | sendLast
  | checkForFirstReply
  | checkForTimeout
  | printTelemetry
  | print (text : String)
  | sendSingle (tc : Telecommand.Packed)
  | sendSequentially (mode : Listener.Mode) (queue : Queue)
  | sendBurst (burst : Sender.Burst) (queue : Queue)

/-- What a step answers. -/
inductive Answer where
  | nothing
  | flag (value : Bool)
  | batch (packets : Packet.Batch)
  | batches (all : List Packet.Batch)
  | infos (sent : List Telecommand.Info) (received : List Packet.Batch)
  /-- There is no listener to make a request to. -/
  | disconnected
  | linkError (cause : Link.Error)
  | senderError (cause : Sender.Error)

/-! ### Sessions -/

/-- A session on a bench. -/
structure Session where
  bench : Bench
  /-- The listener, if it is worked by hand and was not dropped. -/
  listener : Option Listener
  sender : Sender

namespace Session

/-- A session in which the listener is worked by hand. -/
def manual (settings : Settings) (w : World) : Session :=
  ⟨quiet w, some (Listener.make settings), Sender.make settings (Printer.ofSettings settings)⟩

/-- A session in which the listener runs in the background. -/
def automatic (settings : Settings) (w : World) : Option Session :=
  (withListener w (Listener.make settings)).map fun bench =>
    ⟨bench, none, Sender.make settings (Printer.ofSettings settings)⟩

def world (s : Session) : World := s.bench.world

def inWorld (s : Session) (w : World) : Session := { s with bench.world := w }

/-- Lets the sender work. -/
def letSend {α : Type} (s : Session) (routine : Routine Sender α) (answer : α → Answer) :
    Option (Answer × Session) :=
  (s.bench.run s.sender routine).map fun ((result, sender), bench) =>
    (answer result, { s with bench, sender })

/-- Lets the listener work, if it is worked by hand. -/
def letListen {α : Type} (s : Session) (routine : Routine Listener α) (answer : α → Answer) :
    Option (Answer × Session) :=
  match s.listener with
  | none => none
  | some listener =>
    (s.bench.run listener routine).map fun ((result, listener), bench) =>
      (answer result, { s with bench, listener := some listener })

/-- Has a chore done by the listener. -/
def doChore (s : Session) : Chore → Option (Answer × Session)
  | .defaultOperation => s.letListen Listener.defaultOperation fun _ => .nothing
  | .pollOnce => s.letListen Listener.pollOnce .flag
  | .stepOperation => s.letListen Listener.stepOperation fun _ => .nothing
  | .checkForSequence => s.letListen Listener.checkForSequence .flag
  | .perform => s.letListen Listener.perform fun _ => .nothing

/-- An answer, or the failure of the link. -/
def ofLink {α : Type} (result : Except Link.Error α) (answer : α → Answer) : Answer :=
  match result with
  | .ok a => answer a
  | .error cause => .linkError cause

/-- An answer, or the failure of the sender. -/
def ofSender {α : Type} (result : Except Sender.Error α) (answer : α → Answer) : Answer :=
  match result with
  | .ok a => answer a
  | .error cause => .senderError cause

/-- Changes the settings of the sender. -/
def adjust (s : Session) (change : Adjustment) : Session :=
  { s with sender := { s.sender with
    tmTimeout := change.tmTimeout.getD s.sender.tmTimeout
    tcTimeoutFactor := change.tcTimeoutFactor.getD s.sender.tcTimeoutFactor
    resend := change.resend.getD s.sender.resend } }

/-- Takes a step. -/
def take (s : Session) : Step → Option (Answer × Session)
  | .sleep time =>
    (s.bench.run () (Routine.sleep time)).map fun (_, bench) => (.nothing, { s with bench })
  | .request r =>
    let (delivered, w) := s.world.request r
    some (if delivered then .nothing else .disconnected, s.inWorld w)
  | .act action => some (.nothing, s.inWorld (s.world.act action))
  | .listen chore => s.doChore chore
  | .dropListener => some (.nothing, { s.inWorld s.world.dropListener with listener := none })
  | .takeReply =>
    let (found, w) := s.world.perform .takeReply
    some (.flag found, s.inWorld w)
  | .clearReplies => some (.nothing, s.inWorld (s.world.perform .clearReplies).2)
  | .look =>
    let (batches, w) := s.world.retrieve
    some (.batches batches, s.inWorld w)
  | .takeTelemetry =>
    let (batches, w) := s.world.perform .takeTelemetry
    some (.batches batches, s.inWorld w)
  | .receive =>
    let (received, w) := s.world.poll
    some (ofLink received fun polled => .batch polled.2, s.inWorld w)
  | .sendData data =>
    let (sent, w) := s.world.sendData data
    some (ofLink sent fun _ => .nothing, s.inWorld w)
  | .close =>
    let (closed, w) := s.world.close
    some (ofLink closed fun _ => .nothing, s.inWorld w)
  | .adjust change => some (.nothing, s.adjust change)
  | .carryOut e => s.letSend (Sender.carryOut e) .flag
  | .sendLast =>
    s.letSend Sender.sendLast fun sent => ofSender (sent.mapError .link) fun _ => .nothing
  | .checkForFirstReply => s.letSend Sender.checkForFirstReply fun _ => .nothing
  | .checkForTimeout => s.letSend Sender.checkForTimeout fun _ => .nothing
  | .printTelemetry => s.letSend Sender.printTelemetry .batches
  | .print text =>
    s.letSend (Sender.print fun printer => printer.printText text false) fun _ => .nothing
  | .sendSingle tc =>
    s.letSend (Sender.sendSingle tc) fun received => ofSender received .batches
  | .sendSequentially mode queue =>
    s.letSend (Sender.sendSequentially mode queue) fun sent =>
      ofSender sent.1 fun _ => .nothing
  | .sendBurst burst queue =>
    s.letSend (Sender.sendBurst burst queue) fun sent =>
      ofSender sent.1 fun (infos, received) => .infos infos received

/-- Takes steps in order, and keeps the last answer. -/
def takeAll (s : Session) (last : Answer) : List Step → Option (Answer × Session)
  | [] => some (last, s)
  | step :: rest =>
    match s.take step with
    | none => none
    | some (answer, s) => s.takeAll answer rest

end Session

/-! ### Whole sessions -/

/-- What can be seen of a session at a time. -/
structure View where
  now : Span
  mode : Listener.Mode
  batches : Nat
  sent : Nat
  sender : Sender
  /-- The listener that is worked by hand. -/
  listener : Option Listener

def Session.view (s : Session) : View :=
  ⟨s.world.now, s.world.mode, s.world.batches.length, s.world.sent.size, s.sender, s.listener⟩

/-- Takes groups of steps, and keeps the last answer and the view after each of them. -/
def Session.takeGroups (s : Session) : List (List Step) → Option (List (Answer × View) × Session)
  | [] => some ([], s)
  | group :: rest =>
    match s.takeAll .nothing group with
    | none => none
    | some (answer, after) =>
      (after.takeGroups rest).map fun (others, s) => ((answer, after.view) :: others, s)

/-- The record of a session: the answers, the world after the last step, the sender, and the log up
to the end of the listener. -/
structure Rehearsal where
  answers : List (Answer × View)
  world : World
  sender : Sender
  listener : Option Listener
  log : List Log.Entry

/-- Holds a session in which the listener runs in the background or is worked by hand. -/
def rehearse (settings : Settings) (w : World) (background : Bool) (groups : List (List Step)) :
    Option Rehearsal :=
  match if background then Session.automatic settings w else some (Session.manual settings w) with
  | none => none
  | some s =>
    match s.takeGroups groups with
    | none => none
    | some (answers, s) =>
      some ⟨answers, s.world, s.sender, s.listener, s.bench.shutDown.world.log.toList⟩

end GroundLink.Bench
