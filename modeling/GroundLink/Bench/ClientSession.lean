import GroundLink.Bench.Scheduler
import GroundLink.Client.Operation

/-!
# The client on a bench

The whole client, with its listener in the background, works on a bench step by step.  In the end it
is closed.
-/

namespace GroundLink.Bench

/-- A step of the client. -/
inductive ClientStep where
  | perform
  /-- Run the unit tests, whatever the mode. -/
  | testUnits
  | sleep (time : Span)
  | act (action : Action)

/-- What a step of the client answers. -/
inductive ClientAnswer where
  | nothing
  | done
  | verdicts (all : List Client.Verdict)
  | failed (cause : Client.Operation.Error)

/-- What can be seen of the client at a time. -/
structure ClientView where
  now : Span
  isRunning : Bool
  sent : Nat
  deriving DecidableEq

def clientView (b : Bench) : ClientView :=
  ⟨b.world.now, b.world.isRunning, b.world.sent.size⟩

/-- An answer, or the failure of the client. -/
def ClientAnswer.of {α : Type} (result : Except Client.Operation.Error α)
    (answer : α → ClientAnswer) : ClientAnswer :=
  match result with
  | .ok a => answer a
  | .error cause => .failed cause

/-- Takes a step. -/
def takeClientStep (o : Client.Operation) (b : Bench) : ClientStep → Option (ClientAnswer × Bench)
  | .perform =>
    (b.run () o.perform).map fun ((result, _), b) => (.of result fun _ => .done, b)
  | .testUnits => (b.run () o.testUnits).map fun ((result, _), b) => (.of result .verdicts, b)
  | .sleep time => (b.run () (Routine.sleep time)).map fun (_, b) => (.nothing, b)
  | .act action => some (.nothing, { b with world := b.world.act action })

/-- Takes steps in order. -/
def takeClientSteps (o : Client.Operation) (b : Bench) :
    List ClientStep → Option (List (ClientAnswer × ClientView) × Bench)
  | [] => some ([], b)
  | step :: rest =>
    match takeClientStep o b step with
    | none => none
    | some (answer, after) =>
      (takeClientSteps o after rest).map fun (others, b) =>
        ((answer, clientView after) :: others, b)

/-- The record of the client's work: the answers, the world when the client was closed, and the log
up to the end of the listener. -/
structure ClientRehearsal where
  answers : List (ClientAnswer × ClientView)
  world : World
  log : List Log.Entry

/-- Lets the client work step by step and closes it. -/
def rehearseClient (o : Client.Operation) (w : World) (steps : List ClientStep) :
    Option ClientRehearsal :=
  match withListener w (Listener.make o.settings) with
  | none => none
  | some b =>
    match takeClientSteps o b steps with
    | none => none
    | some (answers, b) =>
      let b := { b with world := b.world.act (.exit o.settings.apid) }
      some ⟨answers, b.world, (b.finishListening rounds).world.log.toList⟩

end GroundLink.Bench
