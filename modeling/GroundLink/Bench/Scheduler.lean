import GroundLink.Bench.World
import GroundLink.Listener.Basic

/-!
# Running activities on a bench

At most two activities share a bench: the one that is run, and the listener in the background.  Only
one of them runs at any time, until it sleeps.  Then the one that wakes up first carries on, which
is the one that is run if both wake up at the same time.
-/

namespace GroundLink

/-- What the listener in the background does next. -/
inductive Bench.Background where
  /-- There is none, or it is done. -/
  | ended
  | asleep (wake : Span) (rest : Activity Listener (Unit × Listener))

/-- A world with a listener in the background. -/
structure Bench where
  world : Bench.World
  background : Bench.Background

namespace Bench

/-- More effects than any activity on a bench is expected to have. -/
def patience : Nat := 1000000000000000

/-- Rounds of loops between two effects. -/
def rounds : Nat := 1000000

/-- Runs the listener until it sleeps or is done. -/
def listen (effects : Nat) (a : Activity Listener (Unit × Listener)) (w : World) :
    Option (Background × World) :=
  match effects with
  | 0 => none
  | effects + 1 =>
    match a.next? rounds with
    | none => none
    | some (.done _) => some (.ended, w.dropListener)
    | some (.act _ (.sleep time) next) => some (.asleep (w.now + time) (next ()), w)
    | some (.act _ effect next) =>
      let (answer, w) := w.perform effect
      listen effects (next answer) w

/-- Lets time pass up to an instant.  The listener runs whenever it wakes up before that. -/
def sleepUntil (effects : Nat) (wake : Span) (b : Bench) : Option Bench :=
  match effects with
  | 0 => none
  | effects + 1 =>
    match b.background with
    | .ended => some ⟨b.world.advance wake, .ended⟩
    | .asleep earlier rest =>
      if earlier < wake then
        match listen effects rest (b.world.advance earlier) with
        | none => none
        | some (background, w) => sleepUntil effects wake ⟨w, background⟩
      else some ⟨b.world.advance wake, b.background⟩

/-- Runs an activity to its end. -/
def runFor {σ α : Type} (effects : Nat) (a : Activity σ α) (b : Bench) : Option (α × Bench) :=
  match effects with
  | 0 => none
  | effects + 1 =>
    match a.next? rounds with
    | none => none
    | some (.done result) => some (result, b)
    | some (.act _ (.sleep time) next) =>
      match b.sleepUntil effects (b.world.now + time) with
      | none => none
      | some b => runFor effects (next ()) b
    | some (.act _ effect next) =>
      let (answer, world) := b.world.perform effect
      runFor effects (next answer) { b with world }

def run {σ α : Type} (b : Bench) (s : σ) (routine : Routine σ α) : Option ((α × σ) × Bench) :=
  b.runFor patience (routine s)

/-- A bench with nobody in the background. -/
def quiet (w : World) : Bench := ⟨w, .ended⟩

/-- A bench with a listener in the background that has just started. -/
def withListener (w : World) (l : Listener) : Option Bench := do
  let (background, w) ← listen patience (Listener.perform l) w
  return ⟨w, background⟩

/-- Runs the listener to its end without letting time pass. -/
def finishListening (effects : Nat) (b : Bench) : Bench :=
  match effects, b.background with
  | effects + 1, .asleep _ rest =>
    match listen patience rest b.world with
    | some (background, w) => finishListening effects ⟨w, background⟩
    | none => b
  | _, _ => b

def shutDown (b : Bench) : Bench :=
  { b with world := b.world.act (.request .shutDown) }.finishListening rounds

end Bench

end GroundLink
