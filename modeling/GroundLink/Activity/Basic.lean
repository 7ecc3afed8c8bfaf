import GroundLink.Activity.Effect

/-!
# Activities

What the listener, a sender or the client does is an activity: a sequence of effects, each of which
may depend on the answers to those before it, and in the end a result.  An activity is a value that
says what happens; it does not make it happen.  So the same activity is run on a bench, run on real
hardware, interleaved with others, and reasoned about.

Every effect is marked with the state in which it takes place, so that a statement about a run can
speak of that state.

* `Activity.bind` carries on with the result of an activity.
* `Activity.next?` is the next thing that an activity does.
* `Routine` is an activity of somebody with a state.
-/

namespace GroundLink

/-- An activity in states of type `σ` with a result of type `α`. -/
inductive Activity (σ : Type) : Type → Type 1 where
  | done {α : Type} (result : α) : Activity σ α
  | act {α : Type} (mark : σ) (effect : Effect) (next : effect.Answer → Activity σ α) :
      Activity σ α
  /-- Repeat the body, as long as it yields a value to start from again. -/
  | loop {ι β α : Type} (start : ι) (body : ι → Activity σ (ι ⊕ β)) (next : β → Activity σ α) :
      Activity σ α

namespace Activity

/-- Carries on with the result of an activity. -/
def bind {σ α β : Type} (a : Activity σ α) (f : α → Activity σ β) : Activity σ β :=
  match a with
  | done result => f result
  | act mark effect next => act mark effect fun answer => (next answer).bind f
  | loop start body next => loop start body fun result => (next result).bind f

instance (σ : Type) : Monad (Activity σ) where
  pure := done
  bind := bind

/-- The same activity in states that are derived from its own. -/
def relabel {σ τ α : Type} (f : σ → τ) (a : Activity σ α) : Activity τ α :=
  match a with
  | done result => done result
  | act mark effect next => act (f mark) effect fun answer => (next answer).relabel f
  | loop start body next =>
    loop start (fun i => (body i).relabel f) fun result => (next result).relabel f

/-! ### The next thing to do -/

/-- The next thing that an activity does. -/
inductive Next (σ α : Type) : Type 1 where
  | done (result : α)
  | act (mark : σ) (effect : Effect) (next : effect.Answer → Activity σ α)

/-- What follows one round of a loop: the next round, or what comes after the loop. -/
def afterRound {σ ι β α : Type} (body : ι → Activity σ (ι ⊕ β)) (next : β → Activity σ α) :
    ι ⊕ β → Activity σ α
  | .inl start => loop start body next
  | .inr result => next result

/-- The next thing that an activity does.  At most `rounds` rounds of loops without any effect are
looked at. -/
def next? {σ α : Type} (rounds : Nat) (a : Activity σ α) : Option (Next σ α) :=
  match a, rounds with
  | done result, _ => some (.done result)
  | act mark effect next, _ => some (.act mark effect next)
  | loop _ _ _, 0 => none
  | loop start body next, rounds + 1 => next? rounds ((body start).bind (afterRound body next))

end Activity

/-! ### Activities with a state -/

/-- An activity of somebody with a state of type `σ`. -/
abbrev Routine (σ : Type) := StateT σ (Activity σ)

namespace Routine

variable {σ α : Type}

/-- A single effect. -/
def perform (effect : Effect) : Routine σ effect.Answer :=
  fun s => .act s effect fun answer => .done (answer, s)

/-- Repeats a routine, as long as it yields a value to start from again. -/
def iterate {ι : Type} (start : ι) (body : ι → Routine σ (ι ⊕ α)) : Routine σ α := fun s =>
  .loop (start, s) (fun (i, s) => (body i s).bind fun
    | (.inl i, s) => .done (.inl (i, s))
    | (.inr result, s) => .done (.inr (result, s))) .done

/-- Runs the routine of somebody else from a given state of theirs. -/
def delegate {τ : Type} (s : τ) (routine : Routine τ α) : Routine σ (α × τ) := fun mine =>
  ((routine s).relabel fun _ => mine).bind fun result => .done (result, mine)

def now : Routine σ Span := perform .now

def elapsedSince (reading : Span) : Routine σ Span := do
  return (← now) - reading

def sleep (time : Span) : Routine σ Unit := perform (.sleep time)

def log (entries : List Log.Entry) : Routine σ Unit :=
  if entries.isEmpty then pure () else perform (.log entries)

def note (entry : Log.Entry) : Routine σ Unit := perform (.log [entry])

def send (tc : Telecommand.Packed) : Routine σ (Except Link.Error Unit) := perform (.send tc)

/-- Makes a request to the listener.  Tells whether it could be delivered. -/
def request (r : Listener.Request) : Routine σ Bool := perform (.request r)

/-- Takes everything out of the telemetry queue. -/
def takeTelemetry : Routine σ (List Packet.Batch) := perform .takeTelemetry

def takeReply : Routine σ Bool := perform .takeReply

def writeFile (path : Path) (text : String) : Routine σ (Except FileTree.Error Unit) :=
  perform (.writeFile path text)

end Routine

end GroundLink
