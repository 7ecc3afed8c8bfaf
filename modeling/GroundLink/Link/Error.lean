import GroundLink.Packet.Basic

/-!
# Link operations

Every link to the spacecraft sends telecommands and raw data, is polled for telemetry, is asked
whether telemetry is available, and is closed.  An operation yields a result, the link afterwards
and its log.
-/

namespace GroundLink.Link

/-- The kinds of failure of an input or output operation. -/
inductive IoKind where
  | timedOut
  | interrupted
  | brokenPipe
  | networkUnreachable
  | other
  deriving DecidableEq, Repr

/-- Why an operation on a link fails. -/
inductive Error where
  | io (kind : IoKind) (text : String)
  | packet (cause : Packet.Error)
  | closed
  deriving DecidableEq, Repr

def Error.message : Error → String
  | .io _ text => "io error: " ++ text
  | .packet cause => "PUS error: " ++ cause.message
  | .closed => "communication interface is closed"

def brokenPipe : Error := .io .brokenPipe "broken pipe"

def unreachable : Error := .io .networkUnreachable "Network is unreachable (os error 101)"

/-- The outcome of an operation on a link of type `σ`. -/
structure Outcome (σ : Type) (α : Type) where
  result : Except Error α
  link : σ
  log : List Log.Entry

/-- An operation that succeeds without a word. -/
def Outcome.pure {σ α : Type} (link : σ) (a : α) : Outcome σ α := ⟨.ok a, link, []⟩

/-- An operation that fails without a word. -/
def Outcome.fail {σ α : Type} (link : σ) (cause : Error) : Outcome σ α := ⟨.error cause, link, []⟩

/-- The same outcome for a link that contains this one. -/
def Outcome.lift {σ τ α : Type} (f : σ → τ) (o : Outcome σ α) : Outcome τ α :=
  ⟨o.result, f o.link, o.log⟩

/-- What a poll yields: whether anything was received, and the packets. -/
abbrev Polled := Bool × Packet.Batch

/-- A poll of links that keep raw packets until they are asked for them: all of them are decoded. -/
def drain {σ : Type} (link : σ) (pending : List Bytes) : Outcome σ Polled :=
  ⟨.ok (!pending.isEmpty, Packet.decodeAll pending), link, Packet.decodeAllLog pending⟩

end GroundLink.Link
