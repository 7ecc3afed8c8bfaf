import GroundLink.Files.Path
import GroundLink.Telecommand
import GroundLink.Time.Span

/-!
# Telecommand queues

A queue holds telecommands and the directives that are carried out between them, first in, first
out.  The front of the list is the front of the queue.
-/

namespace GroundLink

/-- An entry of a queue: a telecommand or a directive. -/
inductive Queue.Entry where
  | telecommand (tc : Telecommand.Packed)
  /-- Let time pass.  The collection window for replies grows by the same span. -/
  | wait (time : Span)
  /-- Print a text between blank lines. -/
  | print (text : String)
  /-- Print a text as it is. -/
  | printPlain (text : String)
  /-- Write what was printed so far to a file. -/
  | export (path : Path)
  /-- Set the collection window for replies. -/
  | timeout (time : Span)
  deriving DecidableEq

/-- A queue of telecommands and directives. -/
abbrev Queue := List Queue.Entry

namespace Queue

def Entry.telecommand? : Entry → Option Telecommand.Packed
  | .telecommand tc => some tc
  | _ => none

def Entry.isTelecommand (e : Entry) : Bool :=
  e.telecommand?.isSome

theorem Entry.exists_of_isTelecommand {e : Entry} (isTelecommand : e.isTelecommand = true) :
    ∃ tc, e = .telecommand tc := by
  cases e with
  | telecommand tc => exact ⟨tc, rfl⟩
  | wait _ | print _ | printPlain _ | «export» _ | timeout _ => exact nomatch isTelecommand

def push (q : Queue) (e : Entry) : Queue := q ++ [e]

def pop? : Queue → Option (Entry × Queue)
  | [] => none
  | e :: rest => some (e, rest)

def telecommands (q : Queue) : List Telecommand.Packed :=
  q.filterMap Entry.telecommand?

end Queue

end GroundLink
