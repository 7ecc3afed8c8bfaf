/-!
# Values of a configuration document

A document is a tree of tables.  How a table came about decides whether it may still be extended:
a table with a header of its own may not get another one, and a table that stands inline is
complete.

* `Entries.assign` is what a line with a key and a value does to a table.
* `Entries.openTable` and `Entries.openElement` are what the headers of a table and of an element of
  an array of tables do.
-/

namespace GroundLink.Toml

/-- How a table came about. -/
inductive Origin where
  /-- It has a header of its own, or is an element of an array of tables. -/
  | header
  /-- It was named in the header of a table below it. -/
  | implied
  /-- It was named in a dotted key. -/
  | dotted
  /-- It stands in braces. -/
  | inline
  deriving DecidableEq, Repr

/-- A value. -/
inductive Value where
  | string (text : String)
  | integer (number : Int)
  /-- The bits of a floating point number. -/
  | float (bits : Nat)
  | boolean (value : Bool)
  | datetime (text : String)
  | array (items : List Value)
  | table (origin : Origin) (entries : List (String × Value))
  /-- An array of tables, made of headers. -/
  | tables (elements : List (List (String × Value)))
  deriving Repr

/-- The entries of a table in the order of their first mention. -/
abbrev Entries := List (String × Value)

namespace Entries

def replace (entries : Entries) (name : String) (value : Value) : Entries :=
  entries.map fun entry => if entry.1 = name then (name, value) else entry

/-- Changes the last element of an array of tables. -/
def onLast (f : Entries → Option Entries) : List Entries → Option (List Entries)
  | [] => none
  | [last] => (f last).map ([·])
  | first :: rest => (onLast f rest).map (first :: ·)

/-- Adds a value under a name that is not taken. -/
def add (entries : Entries) (name : String) (value : Value) : Option Entries :=
  if (entries.lookup name).isSome then none else some (entries ++ [(name, value)])

/-- Adds a value under a dotted key: the names before the last one, and the last one.  Tables on the
way are made as required.  Only tables made by dotted keys get further values that way. -/
def assign (path : List String) (name : String) (value : Value) (entries : Entries) :
    Option Entries :=
  match path with
  | [] => entries.add name value
  | first :: rest =>
    match entries.lookup first with
    | none =>
      (assign rest name value []).map fun inner =>
        entries ++ [(first, .table .dotted inner)]
    | some (.table .dotted inner) =>
      (assign rest name value inner).map fun inner =>
        entries.replace first (.table .dotted inner)
    | some (.table .implied inner) =>
      if rest.isEmpty then none
      else
        (assign rest name value inner).map fun inner =>
          entries.replace first (.table .implied inner)
    | some (.tables elements) =>
      if rest.isEmpty then none
      else
        (onLast (assign rest name value) elements).map fun elements =>
          entries.replace first (.tables elements)
    | some _ => none

/-- Does something to the table at a path.  Tables on the way are made as required, and in an array
of tables the last element is meant. -/
def within (f : Entries → Option Entries) (path : List String) (entries : Entries) :
    Option Entries :=
  match path with
  | [] => f entries
  | first :: rest =>
    match entries.lookup first with
    | none => (within f rest []).map fun inner => entries ++ [(first, .table .implied inner)]
    | some (.table .inline _) => none
    | some (.table origin inner) =>
      (within f rest inner).map fun inner => entries.replace first (.table origin inner)
    | some (.tables elements) =>
      (onLast (within f rest) elements).map fun elements =>
        entries.replace first (.tables elements)
    | some _ => none

/-- Opens a table with a header of its own. -/
def openTable (name : String) (entries : Entries) : Option Entries :=
  match entries.lookup name with
  | none => some (entries ++ [(name, .table .header [])])
  | some (.table .implied inner) => some (entries.replace name (.table .header inner))
  | some _ => none

/-- Opens a new element of an array of tables. -/
def openElement (name : String) (entries : Entries) : Option Entries :=
  match entries.lookup name with
  | none => some (entries ++ [(name, .tables [[]])])
  | some (.tables elements) => some (entries.replace name (.tables (elements ++ [[]])))
  | some _ => none

end Entries

end GroundLink.Toml
