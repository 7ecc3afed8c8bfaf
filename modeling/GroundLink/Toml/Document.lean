import GroundLink.Toml.Number

/-!
# Configuration documents

A document is a sequence of lines: headers, keys with values, comments and blank lines.  A header
opens the table that the keys after it belong to.

* `Toml.parse?` reads a document.

Values may be nested, but not deeper than a fixed number of levels.
-/

namespace GroundLink.Toml

/-! ### Values -/

/-- A fixed word. -/
def word (text : String) (value : Value) : Reader Value := fun cs =>
  if text.toList.isPrefixOf cs then some (value, cs.drop text.length) else none

/-- The items of an array after its opening bracket, with a reader for single values.  At most
`limit` items are read. -/
def items (value : Reader Value) : Nat → Reader (List Value)
  | 0, _ => none
  | limit + 1, cs =>
    match skipLines cs with
    | ']' :: rest => some ([], rest)
    | cs =>
      match value cs with
      | none => none
      | some (first, rest) =>
        match skipLines rest with
        | ',' :: rest => (items value limit rest).map fun (others, rest) => (first :: others, rest)
        | ']' :: rest => some ([first], rest)
        | _ => none

/-- A key and a value. -/
def pair (value : Reader Value) : Reader ((List String × String) × Value) := fun cs => do
  let (name, rest) ← key cs
  let (_, rest) ← char '=' rest
  let (content, rest) ← value (skipSpace rest)
  return ((name, content), rest)

/-- The rest of an inline table after its opening brace, whose first entries are given.  At most
`limit` entries are read. -/
def pairs (value : Reader Value) : Nat → Entries → Reader Entries
  | 0, _, _ => none
  | limit + 1, entries, cs => do
    let (((path, name), content), rest) ← pair value cs
    let entries ← entries.assign path name content
    match skipSpace rest with
    | ',' :: rest => pairs value limit entries rest
    | '\x7d' :: rest => some (entries, rest)
    | _ => none

/-- A value that holds at most so many levels of values. -/
def value : Nat → Reader Value
  | depth, cs =>
    match cs with
    | [] => none
    | c :: rest =>
      match c with
      | '"' | '\'' => (string cs).map fun (text, rest) => (.string text, rest)
      | '[' =>
        match depth with
        | 0 => none
        | depth + 1 =>
          (items (value depth) cs.length rest).map fun (found, rest) => (.array found, rest)
      | '\x7b' =>
        match depth with
        | 0 => none
        | depth + 1 =>
          match skipSpace rest with
          | '\x7d' :: rest => some (.table .inline [], rest)
          | _ =>
            (pairs (value depth) cs.length [] rest).map fun (entries, rest) =>
              (.table .inline entries, rest)
      | 't' => word "true" (.boolean true) cs
      | 'f' => word "false" (.boolean false) cs
      | _ => number cs

/-! ### Lines -/

/-- The text after a header, its closing brackets and the end of its line. -/
def closing? (brackets : Nat) (cs : List Char) : Option (List Char) :=
  if (List.replicate brackets ']').isPrefixOf cs then finishLine? (cs.drop brackets) else none

/-- A document that was read so far: its entries, and the table that keys belong to. -/
structure Partway where
  root : Entries
  current : List String

/-- Reads one line with something on it. -/
def line (s : Partway) (cs : List Char) : Option (Partway × List Char) :=
  match cs with
  | '[' :: '[' :: rest => do
    let ((path, name), rest) ← key rest
    let rest ← closing? 2 rest
    let root ← s.root.within (Entries.openElement name) path
    return (⟨root, path ++ [name]⟩, rest)
  | '[' :: rest => do
    let ((path, name), rest) ← key rest
    let rest ← closing? 1 rest
    let root ← s.root.within (Entries.openTable name) path
    return (⟨root, path ++ [name]⟩, rest)
  | _ => do
    let (((path, name), content), rest) ← pair (value (maxDepth - 1)) cs
    let rest ← finishLine? rest
    let root ← s.root.within (Entries.assign path name content) s.current
    return (⟨root, s.current⟩, rest)

/-- Reads lines to the end.  At most `limit` lines are read. -/
def lines (limit : Nat) (s : Partway) (cs : List Char) : Option Entries :=
  match limit with
  | 0 => none
  | limit + 1 =>
    match skipSpace cs with
    | [] => some s.root
    | '#' :: rest => (finishLine? ('#' :: rest)).bind (lines limit s)
    | rest =>
      match lineEnd? rest with
      | some rest => lines limit s rest
      | none => (line s rest).bind fun (s, rest) => lines limit s rest

def skipMark : List Char → List Char
  | c :: rest => if c.toNat = 0xFEFF then rest else c :: rest
  | [] => []

def parse? (text : String) : Option Entries :=
  let cs := skipMark text.toList
  lines (cs.length + 1) ⟨[], []⟩ cs

end GroundLink.Toml
