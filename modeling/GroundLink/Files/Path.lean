/-!
# Paths

A path is kept as the text that names it, because that text appears in messages.  Its pieces are
what stands between its slashes.  Empty pieces mean nothing, and neither does a single dot, unless
it is the first piece.
-/

namespace GroundLink

structure Path where
  text : String
  deriving DecidableEq, Repr, Inhabited

namespace Path

/-- The pieces between the slashes. -/
def pieces (p : Path) : List String :=
  p.text.splitOn "/"

/-- The pieces without the empty ones at the end. -/
def body (p : Path) : List String :=
  (p.pieces.reverse.dropWhile fun s => s = "").reverse

/-- Whether a piece is a name, and not a step that stays in place or leads upwards. -/
def isName (piece : String) : Bool :=
  piece ≠ "" && piece ≠ "." && piece ≠ ".."

/-- Whether the path ends with a name and slashes behind it. -/
def endsWithNamedDirectory (p : Path) : Bool :=
  p.text.endsWith "/" && p.body.getLast?.any isName

def isAbsolute (p : Path) : Bool :=
  p.text.startsWith "/"

/-- The number of leading pieces up to and including the last one that names something. -/
def significant (pieces : List String) : Nat :=
  let trailing := pieces.reverse.takeWhile fun s => s = "" || s = "."
  let n := pieces.length - trailing.length
  if n = 0 ∧ pieces.head? = some "." then 1 else n

/-- What precedes the last piece that names something: empty for a single piece, and nothing for a
path without such a piece. -/
def parent? (p : Path) : Option Path :=
  let n := significant p.pieces
  if n = 0 then none
  else
    let before := p.pieces.take (n - 1)
    let m := significant before
    if m = 0 then some ⟨if p.isAbsolute then "/" else ""⟩
    else some ⟨"/".intercalate (before.take m)⟩

/-- A path that starts where another one leads, unless it starts at the root. -/
def join (base p : Path) : Path :=
  if p.isAbsolute || base.text.isEmpty then p
  else if base.text.endsWith "/" then ⟨base.text ++ p.text⟩
  else ⟨base.text ++ "/" ++ p.text⟩

end Path

end GroundLink
