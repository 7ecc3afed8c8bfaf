import GroundLink.Files.Path

/-!
# File trees

A file system as a value: directories and files by their places.  A place is the list of names from
the root, so that a step upwards drops the last name.

* `FileTree.write` writes a file whose directory exists.
* `FileTree.createAll` creates a directory and those above it.
-/

namespace GroundLink

/-- A place in a file tree, from the root downwards. -/
abbrev FileTree.Place := List String

/-- What stands at a place. -/
inductive FileTree.Node where
  | directory
  | file (content : ByteArray)

/-- A file tree and the directory in which relative paths start. -/
structure FileTree where
  working : FileTree.Place
  nodes : List (FileTree.Place × FileTree.Node)

namespace FileTree

/-- Why an operation on files fails. -/
inductive Error where
  | notFound
  | notDirectory
  | isDirectory
  | alreadyExists
  | nameTooLong
  | zeroCharacter
  deriving DecidableEq, Repr

/-- The text of a failure. -/
def Error.message : Error → String
  | .notFound => "No such file or directory (os error 2)"
  | .notDirectory => "Not a directory (os error 20)"
  | .isDirectory => "Is a directory (os error 21)"
  | .alreadyExists => "File exists (os error 17)"
  | .nameTooLong => "File name too long (os error 36)"
  | .zeroCharacter => "file name contained an unexpected NUL byte"

/-- An empty working directory. -/
def empty : FileTree :=
  ⟨["work"], [(["work"], .directory)]⟩

/-- What stands at a place. -/
def node? (t : FileTree) (place : Place) : Option Node :=
  if place.isEmpty then some .directory else t.nodes.lookup place

/-- The tree with something put at a place. -/
def set (t : FileTree) (place : Place) (node : Node) : FileTree :=
  { t with nodes := (t.nodes.filter fun entry => entry.1 ≠ place) ++ [(place, node)] }

/-- Fails unless a directory stands at a place. -/
def requireDirectory (t : FileTree) (place : Place) : Except Error Unit :=
  match t.node? place with
  | some .directory => .ok ()
  | some (.file _) => .error .notDirectory
  | none => .error .notFound

/-! ### Following paths -/

/-- Octets of the longest name. -/
def maxName : Nat := 255

/-- Octets of the longest path. -/
def maxPath : Nat := 4095

/-- Follows the pieces of a path from a place.  Whatever is left must be a directory. -/
def follow (t : FileTree) (place : Place) : List String → Except Error Place
  | [] => .ok place
  | piece :: rest => do
    t.requireDirectory place
    if piece = "" ∨ piece = "." then follow t place rest
    else if piece = ".." then follow t place.dropLast rest
    else if maxName < piece.utf8ByteSize then .error .nameTooLong
    else follow t (place ++ [piece]) rest

/-- Follows pieces from the place where a path starts, if the text of the path can name anything. -/
def followFrom (t : FileTree) (p : Path) (pieces : List String) : Except Error Place :=
  if p.text.toList.contains '\x00' then .error .zeroCharacter
  else if p.text.isEmpty then .error .notFound
  else if maxPath < p.text.utf8ByteSize then .error .nameTooLong
  else t.follow (if p.isAbsolute then [] else t.working) pieces

/-- The place that a path names.  All directories on the way must exist, and so must the last one if
a slash follows it. -/
def resolve (t : FileTree) (p : Path) : Except Error Place :=
  t.followFrom p p.pieces

def contains (t : FileTree) (p : Path) : Bool :=
  match t.resolve p with
  | .ok place => (t.node? place).isSome
  | .error _ => false

def isDirectory (t : FileTree) (p : Path) : Bool :=
  match t.resolve p with
  | .ok place => (t.requireDirectory place).isOk
  | .error _ => false

/-! ### Reading and writing -/

/-- The content of a file. -/
def read (t : FileTree) (p : Path) : Except Error ByteArray := do
  let place ← t.resolve p
  match t.node? place with
  | some (.file content) => .ok content
  | some .directory => .error .isDirectory
  | none => .error .notFound

/-- The place of a file to write.  A name with a slash behind it is a directory even if nothing
stands there, so it is not looked at: only what precedes it must be a directory. -/
def writePlace (t : FileTree) (p : Path) : Except Error Place :=
  if p.endsWithNamedDirectory then do
    let above ← t.followFrom p p.body.dropLast
    t.requireDirectory above
    throw .isDirectory
  else t.resolve p

/-- Writes a file, replacing one that stands at its place. -/
def write (t : FileTree) (p : Path) (content : ByteArray) : Except Error FileTree := do
  let place ← t.writePlace p
  match t.node? place with
  | some .directory => .error .isDirectory
  | some (.file _) => .ok (t.set place (.file content))
  | none => do
    t.requireDirectory place.dropLast
    return t.set place (.file content)

/-- Creates a directory in an existing one.  Slashes behind its name mean nothing. -/
def create (t : FileTree) (p : Path) : Except Error FileTree := do
  let place ← t.followFrom p p.body
  match t.node? place with
  | some _ => .error .alreadyExists
  | none => do
    t.requireDirectory place.dropLast
    return t.set place .directory

/-- Creates a directory, or accepts that it exists. -/
def ensure (t : FileTree) (p : Path) : Except Error FileTree :=
  match t.create p with
  | .ok created => .ok created
  | .error cause => if t.isDirectory p then .ok t else .error cause

/-- The tree after creating a directory and those above it, from the outermost inwards, and whether
that succeeded.  `depth` bounds the number of directories looked at. -/
def createUpTo (t : FileTree) (p : Path) : Nat → FileTree × Except Error Unit
  | 0 => (t, .error .notFound)
  | depth + 1 =>
    if p.text.isEmpty then (t, .ok ())
    else
      match t.ensure p with
      | .ok created => (created, .ok ())
      | .error .notFound =>
        match p.parent? with
        | none => (t, .error .notFound)
        | some above =>
          match createUpTo t above depth with
          | (t, .error cause) => (t, .error cause)
          | (t, .ok ()) =>
            match t.ensure p with
            | .ok created => (created, .ok ())
            | .error cause => (t, .error cause)
      | .error cause => (t, .error cause)

def createAll (t : FileTree) (p : Path) : FileTree × Except Error Unit :=
  t.createUpTo p (p.pieces.length + 1)

/-! ### Listing -/

/-- The files below the working directory with their places relative to it. -/
def listing (t : FileTree) : List (Place × ByteArray) :=
  t.nodes.filterMap fun (place, node) =>
    match node with
    | .file content =>
      if t.working.isPrefixOf place then some (place.drop t.working.length, content) else none
    | .directory => none

end FileTree

end GroundLink
