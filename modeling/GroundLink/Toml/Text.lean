import GroundLink.Bytes

/-!
# Text in configuration documents

Blanks, line ends, comments, strings and keys.  A reader takes what it reads from the start of a
text and returns the rest.

A string in double quotes knows escapes, a string in single quotes does not.  Three quotes instead
of one let a string span several lines.
-/

namespace GroundLink.Toml

/-- What is read from the start of a text, with the rest of the text. -/
abbrev Reader (α : Type) := List Char → Option (α × List Char)

/-! ### Blanks, lines and comments -/

/-- Whether a character is a blank inside a line. -/
def isSpace (c : Char) : Bool := c = ' ' || c = '\t'

/-- Drops the blanks at the start. -/
def skipSpace (cs : List Char) : List Char := cs.dropWhile isSpace

/-- The text after the end of the line. -/
def lineEnd? : List Char → Option (List Char)
  | '\n' :: rest => some rest
  | '\r' :: '\n' :: rest => some rest
  | _ => none

/-- Whether a character may stand in a comment: all but the controls other than the tab. -/
def isPlain (c : Char) : Bool := c = '\t' || (0x20 ≤ c.toNat && c.toNat ≠ 0x7F)

def skipComment : List Char → List Char
  | '#' :: rest => rest.dropWhile isPlain
  | cs => cs

/-- The text after blanks, a comment and the end of the line, or of the text. -/
def finishLine? (cs : List Char) : Option (List Char) :=
  match skipComment (skipSpace cs) with
  | [] => some []
  | rest => lineEnd? rest

/-- Drops blanks, comments and line ends.  A comment is followed by a line end. -/
def skipLines (cs : List Char) : List Char :=
  match skipSpace cs with
  | '\n' :: rest => skipRest rest.length rest
  | '\r' :: '\n' :: rest => skipRest rest.length rest
  | '#' :: rest =>
    match lineEnd? (rest.dropWhile isPlain) with
    | some rest => skipRest rest.length rest
    | none => '#' :: rest
  | rest => rest
where
  /-- The same for at most so many lines. -/
  skipRest : Nat → List Char → List Char
    | 0, cs => skipSpace cs
    | limit + 1, cs =>
      match skipSpace cs with
      | '#' :: rest =>
        match lineEnd? (rest.dropWhile isPlain) with
        | some rest => skipRest limit rest
        | none => '#' :: rest
      | rest =>
        match lineEnd? rest with
        | some rest => skipRest limit rest
        | none => rest

/-! ### Escapes -/

def hexValue? (digits : List Char) : Option Nat :=
  digits.foldlM (fun n c => (Bytes.hexValue? c).map (n * 16 + ·)) 0

def hexChar? (digits : List Char) : Option Char := do
  let n ← hexValue? digits
  if n.isValidChar then some (Char.ofNat n) else none

/-- The character of a short escape. -/
def shortEscape? : Char → Option Char
  | 'b' => some '\x08'
  | 't' => some '\t'
  | 'n' => some '\n'
  | 'f' => some '\x0c'
  | 'r' => some '\r'
  | '"' => some '"'
  | '\\' => some '\\'
  | _ => none

/-- Puts a character in front of what was read. -/
def glue (c : Char) (found : Option (List Char × List Char)) : Option (List Char × List Char) :=
  found.map fun (cs, rest) => (c :: cs, rest)

/-! ### Strings on one line -/

/-- The content of a string in double quotes, after the opening quote. -/
def basic : Reader (List Char)
  | [] => none
  | '"' :: rest => some ([], rest)
  | '\\' :: 'u' :: a :: b :: c :: d :: rest => do
    glue (← hexChar? [a, b, c, d]) (basic rest)
  | '\\' :: 'U' :: a :: b :: c :: d :: e :: f :: g :: h :: rest => do
    glue (← hexChar? [a, b, c, d, e, f, g, h]) (basic rest)
  | '\\' :: c :: rest => do glue (← shortEscape? c) (basic rest)
  | c :: rest => if isPlain c && c ≠ '\\' then glue c (basic rest) else none

/-- The content of a string in single quotes, after the opening quote. -/
def literal : Reader (List Char)
  | [] => none
  | '\'' :: rest => some ([], rest)
  | c :: rest => if isPlain c then glue c (literal rest) else none

/-! ### Strings on several lines -/

/-- What follows three quotes that end a string: up to two more quotes belong to the string. -/
def extraQuotes (quote : Char) : List Char → List Char × List Char
  | a :: b :: rest =>
    if a = quote ∧ b = quote then ([a, b], rest)
    else if a = quote then ([a], b :: rest)
    else ([], a :: b :: rest)
  | [a] => if a = quote then ([a], []) else ([], [a])
  | [] => ([], [])

/-- Whether the line ends after blanks. -/
def endsLine (cs : List Char) : Bool := (lineEnd? (skipSpace cs)).isSome

/-- The content of a string in three double quotes, after the opening quotes.  A backslash at the
end of a line drops all blanks and line ends that follow; `skips` says that they are being
dropped. -/
def longBasic (skips : Bool) : Reader (List Char)
  | [] => none
  | '"' :: '"' :: '"' :: rest => some (extraQuotes '"' rest)
  | '\\' :: 'u' :: a :: b :: c :: d :: rest => do
    glue (← hexChar? [a, b, c, d]) (longBasic false rest)
  | '\\' :: 'U' :: a :: b :: c :: d :: e :: f :: g :: h :: rest => do
    glue (← hexChar? [a, b, c, d, e, f, g, h]) (longBasic false rest)
  | '\\' :: c :: rest =>
    if endsLine (c :: rest) then longBasic true (c :: rest)
    else do glue (← shortEscape? c) (longBasic false rest)
  | '\r' :: '\n' :: rest => if skips then longBasic true rest else glue '\n' (longBasic false rest)
  | '\n' :: rest => if skips then longBasic true rest else glue '\n' (longBasic false rest)
  | c :: rest =>
    if skips && isSpace c then longBasic true rest
    else if isPlain c && c ≠ '\\' then glue c (longBasic false rest)
    else none

/-- The content of a string in three single quotes, after the opening quotes. -/
def longLiteral : Reader (List Char)
  | [] => none
  | '\'' :: '\'' :: '\'' :: rest => some (extraQuotes '\'' rest)
  | '\r' :: '\n' :: rest => glue '\n' (longLiteral rest)
  | '\n' :: rest => glue '\n' (longLiteral rest)
  | c :: rest => if isPlain c then glue c (longLiteral rest) else none

/-- Drops a line end right after the opening quotes. -/
def skipFirstLineEnd (cs : List Char) : List Char := (lineEnd? cs).getD cs

/-- A string of any kind. -/
def string : Reader String := fun cs =>
  (match cs with
  | '"' :: '"' :: '"' :: rest => longBasic false (skipFirstLineEnd rest)
  | '"' :: rest => basic rest
  | '\'' :: '\'' :: '\'' :: rest => longLiteral (skipFirstLineEnd rest)
  | '\'' :: rest => literal rest
  | _ => none).map fun (content, rest) => (String.ofList content, rest)

/-! ### Keys -/

/-- Whether a character may stand in a key without quotes. -/
def isBare (c : Char) : Bool := c.isAlphanum || c = '-' || c = '_'

/-- A name in a key. -/
def simpleKey : Reader String
  | '"' :: rest => (basic rest).map fun (content, rest) => (String.ofList content, rest)
  | '\'' :: rest => (literal rest).map fun (content, rest) => (String.ofList content, rest)
  | cs =>
    let name := cs.takeWhile isBare
    if name.isEmpty then none else some (String.ofList name, cs.dropWhile isBare)

/-- The levels that a document may be deep. -/
def maxDepth : Nat := 80

/-- At most `limit` names with dots in between, and blanks around them. -/
def dottedKey : Nat → Reader (List String)
  | 0, _ => none
  | limit + 1, cs =>
    match simpleKey (skipSpace cs) with
    | none => none
    | some (name, rest) =>
      match skipSpace rest with
      | '.' :: rest => (dottedKey limit rest).map fun (names, rest) => (name :: names, rest)
      | rest => some ([name], rest)

/-- A key: the names before the last one, and the last one. -/
def key : Reader (List String × String) := fun cs =>
  (dottedKey (maxDepth - 1) cs).bind fun (names, rest) =>
    names.getLast?.map fun last => ((names.dropLast, last), rest)

end GroundLink.Toml
