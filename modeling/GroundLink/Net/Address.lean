import GroundLink.Bytes
import GroundLink.Text.Numeral

/-!
# Network addresses

Addresses of both versions of the internet protocol.

* `IpAddress.ofText?` reads an address, `IpAddress.render` writes it.

An address of version 4 is four decimal numbers below 256 without leading zeros.  An address of
version 6 is eight groups of up to four hexadecimal digits; two colons stand for one or more zero
groups, and the last two groups may be written as an address of version 4.
-/

namespace GroundLink.Net

/-- An internet address. -/
inductive IpAddress where
  | v4 (a b c d : UInt8)
  /-- Eight groups. -/
  | v6 (groups : Vector UInt16 8)
  deriving DecidableEq, Repr

namespace IpAddress

/-! ### Reading -/

/-- What is read from the start of a text, with the rest of the text. -/
abbrev Reader (α : Type) := List Char → Option (α × List Char)

def digitsValue (base : Nat) (digits : List Char) : Nat :=
  digits.foldl (fun n c => n * base + (Bytes.hexValue? c).getD 0) 0

/-- A decimal number below 256 without leading zeros. -/
def octet : Reader UInt8 := fun cs =>
  let digits := cs.takeWhile Char.isDigit
  let value := digitsValue 10 digits
  if digits.isEmpty || 3 < digits.length || 255 < value ||
      (digits.head? = some '0' && 1 < digits.length) then none
  else some (UInt8.ofNat value, cs.drop digits.length)

/-- One to four hexadecimal digits. -/
def group : Reader UInt16 := fun cs =>
  let digits := cs.takeWhile fun c => (Bytes.hexValue? c).isSome
  if digits.isEmpty || 4 < digits.length then none
  else some (UInt16.ofNat (digitsValue 16 digits), cs.drop digits.length)

def char (c : Char) : Reader Unit
  | [] => none
  | first :: rest => if first = c then some ((), rest) else none

/-- Four octets with points in between. -/
def octets : Reader (UInt8 × UInt8 × UInt8 × UInt8) := fun cs => do
  let (a, cs) ← octet cs
  let (_, cs) ← char '.' cs
  let (b, cs) ← octet cs
  let (_, cs) ← char '.' cs
  let (c, cs) ← octet cs
  let (_, cs) ← char '.' cs
  let (d, cs) ← octet cs
  return ((a, b, c, d), cs)

/-- Something that follows a colon, unless it comes first. -/
def separated {α : Type} (isFirst : Bool) (reader : Reader α) : Reader α := fun cs =>
  if isFirst then reader cs else (char ':' cs).bind fun (_, rest) => reader rest

/-- At most `limit` groups with colons in between.  The last two may be written as octets, which is
told. -/
def groups (isFirst : Bool) : Nat → List Char → (List UInt16 × Bool) × List Char
  | 0, cs => (([], false), cs)
  | limit + 1, cs =>
    match if 0 < limit then separated isFirst octets cs else none with
    | some ((a, b, c, d), rest) => (([Bytes.word16 a b, Bytes.word16 c d], true), rest)
    | none =>
      match separated isFirst group cs with
      | none => (([], false), cs)
      | some (g, rest) =>
        let ((others, ended), rest) := groups false limit rest
        ((g :: others, ended), rest)

/-- Eight groups, the missing ones being zeros between the first and the last ones. -/
def filled (first last : List UInt16) : IpAddress :=
  let all := first ++ List.replicate (8 - first.length - last.length) 0 ++ last
  .v6 (Vector.ofFn fun i => all.getD i.val 0)

/-- An address of version 6. -/
def version6 : Reader IpAddress := fun cs => do
  let ((first, ended), rest) := groups true 8 cs
  if first.length = 8 then return (filled first [], rest)
  if ended then none
  let (_, rest) ← char ':' rest
  let (_, rest) ← char ':' rest
  let ((last, _), rest) := groups true (7 - first.length) rest
  return (filled first last, rest)

/-- An address of version 4. -/
def version4 : Reader IpAddress := fun cs =>
  (octets cs).map fun ((a, b, c, d), rest) => (.v4 a b c d, rest)

def ofText? (text : String) : Option IpAddress :=
  match (version4 text.toList).or (version6 text.toList) with
  | some (address, []) => some address
  | _ => none

/-! ### Writing -/

/-- Four decimal numbers. -/
def renderOctets (a b c d : UInt8) : String := s!"{a}.{b}.{c}.{d}"

/-- Groups with colons in between. -/
def renderGroups (gs : List UInt16) : String :=
  ":".intercalate (gs.map fun g => String.ofList (Nat.toDigits 16 g.toNat))

/-- The number of zero groups at the start. -/
def zeros (gs : List UInt16) : Nat := (gs.takeWhile (· = 0)).length

/-- The start and the length of the longest run of zero groups, the first of equally long ones. -/
def longestZeros (gs : List UInt16) : Nat × Nat :=
  (List.range gs.length).foldl
    (fun best i => if best.2 < zeros (gs.drop i) then (i, zeros (gs.drop i)) else best) (0, 0)

/-- Writes an address.  In version 6 the longest run of two or more zero groups is left out, and an
address that stands for one of version 4 ends like it. -/
def render : IpAddress → String
  | .v4 a b c d => renderOctets a b c d
  | .v6 groups =>
    match groups.toList with
    | [0, 0, 0, 0, 0, 0xFFFF, g, h] =>
      "::ffff:" ++ renderOctets (UInt8.ofNat (g.toNat / 256)) (UInt8.ofNat g.toNat)
        (UInt8.ofNat (h.toNat / 256)) (UInt8.ofNat h.toNat)
    | gs =>
      let (start, length) := longestZeros gs
      if length ≤ 1 then renderGroups gs
      else renderGroups (gs.take start) ++ "::" ++ renderGroups (gs.drop (start + length))

end IpAddress

/-- An internet address with the number of a service on it. -/
structure Endpoint where
  address : IpAddress
  number : UInt16
  deriving DecidableEq, Repr

def Endpoint.render (e : Endpoint) : String :=
  match e.address with
  | .v4 _ _ _ _ => e.address.render ++ s!":{e.number}"
  | .v6 _ => "[" ++ e.address.render ++ s!"]:{e.number}"

end GroundLink.Net
