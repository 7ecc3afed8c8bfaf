import GroundLink.Number.Binary

/-!
# Reading numbers

* `Number.natural?` reads an unsigned number: an optional plus sign and one or more decimal digits.
* `Number.floating?` reads a decimal floating point number with optional sign, point and exponent,
  or the words for infinity and for what is not a number, and rounds it to the nearest of 64 bits.
-/

namespace GroundLink.Number

/-! ### Digits -/

def digitsValue (ds : List Char) : Nat :=
  ds.foldl (fun n c => n * 10 + (c.toNat - 48)) 0

/-- One or more decimal digits. -/
def digits? (cs : List Char) : Option Nat :=
  if cs.isEmpty || !cs.all Char.isDigit then none else some (digitsValue cs)

/-- An optional plus sign and one or more decimal digits. -/
def natural? : List Char → Option Nat
  | '+' :: cs => digits? cs
  | cs => digits? cs

def naturalBelow? (bound : Nat) (cs : List Char) : Option Nat := do
  let n ← natural? cs
  guard (n < bound)
  return n

/-! ### Floating point -/

/-- The bits of the 64-bit number nearest to `digits * 10 ^ power`.  Powers far beyond the range of
the format are decided without computing them. -/
def nearestBits (digits : Nat) (power : Int) : Nat :=
  if digits = 0 then 0
  else
    let magnitude := (digits.log2 : Int) * 30103 / 100000 + power
    if 320 < magnitude then Binary.double.infinityBits
    else if magnitude < -400 then 0
    else Binary.double.roundQuotient (digits * Nat.pow 10 power.toNat)
      (Nat.pow 10 (-power).toNat)

/-- A number with an optional sign in front. -/
def signed (cs : List Char) : Bool × List Char :=
  match cs with
  | '-' :: rest => (true, rest)
  | '+' :: rest => (false, rest)
  | _ => (false, cs)

/-- The exponent after its letter: an optional sign and one or more digits. -/
def exponent? (cs : List Char) : Option Int :=
  let (negative, rest) := signed cs
  (digits? rest).map fun n => if negative then -(n : Int) else n

/-- Digits around an optional point, at least one of them, and an optional exponent: the digits
and the power of ten of the last one. -/
def scientific? (cs : List Char) : Option (Nat × Int) := do
  let whole := cs.takeWhile Char.isDigit
  let rest := cs.dropWhile Char.isDigit
  let (fraction, rest) := match rest with
    | '.' :: tail => (tail.takeWhile Char.isDigit, tail.dropWhile Char.isDigit)
    | _ => ([], rest)
  guard !(whole.isEmpty && fraction.isEmpty)
  let power ← match rest with
    | [] => some 0
    | c :: tail => if c = 'e' ∨ c = 'E' then exponent? tail else none
  return (digitsValue (whole ++ fraction), power - fraction.length)

/-- The bits of a floating point number in text. -/
def floatingBits? (cs : List Char) : Option Nat :=
  let (negative, rest) := signed cs
  let sign := if negative then Binary.double.signBit else 0
  let word := rest.map Char.toLower
  if word = "inf".toList ∨ word = "infinity".toList then some (sign + Binary.double.infinityBits)
  else if word = "nan".toList then
    some (sign + Binary.double.nanBits)
  else (scientific? rest).map fun (digits, power) => sign + nearestBits digits power

/-- A floating point number in text. -/
def floating? (s : String) : Option Float :=
  (floatingBits? s.toList).map fun bits => Float.ofBits (UInt64.ofNat bits)

end GroundLink.Number
