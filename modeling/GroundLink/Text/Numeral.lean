/-!
# Numerals in columns and messages

Hexadecimal numbers are written with a leading `0x` and lower case digits, padded with zeros to the
width of their field.
-/

namespace GroundLink.Text

/-- The digits of a number to base sixteen, at least `width` of them. -/
def hexDigits (width n : Nat) : String :=
  let digits := Nat.toDigits 16 n
  String.ofList (List.replicate (width - digits.length) '0' ++ digits)

/-- A hexadecimal number with its `0x` and at least `width` digits. -/
def hex (width n : Nat) : String :=
  "0x" ++ hexDigits width n

/-- A decimal number with at least `width` digits. -/
def decimal (width n : Nat) : String :=
  let digits := Nat.toDigits 10 n
  String.ofList (List.replicate (width - digits.length) '0' ++ digits)

end GroundLink.Text
