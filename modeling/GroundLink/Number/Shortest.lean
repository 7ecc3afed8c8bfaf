import GroundLink.Number.Binary

/-!
# Shortest decimals

A binary number is written with the fewest decimal digits that read back to it.  The numbers that
round to it form an interval, from halfway to its lower neighbour to halfway to its upper one, ends
included when its mantissa is even.  The coarsest decimal grid with a point in the interval wins,
of two such points the nearer, and of two equally near ones the greater.

The text is always positional: no exponent is ever written, and a whole number has no point.
-/

namespace GroundLink

/-- The number `digits * 10 ^ power`. -/
structure Decimal where
  digits : Nat
  power : Int
  deriving DecidableEq, Repr

namespace Decimal

/-! ### Choosing the digits -/

/-- Turns a comparison of `a * 10 ^ grid` with `b * 2 ^ power` into one of naturals: the factors of
`a` and of `b`. -/
def scales (grid power : Int) : Nat × Nat :=
  (Nat.pow 10 grid.toNat * Nat.pow 2 (-power).toNat,
    Nat.pow 10 (-grid).toNat * Nat.pow 2 power.toNat)

/-- The point of a decimal grid that stands for `mantissa * 2 ^ power`, if one of the two next to it
rounds to it.  `narrow` says that the lower neighbour is only half as far away as the upper one. -/
def onGrid? (mantissa : Nat) (power : Int) (narrow : Bool) (grid : Int) : Option Decimal :=
  let (left, right) := scales grid (power - 2)
  let value := 4 * mantissa * right
  let low := (4 * mantissa - if narrow then 1 else 2) * right
  let high := (4 * mantissa + 2) * right
  let inside (c : Nat) : Bool :=
    if mantissa % 2 = 0 then low ≤ c * left && c * left ≤ high
    else low < c * left && c * left < high
  let below := value / left
  match inside below, inside (below + 1) with
  | true, true =>
    some ⟨if (2 * below + 1) * left ≤ 2 * value then below + 1 else below, grid⟩
  | true, false => some ⟨below, grid⟩
  | false, true => some ⟨below + 1, grid⟩
  | false, false => none

/-- An upper bound of the decimal exponent of `mantissa * 2 ^ power`, too large by two at most. -/
def gridBound (mantissa : Nat) (power : Int) : Int :=
  (power + mantissa.log2 + 1) * 30103 / 100000 + 1

/-- The shortest decimal of `mantissa * 2 ^ power`, the mantissa being positive. -/
def shortest (mantissa : Nat) (power : Int) (narrow : Bool) : Decimal :=
  let top := gridBound mantissa power
  let grids := (List.range 24).map fun (i : Nat) => top - (i : Int)
  (grids.findSome? (onGrid? mantissa power narrow)).getD ⟨mantissa, 0⟩

/-! ### Positional text -/

/-- The digits with the point at its place. -/
def positional (d : Decimal) : String :=
  let digits := Nat.toDigits 10 d.digits
  match d.power with
  | .ofNat n => String.ofList (digits ++ List.replicate n '0')
  | .negSucc n =>
    let places := n + 1
    let padded := List.replicate (places + 1 - digits.length) '0' ++ digits
    let whole := padded.length - places
    String.ofList (padded.take whole ++ '.' :: padded.drop whole)

end Decimal

namespace Binary

/-- The shortest text of a bit pattern. -/
def render (f : Binary) (bits : Nat) : String :=
  match f.decode bits with
  | .nan => "NaN"
  | .infinite negative => if negative then "-inf" else "inf"
  | .finite negative mantissa power =>
    let narrow := mantissa = Nat.pow 2 f.fraction ∧ f.leastPower < power
    let text := if mantissa = 0 then "0"
      else (Decimal.shortest mantissa power narrow).positional
    if negative then "-" ++ text else text

end Binary

end GroundLink
