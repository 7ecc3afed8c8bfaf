/-!
# Binary numbers of fixed width

The interchange formats of 32 and 64 bits: a sign, a biased exponent and a fraction.  A finite
number is `mantissa * 2 ^ power`; everything here works on these two integers, exactly.

* `Binary.decode` reads the bits.
* `Binary.roundQuotient` gives the bits of the number nearest to a quotient of naturals.
-/

namespace GroundLink

/-- The widths of the stored fields. -/
structure Binary where
  fraction : Nat
  exponent : Nat
  deriving DecidableEq, Repr

namespace Binary

/-- The format of 32 bits. -/
def single : Binary := ⟨23, 8⟩

/-- The format of 64 bits. -/
def double : Binary := ⟨52, 11⟩

/-- What a bit pattern stands for. -/
inductive Value where
  | nan
  | infinite (negative : Bool)
  /-- The number `± mantissa * 2 ^ power`. -/
  | finite (negative : Bool) (mantissa : Nat) (power : Int)
  deriving DecidableEq, Repr

variable (f : Binary)

/-- The power of two of the smallest positive number. -/
def leastPower : Int :=
  2 - (Nat.pow 2 (f.exponent - 1) : Int) - (f.fraction : Int)

/-- The exponent field of infinity and of everything that is not a number. -/
def topField : Nat := Nat.pow 2 f.exponent - 1

def infinityBits : Nat := f.topField * Nat.pow 2 f.fraction

/-- The bits of what is not a number, as it is written: the greatest bit of the fraction is set. -/
def nanBits : Nat := f.infinityBits + Nat.pow 2 (f.fraction - 1)

def signBit : Nat := Nat.pow 2 (f.fraction + f.exponent)

/-- The value of a bit pattern. -/
def decode (bits : Nat) : Value :=
  let negative := bits / f.signBit % 2 = 1
  let field := bits / Nat.pow 2 f.fraction % Nat.pow 2 f.exponent
  let stored := bits % Nat.pow 2 f.fraction
  if field = f.topField then
    if stored = 0 then .infinite negative else .nan
  else if field = 0 then .finite negative stored f.leastPower
  else .finite negative (Nat.pow 2 f.fraction + stored) (f.leastPower + field - 1)

/-- A quotient rounded to the nearest natural, a tie to the even one. -/
def divNearest (num den : Nat) : Nat :=
  let q := num / den
  let twice := 2 * (num % den)
  if twice < den then q
  else if den < twice then q + 1
  else if q % 2 = 0 then q else q + 1

/-- The quotient `num * 2 ^ (-power) / den`, rounded to the nearest natural. -/
def scaledNearest (num den : Nat) (power : Int) : Nat :=
  divNearest (num * Nat.pow 2 (-power).toNat) (den * Nat.pow 2 power.toNat)

/-- Whether `num / den` is less than `2 ^ power`. -/
def quotientBelow (num den : Nat) (power : Int) : Bool :=
  num * Nat.pow 2 (-power).toNat < den * Nat.pow 2 power.toNat

/-- The bits of the non-negative number nearest to `num / den`, ties going to the even mantissa and
what is too large going to infinity.

The power of the last place is the one at which the mantissa has all its bits, but never less than
the least power.  A mantissa that rounds up to the next power of two carries into the exponent
field by itself. -/
def roundQuotient (num den : Nat) : Nat :=
  if num = 0 then 0
  else
    let guess : Int := (num.log2 : Int) - (den.log2 : Int)
    let top := if quotientBelow num den guess then guess - 1 else guess
    let power := max (top - f.fraction) f.leastPower
    let mantissa := scaledNearest num den power
    min ((power - f.leastPower).toNat * Nat.pow 2 f.fraction + mantissa) f.infinityBits

end Binary

end GroundLink
