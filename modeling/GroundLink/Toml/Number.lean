import GroundLink.Number.Reading
import GroundLink.Toml.Text
import GroundLink.Toml.Value

/-!
# Numbers and dates in configuration documents

Integers are decimal, or hexadecimal, octal or binary with a mark in front; floating point numbers
have a point or an exponent.  Underscores may stand between digits.  Dates and times are checked and
kept as text.
-/

namespace GroundLink.Toml

/-! ### Digits -/

/-- More digits of some kind, with underscores in between. -/
def moreDigits (p : Char → Bool) : Reader (List Char)
  | '_' :: c :: rest => if p c then glue c (moreDigits p rest) else none
  | c :: rest => if p c then glue c (moreDigits p rest) else if c = '_' then none
      else some ([], c :: rest)
  | [] => some ([], [])

/-- One or more digits of some kind, with underscores in between. -/
def someDigits (p : Char → Bool) : Reader (List Char)
  | c :: rest => if p c then glue c (moreDigits p rest) else none
  | [] => none

/-- A decimal number without leading zeros. -/
def wholeDigits : Reader (List Char)
  | '0' :: rest => some (['0'], rest)
  | cs => someDigits Char.isDigit cs

/-! ### Integers -/

/-- An integer of 64 bits. -/
def integer? (n : Int) : Option Value :=
  if -9223372036854775808 ≤ n ∧ n < 9223372036854775808 then some (.integer n) else none

/-- An integer in digits of some base. -/
def basedInteger (base : Nat) : Reader Value := fun cs => do
  let (digits, rest) ← someDigits (fun c => (Bytes.hexValue? c).any (· < base)) cs
  let value := digits.foldl (fun n c => n * base + (Bytes.hexValue? c).getD 0) 0
  return (← integer? value, rest)

/-! ### Floating point -/

/-- The fraction after a point. -/
def fraction : Reader (List Char)
  | '.' :: rest => someDigits Char.isDigit rest
  | cs => some ([], cs)

/-- The exponent after its letter. -/
def exponent : Reader Int
  | c :: rest =>
    if c = 'e' ∨ c = 'E' then
      let (negative, rest) := Number.signed rest
      (someDigits Char.isDigit rest).map fun (digits, rest) =>
        let n : Int := Number.digitsValue digits
        (if negative then -n else n, rest)
    else some (0, c :: rest)
  | [] => some (0, [])

/-- A floating point number.  Numbers beyond the greatest one are refused, those below the least one
are not. -/
def float? (negative : Bool) (digits : List Char) (power : Int) : Option Value :=
  let bits := Number.nearestBits (Number.digitsValue digits) power
  if negative then some (.float (Binary.double.signBit + bits))
  else if bits = Binary.double.infinityBits then none
  else some (.float bits)

/-- The words for infinity and for what is not a number. -/
def special (negative : Bool) : Reader Value := fun cs =>
  let sign := if negative then Binary.double.signBit else 0
  match cs with
  | 'i' :: 'n' :: 'f' :: rest => some (.float (sign + Binary.double.infinityBits), rest)
  | 'n' :: 'a' :: 'n' :: rest =>
    some (.float (sign + Binary.double.nanBits), rest)
  | _ => none

/-- A decimal number after its sign. -/
def decimal (negative : Bool) : Reader Value := fun cs => do
  let (whole, rest) ← wholeDigits cs
  let (places, afterPoint) ← fraction rest
  let (power, afterExponent) ← exponent afterPoint
  if afterExponent.length = rest.length then
    let n : Int := Number.digitsValue whole
    return (← integer? (if negative then -n else n), rest)
  return (← float? negative (whole ++ places) (power - places.length), afterExponent)

/-! ### Dates and times -/

/-- A number of a given count of digits within bounds. -/
def bounded (count low high : Nat) : Reader Nat := fun cs =>
  let digits := cs.take count
  match Number.digits? digits with
  | some n =>
    if digits.length = count ∧ low ≤ n ∧ n ≤ high then some (n, cs.drop count) else none
  | none => none

def char (c : Char) : Reader Unit
  | first :: rest => if first = c then some ((), rest) else none
  | [] => none

/-- The days of a month. -/
def daysOfMonth (year month : Nat) : Nat :=
  if month = 2 then
    if year % 4 = 0 ∧ (year % 100 ≠ 0 ∨ year % 400 = 0) then 29 else 28
  else if month = 4 ∨ month = 6 ∨ month = 9 ∨ month = 11 then 30
  else 31

/-- The text after a date. -/
def date? (cs : List Char) : Option (List Char) := do
  let (year, cs) ← bounded 4 0 9999 cs
  let (_, cs) ← char '-' cs
  let (month, cs) ← bounded 2 1 12 cs
  let (_, cs) ← char '-' cs
  let (_, cs) ← bounded 2 1 (daysOfMonth year month) cs
  return cs

/-- The text after the hour and the colon of a time. -/
def hour? (cs : List Char) : Option (List Char) := do
  let (_, cs) ← bounded 2 0 23 cs
  let (_, cs) ← char ':' cs
  return cs

/-- The text after the decimals of a second. -/
def decimals? : List Char → Option (List Char)
  | '.' :: rest =>
    let digits := rest.takeWhile Char.isDigit
    if digits.isEmpty then none else some (rest.dropWhile Char.isDigit)
  | cs => some cs

/-- The text after the minute and the second of a time. -/
def minuteAndSecond? (cs : List Char) : Option (List Char) := do
  let (_, cs) ← bounded 2 0 59 cs
  let (_, cs) ← char ':' cs
  let (_, cs) ← bounded 2 0 60 cs
  decimals? cs

def time? (cs : List Char) : Option (List Char) := (hour? cs).bind minuteAndSecond?

/-- The text after the offset of a zone, if there is one. -/
def zone? : List Char → Option (List Char)
  | c :: rest =>
    if c = 'Z' ∨ c = 'z' then some rest
    else if c = '+' ∨ c = '-' then do
      let rest ← hour? rest
      let (_, rest) ← bounded 2 0 59 rest
      return rest
    else some (c :: rest)
  | [] => some []

/-- The text after a date, which a time may follow. -/
def dateAndTime? (cs : List Char) : Option (List Char) := do
  let rest ← date? cs
  match rest with
  | c :: afterMark =>
    if c = 'T' ∨ c = 't' ∨ c = ' ' then
      match hour? afterMark with
      | some cs => (minuteAndSecond? cs).bind zone?
      | none => return rest
    else return rest
  | [] => return rest

def startsDate (cs : List Char) : Bool := ((bounded 4 0 9999 cs).bind fun r => char '-' r.2).isSome

def startsTime (cs : List Char) : Bool := (hour? cs).isSome

/-- A date or a time as text. -/
def dated (read : List Char → Option (List Char)) : Reader Value := fun cs =>
  (read cs).map fun rest =>
    (.datetime (String.ofList (cs.take (cs.length - rest.length))), rest)

/-! ### All of them -/

/-- A number, a date or a time. -/
def number : Reader Value := fun cs =>
  if startsDate cs then dated dateAndTime? cs
  else if startsTime cs then dated time? cs
  else
    match cs with
    | '0' :: 'x' :: rest => basedInteger 16 rest
    | '0' :: 'o' :: rest => basedInteger 8 rest
    | '0' :: 'b' :: rest => basedInteger 2 rest
    | _ =>
      let (negative, rest) := Number.signed cs
      (special negative rest).or (decimal negative rest)

end GroundLink.Toml
