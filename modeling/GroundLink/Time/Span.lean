import GroundLink.Number.Binary
import GroundLink.Text.Numeral

/-!
# Time spans

Timeouts, waiting times and readings of the monotonic clock are whole numbers of nanoseconds up to
the largest that 64 bits of seconds can express.  Addition stops there, subtraction stops at zero.

* `Span.ofSeconds?` and `Span.seconds` convert from and to floating point seconds.
* `Span.scale` is the product of a span and a factor that timeouts are computed with.
* `Span.render` is how spans are written into the log.
-/

namespace GroundLink

/-- The largest number of nanoseconds of a span. -/
def Span.maxNanos : Nat := 18446744073709551615 * 1000000000 + 999999999

/-- A span of time. -/
structure Span where
  nanos : Nat
  nanos_le : nanos ≤ Span.maxNanos
  deriving DecidableEq

namespace Span

/-! ### Arithmetic -/

/-- The span of a number of nanoseconds, or the largest span. -/
def ofNanos (n : Nat) : Span :=
  ⟨min n maxNanos, Nat.min_le_right _ _⟩

def ofMillis (n : Nat) : Span := ofNanos (n * 1000000)

def ofSecs (n : Nat) : Span := ofNanos (n * 1000000000)

instance : Zero Span := ⟨⟨0, Nat.zero_le _⟩⟩

instance : Inhabited Span := ⟨0⟩

def top : Span := ⟨maxNanos, Nat.le_refl _⟩

/-- The sum, or the largest span. -/
def add (a b : Span) : Span := ofNanos (a.nanos + b.nanos)

instance : Add Span := ⟨add⟩

/-- The difference, or nothing. -/
def sub (a b : Span) : Span :=
  ⟨a.nanos - b.nanos, Nat.le_trans (Nat.sub_le _ _) a.nanos_le⟩

instance : Sub Span := ⟨sub⟩

instance : LE Span := ⟨fun a b => a.nanos ≤ b.nanos⟩

instance : LT Span := ⟨fun a b => a.nanos < b.nanos⟩

instance (a b : Span) : Decidable (a ≤ b) := inferInstanceAs (Decidable (a.nanos ≤ b.nanos))

instance (a b : Span) : Decidable (a < b) := inferInstanceAs (Decidable (a.nanos < b.nanos))

def wholeSecs (d : Span) : Nat := d.nanos / 1000000000

def subsecNanos (d : Span) : Nat := d.nanos % 1000000000

/-! ### Floating point seconds -/

/-- The span nearest to a number of seconds, a tie going to the even nanosecond.  Negative numbers,
numbers that no span reaches and whatever is no number have none. -/
def ofSeconds? (x : Float) : Option Span :=
  match Binary.double.decode x.toBits.toNat with
  | .finite negative mantissa power =>
    if negative && mantissa ≠ 0 then none
    else if 64 < power then if mantissa = 0 then some 0 else none
    else
      let nanos := Binary.scaledNearest (mantissa * 1000000000) 1 (-power)
      if nanos ≤ maxNanos then some (ofNanos nanos) else none
  | _ => none

def seconds (d : Span) : Float :=
  (UInt64.ofNat d.wholeSecs).toFloat + (UInt64.ofNat d.subsecNanos).toFloat / 1000000000.0

/-- A span times a factor.  Products that are not positive give the empty span, products that no
span reaches the largest one. -/
def scale (d : Span) (factor : Float) : Span :=
  let x := d.seconds * factor
  if x.isNaN || x ≤ 0.0 then 0 else (ofSeconds? x).getD top

/-- A span divided by a number that is at least one. -/
def divide (d : Span) (divisor : Float) : Span :=
  (ofSeconds? (d.seconds / divisor)).getD top

/-! ### Display -/

/-- A number of units with as many decimals as it needs. -/
def renderUnits (whole fraction places : Nat) (unit : String) : String :=
  let decimals := (Text.decimal places fraction).toList.reverse.dropWhile (· = '0')
  if decimals.isEmpty then toString whole ++ unit
  else toString whole ++ "." ++ String.ofList decimals.reverse ++ unit

/-- A span in the largest unit of which it holds at least one. -/
def render (d : Span) : String :=
  let n := d.nanos
  if 1000000000 ≤ n then renderUnits (n / 1000000000) (n % 1000000000) 9 "s"
  else if 1000000 ≤ n then renderUnits (n / 1000000) (n % 1000000) 6 "ms"
  else if 1000 ≤ n then renderUnits (n / 1000) (n % 1000) 3 "µs"
  else renderUnits n 0 0 "ns"

end Span

end GroundLink
