import GroundLink.Proofs.Activity.Run
import GroundLink.Time.SteppingClock
import Mathlib.Algebra.GroupWithZero.Nat

/-!
# Time that passes by sleep

A clock that nobody else moves shows what was slept.  `Trace.slept` is the time that passes during
some deeds, and `SteppingClock.after` is a stepping clock after them.  As long as the clock does not
start over, it shows exactly that time more than before (`SteppingClock.now_after`), so the time
between two readings is what was slept (`SteppingClock.elapsed_after`).
-/

namespace GroundLink

def Deed.slept {σ : Type} (d : Deed σ) : Nat :=
  match d.effect with
  | .sleep time => time.nanos
  | _ => 0

/-! ### Deeds -/

/-- The time that passes during some deeds. -/
def Trace.slept {σ : Type} (t : Trace σ) : Nat := (t.map Deed.slept).sum

namespace Trace

variable {σ : Type}

theorem slept_append (t u : Trace σ) : slept (t ++ u) = slept t + slept u := by
  rw [slept, slept, slept, List.map_append, List.sum_append]

theorem slept_cons (d : Deed σ) (t : Trace σ) : slept (d :: t) = d.slept + slept t :=
  List.sum_cons

@[simp]
theorem slept_sleep (mark : σ) (time : Span) : slept [⟨mark, .sleep time, ()⟩] = time.nanos :=
  Nat.add_zero _

end Trace

/-! ### A stepping clock -/

namespace SteppingClock

variable {σ : Type}

def step (clock : SteppingClock) (d : Deed σ) : SteppingClock :=
  match d.effect with
  | .sleep time => clock.advance time
  | _ => clock

def after (clock : SteppingClock) (t : Trace σ) : SteppingClock :=
  t.foldl step clock

theorem after_append (clock : SteppingClock) (t u : Trace σ) :
    clock.after (t ++ u) = (clock.after t).after u :=
  List.foldl_append

theorem nanos_step (clock : SteppingClock) (d : Deed σ) :
    (clock.step d).nanos = clock.nanos + UInt64.ofNat d.slept := by
  obtain ⟨mark, effect, answer⟩ := d
  cases effect with
  | sleep time => rfl
  | _ => exact (UInt64.add_zero _).symm

/-- **A stepping clock counts what was slept**, also if it starts over meanwhile. -/
theorem nanos_after (clock : SteppingClock) (t : Trace σ) :
    (clock.after t).nanos = clock.nanos + UInt64.ofNat (Trace.slept t) := by
  induction t generalizing clock with
  | nil => exact (UInt64.add_zero _).symm
  | cons d t ih =>
    have hstep : clock.after (d :: t) = (clock.step d).after t := rfl
    rw [hstep, ih, nanos_step, Trace.slept_cons, UInt64.ofNat_add, UInt64.add_assoc]

/-- A stepping clock does not start over during some deeds. -/
def Lasts (clock : SteppingClock) (t : Trace σ) : Prop :=
  clock.nanos.toNat + Trace.slept t < 2 ^ 64

theorem Lasts.of_append {clock : SteppingClock} {t u : Trace σ} (h : clock.Lasts (t ++ u)) :
    clock.Lasts t := by
  rw [Lasts, Trace.slept_append] at h
  rw [Lasts]
  omega

/-- After some deeds, a stepping clock counts on for some time before it starts over. -/
def HasRoom (clock : SteppingClock) (time : Nat) (p : Trace σ) : Prop :=
  clock.nanos.toNat + Trace.slept p + time < 2 ^ 64

theorem HasRoom.mono {clock : SteppingClock} {m n : Nat} {p : Trace σ} (h : clock.HasRoom m p)
    (less : n ≤ m) : clock.HasRoom n p := by
  rw [HasRoom] at h ⊢
  omega

/-- What is slept is taken from the room. -/
theorem HasRoom.append {clock : SteppingClock} {m n : Nat} {p t : Trace σ} (h : clock.HasRoom m p)
    (less : Trace.slept t + n ≤ m) : clock.HasRoom n (p ++ t) := by
  rw [HasRoom] at h ⊢
  rw [Trace.slept_append]
  omega

/-- A clock does not start over during what it has room for. -/
theorem HasRoom.lasts {clock : SteppingClock} {m : Nat} {p t : Trace σ} (h : clock.HasRoom m p)
    (less : Trace.slept t ≤ m) : clock.Lasts (p ++ t) := by
  rw [HasRoom] at h
  rw [Lasts, Trace.slept_append]
  omega

/-- A stepping clock that does not start over shows how much later it is. -/
theorem now_after {clock : SteppingClock} {t : Trace σ} (lasts : clock.Lasts t) :
    (clock.after t).now.nanos = clock.nanos.toNat + Trace.slept t := by
  have hcount : (clock.after t).nanos.toNat = clock.nanos.toNat + Trace.slept t := by
    rw [nanos_after, UInt64.toNat_add, UInt64.toNat_ofNat', Nat.add_mod_mod]
    exact Nat.mod_eq_of_lt lasts
  have hbound : 2 ^ 64 ≤ Span.maxNanos := by decide
  have hfits : clock.nanos.toNat + Trace.slept t < 2 ^ 64 := lasts
  rw [now, Span.ofNanos, hcount]
  exact Nat.min_eq_left (by omega)

/-- Between two readings of a clock that does not start over lies what was slept. -/
theorem elapsed_after {clock : SteppingClock} {p t : Trace σ} (lasts : clock.Lasts (p ++ t)) :
    ((clock.after (p ++ t)).elapsedSince (clock.after p).now).nanos = Trace.slept t := by
  have hdifference : ((clock.after (p ++ t)).elapsedSince (clock.after p).now).nanos =
      (clock.after (p ++ t)).now.nanos - (clock.after p).now.nanos := rfl
  rw [hdifference, now_after lasts, now_after lasts.of_append, Trace.slept_append]
  omega

/-- Without sleep no time passes, also if the clock starts over. -/
theorem elapsed_after_still {clock : SteppingClock} {p t : Trace σ} (still : Trace.slept t = 0) :
    ((clock.after (p ++ t)).elapsedSince (clock.after p).now).nanos = 0 := by
  have hsame : clock.after (p ++ t) = clock.after p := by
    have hnanos : (clock.after (p ++ t)).nanos = (clock.after p).nanos := by
      rw [after_append, nanos_after, still]
      exact UInt64.add_zero _
    rw [← SteppingClock.mk.injEq] at hnanos
    exact hnanos
  rw [hsame]
  exact Nat.sub_self _

end SteppingClock

end GroundLink
