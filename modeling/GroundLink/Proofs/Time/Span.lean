import GroundLink.Time.Span

/-!
# The empty span in floating point

A factor makes nothing of the empty span: the product is a zero or no number, and either gives the
empty span again (`Span.scale_zero`).  So a product that is not empty comes from a span that is not
(`Span.pos_of_scale`).
-/

namespace GroundLink.Span

open Float.Model (UnpackedFloat Format)

theorem unpack_seconds_zero : (seconds 0).toModel.unpack = .zero .positive := by
  have hbits : (seconds 0).toModel.toBits = 0 := by decide +kernel
  rw [Float.Model.unpack, hbits]
  rfl

/-- Zero times a floating point number is a zero, or no number. -/
theorem zero_mul_cases (y : UnpackedFloat) :
    UnpackedFloat.mul Format.binary64 (.zero .positive) y = .notANumber ∨
      ∃ sign, UnpackedFloat.mul Format.binary64 (.zero .positive) y = .zero sign := by
  cases y with
  | notANumber => exact .inl rfl
  | infinity sign => exact .inl rfl
  | zero sign => exact .inr ⟨_, rfl⟩
  | finite sign mantissa power positive => exact .inr ⟨_, rfl⟩

/-- **The empty span times a factor** is the empty span, whatever the factor. -/
theorem scale_zero (factor : Float) : scale 0 factor = 0 := by
  have hproduct : seconds 0 * factor = .ofModel (.pack
      (UnpackedFloat.mul Format.binary64 (.zero .positive) factor.toModel.unpack)) := by
    rw [← unpack_seconds_zero]
    rfl
  have hnotANumber : (Float.ofModel (.pack .notANumber)).isNaN = true := by decide +kernel
  have hzero : ∀ sign, Float.ofModel (.pack (.zero sign)) ≤ 0.0 := by
    intro sign
    cases sign with
    | negative => decide +kernel
    | positive => decide +kernel
  refine if_pos ?_
  rw [hproduct, Bool.or_eq_true, decide_eq_true_iff]
  rcases zero_mul_cases factor.toModel.unpack with h | ⟨sign, h⟩
  · rw [h]
    exact .inl hnotANumber
  · rw [h]
    exact .inr (hzero sign)

theorem pos_of_scale {d : Span} {factor : Float} (h : 0 < (d.scale factor).nanos) :
    0 < d.nanos := by
  refine Nat.pos_of_ne_zero fun hempty => ?_
  obtain rfl : d = 0 := by
    obtain ⟨nanos, _⟩ := d
    cases hempty
    rfl
  rw [scale_zero] at h
  exact Nat.lt_irrefl 0 h

end GroundLink.Span
