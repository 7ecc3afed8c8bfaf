import GroundLink.Packet.Checksum
import Mathlib.Data.Nat.Bitwise
import Mathlib.Logic.Function.Iterate

/-!
# The residue of the checksum

The register is linear in exclusive or.  So feeding it two octets is the same as adding them to its
contents and advancing it by sixteen bits (`Checksum.run_word`).  An advance loses nothing, hence
the register is at zero after two more octets exactly if they are what it held before, most
significant octet first (`Checksum.run_word_eq_zero_iff`).

It follows that octets with two more behind them are clean exactly if these two are the checksum of
the others (`Checksum.isClean_append_word`).
-/

namespace GroundLink.Checksum

/-! ### One bit -/

/-- The bit that falls out of the register. -/
theorem and_top_eq_zero_iff (r : UInt16) : r &&& 0x8000 = 0 ↔ r.toNat.testBit 15 = false := by
  rw [← UInt16.toNat_inj, UInt16.toNat_and, show (0x8000 : UInt16).toNat = 2 ^ 15 from rfl,
    show (0 : UInt16).toNat = 0 from rfl, Nat.and_two_pow]
  cases r.toNat.testBit 15 <;> simp

theorem advance_eq (r : UInt16) :
    advance r = (r <<< 1) ^^^ (if r.toNat.testBit 15 then 0x1021 else 0) := by
  rw [advance]
  cases htop : r.toNat.testBit 15 with
  | false => rw [if_pos ((and_top_eq_zero_iff r).mpr htop), if_neg Bool.false_ne_true,
      UInt16.xor_zero]
  | true =>
    have hout : ¬ r &&& 0x8000 = 0 := by
      rw [and_top_eq_zero_iff, htop]
      exact Bool.noConfusion
    rw [if_neg hout, if_pos rfl]

/-- **The register is linear** in exclusive or. -/
theorem advance_xor (x y : UInt16) : advance (x ^^^ y) = advance x ^^^ advance y := by
  have hfeed : (if (x ^^^ y).toNat.testBit 15 then (0x1021 : UInt16) else 0) =
      (if x.toNat.testBit 15 then 0x1021 else 0) ^^^ if y.toNat.testBit 15 then 0x1021 else 0 := by
    rw [UInt16.toNat_xor, Nat.testBit_xor]
    cases x.toNat.testBit 15 <;> cases y.toNat.testBit 15 <;> rfl
  rw [advance_eq, advance_eq x, advance_eq y, hfeed, UInt16.shiftLeft_xor]
  -- Both sides hold the same four terms.
  ac_rfl

/-- As long as no one falls out, the register only moves up. -/
theorem toNat_advance {r : UInt16} (low : r.toNat < 32768) : (advance r).toNat = 2 * r.toNat := by
  have htop : r.toNat.testBit 15 = false := Nat.testBit_lt_two_pow low
  rw [advance_eq, htop, if_neg Bool.false_ne_true, UInt16.xor_zero, UInt16.toNat_shiftLeft,
    show (1 : UInt16).toNat % 16 = 1 from rfl, Nat.shiftLeft_eq]
  omega

/-- **An advance loses nothing.**  If a one falls out, the lowest bit that is fed back is a one, and
nothing else is there. -/
theorem advance_eq_zero_iff {r : UInt16} : advance r = 0 ↔ r = 0 := by
  refine ⟨fun h => ?_, fun h => by rw [h]; rfl⟩
  cases htop : r.toNat.testBit 15 with
  | false =>
    rw [Nat.testBit_eq_decide_div_mod_eq, decide_eq_false_iff_not] at htop
    have hlow : r.toNat < 32768 := by have := r.toNat_lt; omega
    have hzero : 2 * r.toNat = 0 := by rw [← toNat_advance hlow, h]; rfl
    exact UInt16.toNat_inj.mp (by rw [UInt16.toNat_zero]; omega)
  | true =>
    rw [advance_eq, htop, if_pos rfl, UInt16.xor_eq_zero_iff] at h
    have hodd : (r <<< 1).toNat % 2 = 1 := by rw [h]; rfl
    rw [UInt16.toNat_shiftLeft, show (1 : UInt16).toNat % 16 = 1 from rfl, Nat.shiftLeft_eq] at hodd
    omega

/-! ### Several bits -/

theorem iterate_advance_xor (n : Nat) (x y : UInt16) :
    advance^[n] (x ^^^ y) = advance^[n] x ^^^ advance^[n] y := by
  induction n generalizing x y with
  | zero => rfl
  | succ n ih => rw [Function.iterate_succ_apply, advance_xor, ih, ← Function.iterate_succ_apply,
      ← Function.iterate_succ_apply]

theorem iterate_advance_eq_zero_iff (n : Nat) {r : UInt16} : advance^[n] r = 0 ↔ r = 0 := by
  induction n with
  | zero => rfl
  | succ n ih => rw [Function.iterate_succ_apply', advance_eq_zero_iff, ih]

theorem toNat_iterate_advance {n : Nat} {r : UInt16} (low : r.toNat * 2 ^ n < 65536) :
    (advance^[n] r).toNat = r.toNat * 2 ^ n := by
  induction n with
  | zero => simp
  | succ n ih =>
    rw [Nat.pow_succ, ← Nat.mul_assoc] at low ⊢
    have hn := ih (by omega)
    rw [Function.iterate_succ_apply', toNat_advance (by omega), hn]
    omega

/-- An octet in the lower half of the register moves to the upper half in eight steps. -/
theorem iterate_advance_octet (b : UInt8) : advance^[8] b.toUInt16 = b.toUInt16 <<< 8 := by
  have hb : b.toUInt16.toNat = b.toNat := UInt8.toNat_toUInt16 b
  have hlt := b.toNat_lt
  rw [← UInt16.toNat_inj, toNat_iterate_advance (by omega), UInt16.toNat_shiftLeft,
    show (8 : UInt16).toNat % 16 = 8 from rfl, Nat.shiftLeft_eq]
  omega

theorem run_cons (r : UInt16) (b : UInt8) (bs : Bytes) : run r (b :: bs) = run (feed r b) bs := rfl

theorem feed_eq (r : UInt16) (b : UInt8) : feed r b = advance^[8] (r ^^^ (b.toUInt16 <<< 8)) := rfl

/-! ### Two octets -/

/-- Numbers that share no bits are added without a carry. -/
theorem two_pow_mul_xor (hi : Nat) {lo k : Nat} (low : lo < 2 ^ k) :
    (2 ^ k * hi) ^^^ lo = 2 ^ k * hi + lo := by
  refine Nat.eq_of_testBit_eq fun i => ?_
  rw [Nat.testBit_xor, Nat.testBit_two_pow_mul_add _ low, Nat.testBit_two_pow_mul]
  by_cases hi : i < k
  · simp [hi, Nat.not_le.mpr hi]
  · have hnone : lo.testBit i = false :=
      Nat.testBit_lt_two_pow (Nat.lt_of_lt_of_le low (Nat.pow_le_pow_right (by omega) (by omega)))
    simp [hi, hnone, Nat.le_of_not_lt hi]

/-- The octets of a word do not overlap. -/
theorem word16_eq_xor (hi lo : UInt8) :
    Bytes.word16 hi lo = (hi.toUInt16 <<< 8) ^^^ lo.toUInt16 := by
  have hhi := hi.toNat_lt
  have hlo := lo.toNat_lt
  rw [← UInt16.toNat_inj, UInt16.toNat_xor, UInt16.toNat_shiftLeft, UInt8.toNat_toUInt16,
    UInt8.toNat_toUInt16, show (8 : UInt16).toNat % 16 = 8 from rfl, Nat.shiftLeft_eq, Bytes.word16,
    UInt16.toNat_ofNat', Nat.mod_eq_of_lt (by omega), Nat.mod_eq_of_lt (by omega), Nat.mul_comm,
    show 256 = 2 ^ 8 from rfl, two_pow_mul_xor hi.toNat hlo]

/-- **Two octets** are added to the register before it is advanced by sixteen bits. -/
theorem run_word (r : UInt16) (hi lo : UInt8) :
    run r [hi, lo] = advance^[16] (r ^^^ Bytes.word16 hi lo) := by
  have hrun : run r [hi, lo] = feed (feed r hi) lo := rfl
  rw [hrun, feed_eq, feed_eq, ← iterate_advance_octet lo, ← iterate_advance_xor,
    ← Function.iterate_add_apply, UInt16.xor_assoc, ← word16_eq_xor]

/-- **The residue.**  The register is at zero after two more octets exactly if they are what it held
before. -/
theorem run_word_eq_zero_iff {r : UInt16} {hi lo : UInt8} :
    run r [hi, lo] = 0 ↔ r = Bytes.word16 hi lo := by
  rw [run_word, iterate_advance_eq_zero_iff, UInt16.xor_eq_zero_iff]

/-! ### Clean packets -/

theorem run_append (r : UInt16) (bs cs : Bytes) : run r (bs ++ cs) = run (run r bs) cs :=
  List.foldl_append

/-- A packet is clean exactly if it ends with the checksum of the octets before. -/
theorem isClean_append_word (covered : Bytes) (hi lo : UInt8) :
    isClean (covered ++ [hi, lo]) = true ↔ checksum covered = Bytes.word16 hi lo := by
  rw [isClean, decide_eq_true_iff, checksum, run_append, run_word_eq_zero_iff, checksum]

end GroundLink.Checksum
