import GroundLink.Proofs.Packet.Buffer
import GroundLink.Proofs.Packet.Detection
import Mathlib.Algebra.Field.ZMod
import Mathlib.Algebra.Polynomial.Div
import Mathlib.Tactic.ComputeDegree

/-!
# The checksum is a residue

Bits are the coefficients of a polynomial over the field of two elements.  An advance of the
register multiplies its polynomial by `X`, and takes the generator away if a one falls out
(`Checksum.wordPolynomial_advance`).  So the register always holds the rest of a division by the
generator (`Checksum.wordPolynomial_run`): what is divided are the octets, with room for a checksum
behind them and the first contents of the register added in front.  This says which checksum it is,
without its register (`Checksum.checksum_eq_iff`).

Packets make use of one property of it: octets are clean exactly if the last two of them are the
checksum of the others.  Writing the checksum over the last two octets of a buffer, whatever they
are, brings this about and does nothing else.

The main statement is `Checksum.residue_characterises_field`.
-/

namespace GroundLink.Checksum

open Polynomial

/-! ### Bits as polynomials -/

/-- A bit as an element of the field of two elements. -/
def coefficient (bit : Bool) : ZMod 2 := bit.toNat

/-- The polynomial of a word, whose lowest bit is the constant coefficient. -/
noncomputable def wordPolynomial (w : UInt16) : (ZMod 2)[X] :=
  ∑ i ∈ Finset.range 16, C (coefficient (w.toNat.testBit i)) * X ^ i

/-- The polynomial of a string of bits, whose last bit is the constant coefficient. -/
noncomputable def bitPolynomial : List Bool → (ZMod 2)[X]
  | [] => 0
  | bit :: bits => C (coefficient bit) * X ^ bits.length + bitPolynomial bits

noncomputable def generator : (ZMod 2)[X] := X ^ 16 + X ^ 12 + X ^ 5 + 1

@[simp]
theorem coefficient_false : coefficient false = 0 := rfl

@[simp]
theorem coefficient_true : coefficient true = 1 := rfl

theorem coefficient_injective : Function.Injective coefficient := by decide

theorem coefficient_xor (a b : Bool) : coefficient (a ^^ b) = coefficient a + coefficient b := by
  cases a <;> cases b <;> decide

theorem testBit_eq_false_of_le (w : UInt16) {k : Nat} (h : 16 ≤ k) : w.toNat.testBit k = false :=
  Nat.testBit_lt_two_pow (Nat.lt_of_lt_of_le w.toNat_lt (Nat.pow_le_pow_right (by decide) h))

theorem coeff_wordPolynomial (w : UInt16) (k : Nat) :
    (wordPolynomial w).coeff k = coefficient (w.toNat.testBit k) := by
  simp only [wordPolynomial, finsetSum_coeff, coeff_C_mul, coeff_X_pow, mul_ite, mul_one, mul_zero,
    Finset.sum_ite_eq, Finset.mem_range]
  by_cases h : k < 16
  · rw [if_pos h]
  · rw [if_neg h, testBit_eq_false_of_le w (Nat.le_of_not_lt h), coefficient_false]

/-- A word is known from its polynomial. -/
theorem wordPolynomial_injective : Function.Injective wordPolynomial := by
  intro v w h
  apply UInt16.toNat_inj.mp
  apply Nat.eq_of_testBit_eq
  intro k
  apply coefficient_injective
  rw [← coeff_wordPolynomial, ← coeff_wordPolynomial, h]

theorem wordPolynomial_xor (v w : UInt16) :
    wordPolynomial (v ^^^ w) = wordPolynomial v + wordPolynomial w := by
  ext k
  rw [coeff_add, coeff_wordPolynomial, coeff_wordPolynomial, coeff_wordPolynomial, UInt16.toNat_xor,
    Nat.testBit_xor, coefficient_xor]

/-- Moving up by one place multiplies by `X`, and the bit that falls out is taken away. -/
theorem wordPolynomial_shiftLeft (w : UInt16) : wordPolynomial (w <<< 1) =
    X * wordPolynomial w + C (coefficient (w.toNat.testBit 15)) * X ^ 16 := by
  have hbit (k : Nat) :
      (w <<< 1).toNat.testBit (k + 1) = (decide (k < 15) && w.toNat.testBit k) := by
    rw [UInt16.toNat_shiftLeft, show (1 : UInt16).toNat % 16 = 1 from rfl, Nat.testBit_mod_two_pow,
      Nat.testBit_shiftLeft]
    simp [show k + 1 < 16 ↔ k < 15 by omega]
  ext k
  rw [coeff_wordPolynomial, coeff_add, coeff_C_mul, coeff_X_pow]
  cases k with
  | zero => simp
  | succ k =>
    rw [coeff_X_mul, coeff_wordPolynomial, hbit]
    rcases Nat.lt_trichotomy k 15 with h | h | h
    · simp [h, Nat.ne_of_lt h]
    · -- The bit that falls out stands on the right twice, which is nothing in this field.
      subst h
      cases w.toNat.testBit 15 <;> decide
    · simp [testBit_eq_false_of_le w h, Nat.ne_of_gt h]

/-- The word that is fed back is the generator without its leading term. -/
theorem wordPolynomial_feedback : wordPolynomial 0x1021 = X ^ 12 + X ^ 5 + 1 := by
  simp [wordPolynomial, coefficient, Finset.sum_range_succ, Nat.testBit]
  ring

/-- The register starts with ones. -/
theorem wordPolynomial_start : wordPolynomial start = ∑ i ∈ Finset.range 16, X ^ i := by
  refine Finset.sum_congr rfl fun i hi => ?_
  have hone : start.toNat.testBit i = true := by
    have hlt : i < 16 := Finset.mem_range.mp hi
    decide +revert
  rw [hone, coefficient_true, C_1, one_mul]

/-! ### The rest of a division -/

/-- **An advance** multiplies by `X`, and takes the generator away if a one falls out. -/
theorem wordPolynomial_advance (r : UInt16) : wordPolynomial (advance r) =
    X * wordPolynomial r + C (coefficient (r.toNat.testBit 15)) * generator := by
  rw [advance_eq, wordPolynomial_xor, wordPolynomial_shiftLeft]
  cases r.toNat.testBit 15 with
  | false => simp [wordPolynomial]
  | true =>
    rw [if_pos rfl, wordPolynomial_feedback, coefficient_true, C_1, generator]
    ring

/-- A bit is added above the register, up to a multiple of the generator. -/
theorem wordPolynomial_feedBit (r : UInt16) (bit : Bool) :
    ∃ q, wordPolynomial (feedBit r bit) =
      X * wordPolynomial r + X ^ 16 * C (coefficient bit) + generator * q := by
  have hbit : wordPolynomial (if bit then 0x8000 else 0) = X ^ 15 * C (coefficient bit) := by
    cases bit <;> simp [wordPolynomial, coefficient, Finset.sum_range_succ, Nat.testBit]
  refine ⟨C (coefficient ((r ^^^ if bit then 0x8000 else 0).toNat.testBit 15)), ?_⟩
  rw [feedBit, wordPolynomial_advance, wordPolynomial_xor, hbit]
  ring

/-- **Fed bit by bit**, the register holds the bits behind what it held before, up to a multiple of
the generator. -/
theorem wordPolynomial_feedBits (r : UInt16) (bits : List Bool) :
    ∃ q, wordPolynomial (feedBits r bits) =
      X ^ bits.length * wordPolynomial r + X ^ 16 * bitPolynomial bits + generator * q := by
  induction bits generalizing r with
  | nil => exact ⟨0, by simp [feedBits, bitPolynomial]⟩
  | cons bit bits ih =>
    obtain ⟨q, hq⟩ := wordPolynomial_feedBit r bit
    obtain ⟨p, hp⟩ := ih (feedBit r bit)
    -- The later bits move the first one up, and its multiple of the generator with it.
    refine ⟨X ^ bits.length * q + p, ?_⟩
    rw [feedBits_cons, hp, hq, bitPolynomial, List.length_cons]
    ring

theorem generator_monic : generator.Monic := by
  unfold generator
  monicity!

theorem degree_wordPolynomial_lt (w : UInt16) :
    (wordPolynomial w).degree < generator.degree := by
  have hgenerator : generator.degree = (16 : ℕ) := by
    unfold generator
    compute_degree!
  rw [hgenerator, degree_lt_iff_coeff_zero]
  intro k hk
  rw [coeff_wordPolynomial, testBit_eq_false_of_le w hk, coefficient_false]

/-- **The register is the rest of a division** by the generator.  What it held before stands in
front of the octets, and sixteen places stay free behind them. -/
theorem wordPolynomial_run (r : UInt16) (bs : Bytes) : wordPolynomial (run r bs) =
    (X ^ 16 * bitPolynomial bs.bits + X ^ (8 * bs.length) * wordPolynomial r) %ₘ generator := by
  obtain ⟨q, hq⟩ := wordPolynomial_feedBits r bs.bits
  rw [run_eq_feedBits, ← Bytes.length_bits]
  -- Of all that differ by multiples of the generator, only the rest has a lower degree.
  refine ((div_modByMonic_unique (-q) _ generator_monic ⟨?_, degree_wordPolynomial_lt _⟩).2).symm
  rw [hq]
  ring

/-- **Which checksum it is**: the only word whose polynomial is the rest of the division.  The
first sixteen places of what is divided have a one added to each. -/
theorem checksum_eq_iff (bs : Bytes) (w : UInt16) : checksum bs = w ↔ wordPolynomial w =
    (X ^ 16 * bitPolynomial bs.bits + X ^ (8 * bs.length) * ∑ i ∈ Finset.range 16, X ^ i) %ₘ
      generator := by
  rw [← wordPolynomial_start, ← wordPolynomial_run]
  constructor
  · intro h
    rw [← h]
    rfl
  · intro h
    exact (wordPolynomial_injective h).symm

/-- The octets of the text `123456789`. -/
example : checksum [0x31, 0x32, 0x33, 0x34, 0x35, 0x36, 0x37, 0x38, 0x39] = 0x29B1 := by
  decide +kernel

/-! ### The checksum field -/

/-- Octets that hold a checksum field end with a word. -/
theorem exists_eq_append_ofWord16 {packet : Bytes} (holds : size ≤ packet.length) :
    ∃ covered field, packet = covered ++ Bytes.ofWord16 field := by
  have hlength : (packet.drop (packet.length - size)).length = 2 := by
    rw [List.length_drop]
    exact Nat.sub_sub_self holds
  obtain ⟨hi, lo, hfield⟩ := List.length_eq_two.mp hlength
  refine ⟨packet.take (packet.length - size), Bytes.word16 hi lo, ?_⟩
  rw [Bytes.ofWord16_word16, ← hfield, List.take_append_drop]

/-- **Writing in place** comes to the same as making a new packet, and a failure leaves the buffer
as it was. -/
theorem run_write_eq_stamp (buffer : Bytes) : write.run buffer =
    match stamp buffer with
    | .ok (crc, after) => .ok crc after
    | .error cause => .error cause buffer := by
  by_cases hshort : buffer.length < size
  · rw [stamp, if_pos hshort, run_write_of_lt hshort]
  · obtain ⟨covered, field, rfl⟩ := exists_eq_append_ofWord16 (Nat.le_of_not_lt hshort)
    rw [stamp_append covered rfl, run_write_append covered rfl]

/-- **The residue characterises the checksum field.**  The checksum of any octets is the rest of
their division by the generator.  Octets that cannot hold a checksum field are refused by writing
one, and stay as they are.  All others are clean exactly if the word at their end is the checksum of
what comes before it.  Writing returns this checksum and changes no octets but the last two; the
result is clean, and it is what was there exactly if that was clean already, so that writing again
changes nothing. -/
theorem residue_characterises_field (packet : Bytes) :
    (∀ w, checksum packet = w ↔ wordPolynomial w =
      (X ^ 16 * bitPolynomial packet.bits +
        X ^ (8 * packet.length) * ∑ i ∈ Finset.range 16, X ^ i) %ₘ generator) ∧
    if packet.length < 2 then
      write.run packet = .error (.tooShort 2 packet.length) packet ∧
        stamp packet = .error (.tooShort 2 packet.length)
    else
      let crc := checksum (packet.take (packet.length - 2))
      (isClean packet = true ↔ Bytes.word16At? packet (packet.length - 2) = some crc) ∧
      ∃ after, write.run packet = .ok crc after ∧ stamp packet = .ok (crc, after) ∧
        after.length = packet.length ∧
        after.take (packet.length - 2) = packet.take (packet.length - 2) ∧
        isClean after = true ∧ (isClean packet = true ↔ after = packet) ∧
        write.run after = .ok crc after ∧ stamp after = .ok (crc, after) := by
  refine ⟨checksum_eq_iff packet, ?_⟩
  by_cases hshort : packet.length < 2
  · have hrefused : stamp packet = .error (.tooShort 2 packet.length) := if_pos hshort
    rw [if_pos hshort, run_write_eq_stamp, hrefused]
    exact ⟨rfl, rfl⟩
  · obtain ⟨covered, field, rfl⟩ := exists_eq_append_ofWord16 (Nat.le_of_not_lt hshort)
    have hlength : (covered ++ Bytes.ofWord16 field).length - 2 = covered.length := by
      rw [List.length_append, Bytes.length_ofWord16, Nat.add_sub_cancel]
    -- From here on all is about the two parts: what is covered, and the word behind it.
    have hword := Bytes.word16At?_append covered field []
    rw [List.append_nil] at hword
    have hclean := isClean_append_ofWord16 covered field
    have hstamp := stamp_append covered (Bytes.length_ofWord16 field)
    have hagain : stamp (close covered) = .ok (checksum covered, close covered) :=
      stamp_append covered (Bytes.length_ofWord16 _)
    rw [if_neg hshort, hlength, List.take_left, hword]
    refine ⟨?_, close covered, ?_, hstamp, ?_, List.take_left, isClean_close covered, ?_, ?_,
      hagain⟩
    · rw [hclean, Option.some_inj, eq_comm]
    · rw [run_write_eq_stamp, hstamp]
    · rw [length_close, List.length_append, Bytes.length_ofWord16, size]
    · constructor
      · intro clean
        rw [close, hclean.mp clean]
      · intro same
        rw [← same]
        exact isClean_close covered
    · rw [run_write_eq_stamp, hagain]

end GroundLink.Checksum
