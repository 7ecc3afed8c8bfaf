import GroundLink.Proofs.Packet.Checksum

/-!
# Errors that the checksum detects

An error adds a pattern to the octets of a packet (`Bytes.xor`).  Because the register is linear,
the pattern alone decides whether a clean packet stays clean (`Checksum.checksum_xor`).  Fed bit by
bit,

* up to sixteen bits are the contents of the register itself, advanced without loss, so that a burst
  of errors leaves it different from zero (`Checksum.feedBits_ne_zero_of_burst`), and
* the polynomial has an even number of terms, so that the register has as many ones as were fed,
  modulo two (`Checksum.parity_feedBits`).

Together they show that a clean packet with such a pattern is not clean
(`Checksum.isClean_xor_of_isDetectable`).
-/

namespace GroundLink

/-! ### Error patterns -/

namespace Bytes

def xor (bs cs : Bytes) : Bytes :=
  List.zipWith (· ^^^ ·) bs cs

def octetBits (b : UInt8) : List Bool :=
  [b.toNat.testBit 7, b.toNat.testBit 6, b.toNat.testBit 5, b.toNat.testBit 4, b.toNat.testBit 3,
    b.toNat.testBit 2, b.toNat.testBit 1, b.toNat.testBit 0]

/-- The bits of a byte string in the order of transmission. -/
def bits (bs : Bytes) : List Bool :=
  bs.flatMap octetBits

theorem length_octetBits (b : UInt8) : (octetBits b).length = 8 := rfl

theorem bits_cons (b : UInt8) (bs : Bytes) : bits (b :: bs) = octetBits b ++ bits bs := rfl

theorem length_bits (bs : Bytes) : bs.bits.length = 8 * bs.length := by
  induction bs with
  | nil => rfl
  | cons b bs ih =>
    rw [bits_cons, List.length_append, ih, length_octetBits, List.length_cons, Nat.mul_succ,
      Nat.add_comm]

/-- A pattern of errors that lie within sixteen consecutive bits, or whose number is odd. -/
structure IsDetectable (e : Bytes) : Prop where
  /-- There is an error. -/
  nonzero : true ∈ e.bits
  burst_or_odd : (∃ k, ∀ i, e.bits[i]? = some true → k ≤ i ∧ i < k + 16) ∨
    e.bits.count true % 2 = 1

variable {bs cs : Bytes}

theorem length_xor (same : cs.length = bs.length) : (bs.xor cs).length = bs.length := by
  rw [xor, List.length_zipWith, same, Nat.min_self]

theorem getD_xor (same : cs.length = bs.length) (i : Nat) :
    (bs.xor cs).getD i 0 = bs.getD i 0 ^^^ cs.getD i 0 := by
  rw [List.getD_eq_getElem?_getD, List.getD_eq_getElem?_getD, List.getD_eq_getElem?_getD, xor,
    List.getElem?_zipWith]
  by_cases hi : i < bs.length
  · rw [List.getElem?_eq_getElem hi, List.getElem?_eq_getElem (by omega)]
    rfl
  · rw [List.getElem?_eq_none (by omega), List.getElem?_eq_none (by omega)]
    rfl

end Bytes

namespace Checksum

/-! ### Bit by bit -/

def feedBit (r : UInt16) (bit : Bool) : UInt16 :=
  advance (r ^^^ if bit then 0x8000 else 0)

def feedBits (r : UInt16) (bits : List Bool) : UInt16 :=
  bits.foldl feedBit r

theorem feedBits_cons (r : UInt16) (bit : Bool) (bits : List Bool) :
    feedBits r (bit :: bits) = feedBits (feedBit r bit) bits := rfl

theorem feedBits_append (r : UInt16) (bits more : List Bool) :
    feedBits r (bits ++ more) = feedBits (feedBits r bits) more :=
  List.foldl_append

theorem feedBit_eq (r : UInt16) (bit : Bool) : feedBit r bit = advance r ^^^ feedBit 0 bit := by
  rw [feedBit, advance_xor, feedBit, UInt16.zero_xor]

/-- What the register held before is advanced by as many bits as are fed. -/
theorem feedBits_eq (r : UInt16) (bits : List Bool) :
    feedBits r bits = advance^[bits.length] r ^^^ feedBits 0 bits := by
  induction bits generalizing r with
  | nil => exact UInt16.xor_zero.symm
  | cons bit bits ih =>
    rw [feedBits_cons, feedBits_cons, ih, ih (feedBit 0 bit), feedBit_eq, iterate_advance_xor,
      UInt16.xor_assoc, List.length_cons, Function.iterate_succ_apply]

/-- Zeros only advance the register. -/
theorem feedBits_false (r : UInt16) {bits : List Bool} (zeros : ∀ bit ∈ bits, bit = false) :
    feedBits r bits = advance^[bits.length] r := by
  induction bits generalizing r with
  | nil => rfl
  | cons bit bits ih =>
    have hbit : feedBit r bit = advance r := by
      rw [zeros bit (List.mem_cons_self ..), feedBit, if_neg Bool.false_ne_true, UInt16.xor_zero]
    rw [feedBits_cons, hbit, ih _ fun b hb => zeros b (List.mem_cons_of_mem _ hb),
      List.length_cons, Function.iterate_succ_apply]

/-! ### Few bits -/

/-- The number that bits stand for, most significant first. -/
def number : List Bool → Nat
  | [] => 0
  | bit :: bits => bit.toNat * 2 ^ bits.length + number bits

theorem number_lt (bits : List Bool) : number bits < 2 ^ bits.length := by
  induction bits with
  | nil => exact Nat.one_pos
  | cons bit bits ih =>
    have hbit := bit.toNat_lt
    rw [number, List.length_cons, Nat.pow_succ]
    cases bit with
    | false => rw [Bool.toNat_false]; omega
    | true => rw [Bool.toNat_true]; omega

theorem number_pos {bits : List Bool} (nonzero : true ∈ bits) : 0 < number bits := by
  induction bits with
  | nil => exact nomatch nonzero
  | cons bit bits ih =>
    rw [number]
    rcases List.mem_cons.mp nonzero with rfl | hmem
    · have hpow := Nat.two_pow_pos bits.length
      rw [Bool.toNat_true]
      omega
    · have := ih hmem
      omega

/-- One bit more of a number. -/
theorem testBit_add_mod (n k : Nat) :
    (n.testBit k).toNat * 2 ^ k + n % 2 ^ k = n % 2 ^ (k + 1) := by
  rw [Nat.toNat_testBit, Nat.mod_pow_succ, Nat.mul_comm, Nat.add_comm]

theorem number_octetBits (b : UInt8) : number (Bytes.octetBits b) = b.toNat := by
  have hlast : (b.toNat.testBit 0).toNat * 2 ^ 0 + 0 = b.toNat % 2 ^ 1 := by
    rw [← testBit_add_mod, Nat.pow_zero, Nat.mod_one]
  simp only [Bytes.octetBits, number, List.length_cons, List.length_nil, Nat.zero_add,
    Nat.reduceAdd]
  rw [hlast, testBit_add_mod, testBit_add_mod, testBit_add_mod, testBit_add_mod, testBit_add_mod,
    testBit_add_mod, testBit_add_mod, Nat.mod_eq_of_lt b.toNat_lt]

/-- **A few bits** are the register itself: they stand at its upper end before it is advanced. -/
theorem feedBits_zero {bits : List Bool} (short : bits.length ≤ 16) : feedBits 0 bits =
    advance^[bits.length] (UInt16.ofNat (number bits * 2 ^ (16 - bits.length))) := by
  induction bits with
  | nil => rfl
  | cons bit bits ih =>
    rw [List.length_cons] at short
    obtain ⟨m, hm⟩ : ∃ m, m + bits.length = 15 := ⟨15 - bits.length, by omega⟩
    have hlow : number bits * 2 ^ m < 2 ^ 15 := by
      have hmul := Nat.mul_lt_mul_of_pos_right (number_lt bits) (Nat.two_pow_pos m)
      rw [← Nat.pow_add, Nat.add_comm, hm] at hmul
      exact hmul
    have hx : (UInt16.ofNat (number bits * 2 ^ m)).toNat = number bits * 2 ^ m := by
      rw [UInt16.toNat_ofNat', Nat.mod_eq_of_lt (by omega)]
    -- The later bits moved up once, and the first bit is above them.
    have hrest : UInt16.ofNat (number bits * 2 ^ (16 - bits.length)) =
        advance (UInt16.ofNat (number bits * 2 ^ m)) := by
      rw [← UInt16.toNat_inj, toNat_advance (by omega), hx, show 16 - bits.length = m + 1 by omega,
        UInt16.toNat_ofNat', Nat.pow_succ, ← Nat.mul_assoc]
      omega
    have hall : UInt16.ofNat (number (bit :: bits) * 2 ^ (16 - (bits.length + 1))) =
        (if bit then 0x8000 else 0) ^^^ UInt16.ofNat (number bits * 2 ^ m) := by
      have hfirst : (if bit then (0x8000 : UInt16) else 0).toNat = 2 ^ 15 * bit.toNat := by
        cases bit <;> rfl
      have hpow : bit.toNat * 2 ^ bits.length * 2 ^ m = 2 ^ 15 * bit.toNat := by
        rw [Nat.mul_assoc, ← Nat.pow_add, Nat.add_comm, hm, Nat.mul_comm]
      have hbit := bit.toNat_le
      rw [← UInt16.toNat_inj, UInt16.toNat_xor, hfirst, hx, two_pow_mul_xor _ hlow,
        show 16 - (bits.length + 1) = m by omega, number, Nat.add_mul, hpow, UInt16.toNat_ofNat',
        Nat.mod_eq_of_lt (by omega)]
    rw [feedBits_cons, feedBits_eq, ih (by omega), hrest, ← iterate_advance_xor, feedBit, UInt16.zero_xor,
      ← advance_xor, ← hall, List.length_cons, Function.iterate_succ_apply]

/-- An octet is fed into the register bit by bit. -/
theorem feed_eq_feedBits (r : UInt16) (b : UInt8) : feed r b = feedBits r (Bytes.octetBits b) := by
  have hupper : UInt16.ofNat (b.toNat * 2 ^ (16 - 8)) = b.toUInt16 <<< 8 := by
    have hb := b.toNat_lt
    rw [← UInt16.toNat_inj, UInt16.toNat_shiftLeft, UInt8.toNat_toUInt16, UInt16.toNat_ofNat',
      show (8 : UInt16).toNat % 16 = 8 from rfl, Nat.shiftLeft_eq]
  rw [feed_eq, feedBits_eq, feedBits_zero (by rw [Bytes.length_octetBits]; decide),
    Bytes.length_octetBits, number_octetBits, hupper, iterate_advance_xor]

theorem run_eq_feedBits (r : UInt16) (bs : Bytes) : run r bs = feedBits r (Bytes.bits bs) := by
  induction bs generalizing r with
  | nil => rfl
  | cons b bs ih =>
    rw [run_cons, Bytes.bits_cons, ih, feedBits_append, feed_eq_feedBits]

/-! ### Bursts -/

/-- **A burst leaves its trace**: if all ones lie within sixteen consecutive bits, the register does
not return to zero. -/
theorem feedBits_ne_zero_of_burst {bits : List Bool} (nonzero : true ∈ bits) {k : Nat}
    (within : ∀ i, bits[i]? = some true → k ≤ i ∧ i < k + 16) : feedBits 0 bits ≠ 0 := by
  have hbefore : ∀ bit ∈ bits.take k, bit = false := by
    intro bit hbit
    obtain ⟨i, hi⟩ := List.mem_iff_getElem?.mp hbit
    have hik : i < k := by
      by_contra hge
      rw [List.getElem?_take_eq_none (Nat.le_of_not_lt hge)] at hi
      exact nomatch hi
    rw [List.getElem?_take_of_lt hik] at hi
    exact Bool.eq_false_iff.mpr fun h => by have := within i (h ▸ hi); omega
  have hafter : ∀ bit ∈ (bits.drop k).drop 16, bit = false := by
    intro bit hbit
    obtain ⟨i, hi⟩ := List.mem_iff_getElem?.mp hbit
    rw [List.drop_drop, List.getElem?_drop] at hi
    exact Bool.eq_false_iff.mpr fun h => by have := within _ (h ▸ hi); omega
  -- Zeros, a window of 16 bits at most that holds all ones, and zeros again.
  have hsplit : bits = bits.take k ++ ((bits.drop k).take 16 ++ (bits.drop k).drop 16) := by
    rw [List.take_append_drop, List.take_append_drop]
  have hwindow : true ∈ (bits.drop k).take 16 := by
    rw [hsplit, List.mem_append, List.mem_append] at nonzero
    rcases nonzero with h | h | h
    · exact Bool.noConfusion (hbefore true h)
    · exact h
    · exact Bool.noConfusion (hafter true h)
  have hshort : ((bits.drop k).take 16).length ≤ 16 := List.length_take_le _ _
  have hnumber := number_lt ((bits.drop k).take 16)
  have hpos := number_pos hwindow
  generalize (bits.drop k).take 16 = window at *
  -- Zeros only advance the register, which then is zero only if the number in the window is.
  rw [hsplit, feedBits_append, feedBits_append, feedBits_false 0 hbefore,
    (iterate_advance_eq_zero_iff _).mpr rfl, feedBits_zero hshort, feedBits_false _ hafter, Ne,
    iterate_advance_eq_zero_iff, iterate_advance_eq_zero_iff, ← UInt16.toNat_inj, UInt16.toNat_ofNat']
  have hmul := Nat.mul_lt_mul_of_pos_right hnumber (Nat.two_pow_pos (16 - window.length))
  rw [← Nat.pow_add, Nat.add_sub_cancel' hshort] at hmul
  rw [Nat.mod_eq_of_lt hmul]
  exact Nat.ne_of_gt (Nat.mul_pos hpos (Nat.two_pow_pos _))

/-! ### Parity -/

/-- Whether the number of ones among the lowest bits of a number is odd. -/
def parityBelow : Nat → Nat → Bool
  | 0, _ => false
  | n + 1, x => parityBelow n x ^^ x.testBit n

/-- Whether the register holds an odd number of ones. -/
def parity (r : UInt16) : Bool := parityBelow 16 r.toNat

theorem parityBelow_xor (n x y : Nat) :
    parityBelow n (x ^^^ y) = (parityBelow n x ^^ parityBelow n y) := by
  induction n with
  | zero => rfl
  | succ n ih =>
    rw [parityBelow, parityBelow, parityBelow, ih, Nat.testBit_xor, Bool.xor_assoc, Bool.xor_assoc,
      Bool.xor_left_comm (parityBelow n y)]

theorem parityBelow_double (n x : Nat) : parityBelow (n + 1) (2 * x) = parityBelow n x := by
  induction n with
  | zero => rw [parityBelow, parityBelow, parityBelow, Nat.testBit_zero]; simp
  | succ n ih => rw [parityBelow, ih, parityBelow, Nat.testBit_succ, Nat.mul_div_cancel_left x (by decide)]

theorem parityBelow_mod {m n : Nat} (x : Nat) (h : m ≤ n) :
    parityBelow m (x % 2 ^ n) = parityBelow m x := by
  induction m with
  | zero => rfl
  | succ m ih =>
    rw [parityBelow, parityBelow, ih (by omega), Nat.testBit_mod_two_pow]
    simp [show m < n by omega]

theorem parity_xor (r s : UInt16) : parity (r ^^^ s) = (parity r ^^ parity s) := by
  rw [parity, UInt16.toNat_xor, parityBelow_xor, parity, parity]

/-- **The polynomial keeps the parity**: three ones are fed back for one that falls out. -/
theorem parity_advance (r : UInt16) : parity (advance r) = parity r := by
  have hshift : parity (r <<< 1) = parityBelow 15 r.toNat := by
    rw [parity, UInt16.toNat_shiftLeft, show (1 : UInt16).toNat % 16 = 1 from rfl,
      Nat.shiftLeft_eq, Nat.mul_comm, parityBelow_mod _ (Nat.le_refl 16)]
    exact parityBelow_double 15 r.toNat
  have hfed : parity (if r.toNat.testBit 15 then 0x1021 else 0) = r.toNat.testBit 15 := by
    cases r.toNat.testBit 15 <;> decide
  rw [advance_eq, parity_xor, hshift, hfed]
  rfl

theorem parity_feedBits (r : UInt16) (bits : List Bool) :
    parity (feedBits r bits) = (parity r ^^ decide (bits.count true % 2 = 1)) := by
  induction bits generalizing r with
  | nil => exact (Bool.xor_false _).symm
  | cons bit bits ih =>
    have hbit : parity (if bit then 0x8000 else 0) = bit := by cases bit <;> decide
    rw [feedBits_cons, ih, feedBit, parity_advance, parity_xor, hbit, Bool.xor_assoc]
    congr 1
    cases bit with
    | false => rw [List.count_cons_of_ne (by decide), Bool.false_xor]
    | true =>
      rw [List.count_cons_self, Bool.true_xor, ← decide_not]
      exact decide_eq_decide.mpr (by omega)

/-! ### Detection -/

/-- **The register is linear** in what is fed. -/
theorem run_xor {bs cs : Bytes} (same : cs.length = bs.length) (r s : UInt16) :
    run (r ^^^ s) (bs.xor cs) = run r bs ^^^ run s cs := by
  induction bs generalizing cs r s with
  | nil =>
    rw [List.length_eq_zero_iff.mp same]
    rfl
  | cons b bs ih =>
    obtain ⟨c, cs, rfl⟩ := List.exists_cons_of_length_eq_add_one same
    have hfeed : feed (r ^^^ s) (b ^^^ c) = feed r b ^^^ feed s c := by
      rw [feed_eq, feed_eq, feed_eq, ← iterate_advance_xor, UInt8.toUInt16_xor, UInt16.shiftLeft_xor]
      congr 1
      ac_rfl
    have hstep : run (r ^^^ s) (Bytes.xor (b :: bs) (c :: cs)) =
      run (feed (r ^^^ s) (b ^^^ c)) (Bytes.xor bs cs) := rfl
    rw [hstep, hfeed, ih (Nat.succ.inj same)]
    rfl

/-- Errors change the checksum by what they are themselves. -/
theorem checksum_xor {bs e : Bytes} (same : e.length = bs.length) :
    checksum (bs.xor e) = checksum bs ^^^ run 0 e := by
  have hrun := run_xor same start 0
  rw [UInt16.xor_zero] at hrun
  exact hrun

/-- **Bursts and odd numbers of errors are detected.** -/
theorem isClean_xor_of_isDetectable {bs e : Bytes} (same : e.length = bs.length)
    (clean : isClean bs = true) (detectable : e.IsDetectable) : isClean (bs.xor e) = false := by
  have hzero : checksum bs = 0 := of_decide_eq_true clean
  refine decide_eq_false ?_
  rw [checksum_xor same, hzero, UInt16.zero_xor, run_eq_feedBits]
  rcases detectable.burst_or_odd with ⟨k, within⟩ | odd
  case inl => exact feedBits_ne_zero_of_burst detectable.nonzero within
  case inr =>
    intro h
    have hparity := parity_feedBits 0 e.bits
    rw [h, decide_eq_true odd] at hparity
    exact absurd hparity (by decide)

end Checksum

end GroundLink
