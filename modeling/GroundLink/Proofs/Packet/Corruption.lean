import GroundLink.Proofs.Packet.Detection
import GroundLink.Proofs.Packet.Grammar
import GroundLink.Proofs.Packet.RoundTrip

/-!
# Packets that arrive with errors

As long as the length field of a created packet (`Packet.Created`) arrives as it was written, a
receiver takes the checksum over the whole packet, and finds every error that the checksum detects
(`Packet.detects_errors`).

A flipped bit of the length field (`Bytes.flipBit`) moves the end of the packet.  A packet that
claims to be longer than what arrived is refused.  A packet that claims to be shorter is judged by
octets of its application data, which stand where the checksum is then expected.  So all single
flips are found, except for those that cut a valid packet out of the one that was sent
(`Packet.Created.valid_flipBit_iff`).
-/

namespace GroundLink

/-! ### Single bits -/

namespace Bytes

/-- Flips one bit, in the order of transmission. -/
def flipBit (bs : Bytes) (i : Nat) : Bytes :=
  bs.modify (i / 8) (· ^^^ UInt8.ofNat (2 ^ (7 - i % 8)))

variable {bs : Bytes} {i : Nat}

theorem length_flipBit : (bs.flipBit i).length = bs.length :=
  List.length_modify ..

theorem getD_flipBit_of_ne {j : Nat} (other : i / 8 ≠ j) :
    (bs.flipBit i).getD j 0 = bs.getD j 0 := by
  rw [List.getD_eq_getElem?_getD, flipBit, List.getElem?_modify_ne _ _ other,
    ← List.getD_eq_getElem?_getD]

theorem getD_flipBit (inside : i / 8 < bs.length) :
    (bs.flipBit i).getD (i / 8) 0 = bs.getD (i / 8) 0 ^^^ UInt8.ofNat (2 ^ (7 - i % 8)) := by
  rw [List.getD_eq_getElem?_getD, flipBit, List.getElem?_modify_eq, getElem?_eq_some_getD inside]
  rfl

theorem toNat_mask (i : Nat) : (UInt8.ofNat (2 ^ (7 - i % 8))).toNat = 2 ^ (7 - i % 8) := by
  have hpow : 2 ^ (7 - i % 8) < 2 ^ 8 := Nat.pow_lt_pow_right (by decide) (by omega)
  rw [UInt8.toNat_ofNat', Nat.mod_eq_of_lt hpow]

theorem getElem?_bits (bs : Bytes) (i : Nat) :
    (Bytes.bits bs)[i]? = bs[i / 8]?.map fun b => b.toNat.testBit (7 - i % 8) := by
  induction bs generalizing i with
  | nil => rfl
  | cons b bs ih =>
    have hlength := length_octetBits b
    rw [bits_cons]
    by_cases hi : i < 8
    · rw [List.getElem?_append_left (by omega), Nat.div_eq_of_lt hi, Nat.mod_eq_of_lt hi]
      match i, hi with
      | 0, _ | 1, _ | 2, _ | 3, _ | 4, _ | 5, _ | 6, _ | 7, _ => rfl
    · obtain ⟨j, rfl⟩ : ∃ j, i = j + 8 := ⟨i - 8, by omega⟩
      rw [List.getElem?_append_right (by omega), hlength, Nat.add_sub_cancel, ih,
        Nat.add_div_right j (by decide), Nat.add_mod_right, List.getElem?_cons_succ]

/-- The error of a single bit among `n` octets. -/
def oneBit (n i : Nat) : Bytes :=
  flipBit (List.replicate n 0) i

theorem length_oneBit {n : Nat} : (oneBit n i).length = n := by
  rw [oneBit, length_flipBit, List.length_replicate]

theorem getElem?_oneBit {n j : Nat} (inside : j < n) :
    (oneBit n i)[j]? = some (if i / 8 = j then UInt8.ofNat (2 ^ (7 - i % 8)) else 0) := by
  rw [oneBit, flipBit, List.getElem?_modify, List.getElem?_replicate_of_lt inside]
  by_cases hij : i / 8 = j
  · simp only [if_pos hij, Option.map_eq_map, Option.map_some, UInt8.zero_xor]
  · simp only [if_neg hij, Option.map_eq_map, Option.map_some]

theorem getD_oneBit_of_ne {n j : Nat} (other : i / 8 ≠ j) : (oneBit n i).getD j 0 = 0 := by
  rw [oneBit, getD_flipBit_of_ne other, List.getD_eq_getElem?_getD, List.getElem?_replicate]
  by_cases hj : j < n
  · rw [if_pos hj]
    rfl
  · rw [if_neg hj]
    rfl

theorem flipBit_eq_xor (bs : Bytes) (i : Nat) : bs.flipBit i = bs.xor (oneBit bs.length i) := by
  refine List.ext_getElem? fun j => ?_
  rw [xor, List.getElem?_zipWith, flipBit, List.getElem?_modify]
  by_cases hj : j < bs.length
  · rw [List.getElem?_eq_getElem hj, getElem?_oneBit hj]
    by_cases hij : i / 8 = j
    · simp only [if_pos hij, Option.map_eq_map, Option.map_some]
    · simp only [if_neg hij, Option.map_eq_map, Option.map_some, UInt8.xor_zero]
  · rw [List.getElem?_eq_none (Nat.le_of_not_lt hj)]
    rfl

theorem getElem?_bits_oneBit {n : Nat} (inside : i < 8 * n) (j : Nat) :
    (Bytes.bits (oneBit n i))[j]? = some true ↔ j = i := by
  rw [getElem?_bits]
  by_cases hj : j / 8 < n
  · rw [getElem?_oneBit hj, Option.map_some, Option.some_inj]
    by_cases hij : i / 8 = j / 8
    · rw [if_pos hij, toNat_mask, Nat.testBit_two_pow, decide_eq_true_iff]
      omega
    · rw [if_neg hij, UInt8.toNat_zero, Nat.zero_testBit]
      exact ⟨fun h => Bool.noConfusion h, fun h => absurd (congrArg (· / 8) h.symm) hij⟩
  · rw [List.getElem?_eq_none (by rw [length_oneBit]; exact Nat.le_of_not_lt hj)]
    exact ⟨(nomatch ·), fun h => by omega⟩

/-- A single bit is a burst. -/
theorem isDetectable_oneBit {n : Nat} (inside : i < 8 * n) : (oneBit n i).IsDetectable where
  nonzero := List.mem_of_getElem? ((getElem?_bits_oneBit inside i).mpr rfl)
  burst_or_odd := .inl ⟨i, fun j hj => by
    have hji := (getElem?_bits_oneBit inside j).mp hj
    omega⟩

/-- **Flipping a zero** adds its place value. -/
theorem xor_two_pow_of_clear {x k : Nat} (clear : x.testBit k = false) :
    x ^^^ 2 ^ k = x + 2 ^ k := by
  have hpos := Nat.two_pow_pos k
  have hsucc : 2 ^ (k + 1) = 2 ^ k * 2 := Nat.pow_succ ..
  -- The bits above and below place `k`.
  obtain ⟨upper, lower, hlower, rfl⟩ : ∃ upper lower, lower < 2 ^ k ∧
      x = 2 ^ (k + 1) * upper + lower := by
    have hsplit := Nat.div_add_mod x (2 ^ (k + 1))
    refine ⟨x / 2 ^ (k + 1), x % 2 ^ (k + 1), ?_, hsplit.symm⟩
    rw [← Checksum.testBit_add_mod, clear, Bool.toNat_false, Nat.zero_mul, Nat.zero_add]
    exact Nat.mod_lt x hpos
  have hone := Checksum.two_pow_mul_xor 1 hlower
  rw [Nat.mul_one] at hone
  rw [← Checksum.two_pow_mul_xor upper (show lower < 2 ^ (k + 1) by omega), Nat.xor_assoc,
    Nat.xor_comm lower, hone, Checksum.two_pow_mul_xor upper (by omega),
    Checksum.two_pow_mul_xor upper (by omega)]
  omega

/-- **Flipping a one** takes its place value away. -/
theorem xor_two_pow_of_set {x k : Nat} (set : x.testBit k = true) :
    (x ^^^ 2 ^ k) + 2 ^ k = x := by
  have hclear : (x ^^^ 2 ^ k).testBit k = false := by
    rw [Nat.testBit_xor, set, Nat.testBit_two_pow_self, Bool.xor_self]
  rw [← xor_two_pow_of_clear hclear, Nat.xor_xor_cancel_right]

end Bytes

/-- Telemetry is turned into a packet if its data fit. -/
theorem Telemetry.toBytes?_eq_ok_iff {t : Telemetry} {raw : Bytes} :
    t.toBytes? = .ok raw ↔ t.data.length ≤ maxData ∧ Checksum.close t.covered = raw := by
  rw [toBytes?]
  by_cases fits : t.data.length ≤ maxData
  · rw [if_pos fits, Except.ok.injEq]
    exact ⟨fun h => ⟨fits, h⟩, fun h => h.2⟩
  · rw [if_neg fits]
    exact iff_of_false (fun h => by cases h) fun h => fits h.1

/-! ### The length field -/

namespace Packet

/-- The sixteen bits of the length field follow each other in the packet. -/
theorem Header.length_leading_flipBit {raw : Bytes} {i : Nat} (header : size ≤ raw.length)
    (first : 32 ≤ i) (last : i < 48) :
    (leading (raw.flipBit i)).length.toNat = (leading raw).length.toNat ^^^ 2 ^ (47 - i) := by
  have hlength (bs : Bytes) : (leading bs).length = Bytes.word16 (bs.getD 4 0) (bs.getD 5 0) := rfl
  have hsize : size = 6 := rfl
  have hmask : (UInt8.ofNat (2 ^ (7 - i % 8))).toUInt16.toNat = 2 ^ (7 - i % 8) := by
    rw [UInt8.toNat_toUInt16, Bytes.toNat_mask]
  rw [hlength, hlength, Checksum.word16_eq_xor, Checksum.word16_eq_xor]
  have hflip : (raw.flipBit i).getD (i / 8) 0 =
      raw.getD (i / 8) 0 ^^^ UInt8.ofNat (2 ^ (7 - i % 8)) := Bytes.getD_flipBit (by omega)
  -- The bit lies in the upper octet of the length field, or in the lower one.
  by_cases hupper : i < 40
  · have hoctet : i / 8 = 4 := by omega
    rw [hoctet] at hflip
    have hshift : ((UInt8.ofNat (2 ^ (7 - i % 8))).toUInt16 <<< 8).toNat = 2 ^ (47 - i) := by
      have hpow : 2 ^ (47 - i) < 2 ^ 16 := Nat.pow_lt_pow_right (by decide) (by omega)
      rw [UInt16.toNat_shiftLeft, hmask, show (8 : UInt16).toNat % 16 = 8 from rfl,
        Nat.shiftLeft_eq, ← Nat.pow_add, show 7 - i % 8 + 8 = 47 - i by omega,
        Nat.mod_eq_of_lt hpow]
    rw [hflip, Bytes.getD_flipBit_of_ne (by omega), UInt8.toUInt16_xor, UInt16.shiftLeft_xor,
      ← hshift, ← UInt16.toNat_xor]
    congr 1
    ac_rfl
  · have hoctet : i / 8 = 5 := by omega
    rw [hoctet] at hflip
    rw [hflip, Bytes.getD_flipBit_of_ne (by omega), UInt8.toUInt16_xor, ← UInt16.xor_assoc,
      UInt16.toNat_xor, hmask, show 7 - i % 8 = 47 - i by omega]

/-- If the bit was not set, the packet claims to be longer. -/
theorem Header.packetSize_flipBit_of_clear {raw : Bytes} {i : Nat} (header : size ≤ raw.length)
    (first : 32 ≤ i) (last : i < 48)
    (clear : (leading raw).length.toNat.testBit (47 - i) = false) :
    (leading (raw.flipBit i)).packetSize = (leading raw).packetSize + 2 ^ (47 - i) := by
  rw [packetSize, length_leading_flipBit header first last, Bytes.xor_two_pow_of_clear clear,
    packetSize]
  omega

/-- If the bit was set, the packet claims to be shorter. -/
theorem Header.packetSize_flipBit_of_set {raw : Bytes} {i : Nat} (header : size ≤ raw.length)
    (first : 32 ≤ i) (last : i < 48)
    (set : (leading raw).length.toNat.testBit (47 - i) = true) :
    (leading (raw.flipBit i)).packetSize + 2 ^ (47 - i) = (leading raw).packetSize := by
  have hset := Bytes.xor_two_pow_of_set set
  rw [packetSize, length_leading_flipBit header first last, packetSize]
  omega

/-! ### Created packets -/

/-- The octets of a packet that was created, with its application data. -/
inductive Created : Kind → Bytes → Bytes → Prop
  | telecommand {t : Telecommand} {raw : Bytes} (made : t.toBytes = raw) :
    Created .telecommand t.data raw
  | telemetry {t : Telemetry} {raw : Bytes} (made : t.toBytes? = .ok raw) :
    Created .telemetry t.data raw

variable {kind : Kind} {data raw buffer : Bytes}

/-- Where the declared octets are all there are, they must be clean. -/
theorem not_valid_of_dirty (whole : (Header.leading buffer).packetSize = buffer.length)
    (dirty : Checksum.isClean buffer = false) : (decodeLenient buffer).valid = false := by
  have hspan : span buffer = buffer := List.take_of_length_le (Nat.le_of_eq whole.symm)
  rw [← Bool.not_eq_true, decodeLenient_valid_iff, hspan, dirty]
  exact fun h => Bool.noConfusion h.2

namespace Created

/-- A receiver reads a created packet, and nothing else is in its octets. -/
theorem reads (c : Created kind data raw) : ∃ p, decode raw = .ok p ∧ p.header.kind = kind ∧
    p.valid = true ∧ p.raw = raw := by
  cases c with
  | @telecommand t _ made =>
    have hdecode := t.decode_toBytes_append []
    rw [List.append_nil, made] at hdecode
    exact ⟨_, hdecode, rfl, rfl, rfl⟩
  | telemetry made =>
    obtain ⟨fits, rfl⟩ := Telemetry.toBytes?_eq_ok_iff.mp made
    have hdecode := Telemetry.decode_close_append fits []
    rw [List.append_nil] at hdecode
    exact ⟨_, hdecode, rfl, rfl, rfl⟩

theorem isReadable (c : Created kind data raw) : IsReadable raw := by
  obtain ⟨p, hdecode, -⟩ := c.reads
  exact (decode_eq_ok_iff.mp hdecode).1

theorem span_eq (c : Created kind data raw) : span raw = raw := by
  obtain ⟨p, hdecode, -, -, hraw⟩ := c.reads
  rw [(decode_eq_ok_iff.mp hdecode).2] at hraw
  exact hraw

theorem kind_eq (c : Created kind data raw) : (Header.leading raw).kind = kind := by
  obtain ⟨p, hdecode, hkind, -⟩ := c.reads
  rw [(decode_eq_ok_iff.mp hdecode).2] at hkind
  exact hkind

theorem isClean (c : Created kind data raw) : Checksum.isClean raw = true := by
  obtain ⟨p, hdecode, -, hvalid, -⟩ := c.reads
  rw [(decode_eq_ok_iff.mp hdecode).2, c.span_eq] at hvalid
  exact hvalid

theorem packetSize_eq (c : Created kind data raw) :
    (Header.leading raw).packetSize = raw.length := by
  rw [← c.isReadable.length_span, c.span_eq]

theorem length_eq (c : Created kind data raw) : raw.length = kind.minSize + data.length := by
  cases c with
  | telecommand made =>
    rw [← made, Telecommand.length_toBytes, Telecommand.size, Kind.minSize_eq, Kind.secondarySize]
    omega
  | telemetry made =>
    obtain ⟨fits, rfl⟩ := Telemetry.toBytes?_eq_ok_iff.mp made
    rw [Telemetry.length_close_covered, Telemetry.size, Kind.minSize_eq]
    omega

/-- **An error outside the length field** is found by the checksum. -/
theorem not_valid_xor (c : Created kind data raw) {e : Bytes} (same : e.length = raw.length)
    (detectable : e.IsDetectable) (hi : e.getD 4 0 = 0) (lo : e.getD 5 0 = 0) :
    (decodeLenient (raw.xor e)).valid = false := by
  refine not_valid_of_dirty ?_ (Checksum.isClean_xor_of_isDetectable same c.isClean detectable)
  rw [Bytes.length_xor same, ← c.packetSize_eq, Header.packetSize_leading,
    Header.packetSize_leading, Bytes.getD_xor same, Bytes.getD_xor same, hi, lo, UInt8.xor_zero,
    UInt8.xor_zero]

end Created

/-- **Detected errors.**  A clean byte string with an error that lies within sixteen bits, or that
has an odd number of bits, is not clean.  So a created packet with such an error is not valid, be it
in the checksum itself or in the bit that tells telemetry from telecommands, if only the length
field is untouched. -/
theorem detects_errors {p e : Bytes} (same : e.length = p.length) (detectable : e.IsDetectable) :
    (Checksum.isClean p = true → Checksum.isClean (p.xor e) = false) ∧
      ∀ {kind : Kind} {data : Bytes}, Created kind data p → e.getD 4 0 = 0 → e.getD 5 0 = 0 →
        (decodeLenient (p.xor e)).valid = false :=
  ⟨fun clean => Checksum.isClean_xor_of_isDetectable same clean detectable,
    fun c hi lo => c.not_valid_xor same detectable hi lo⟩

/-- A ping with sixteen errors in a row, one of them in the type bit, and with three errors far from
each other, one of them in the checksum. -/
theorem detects_errors_ping :
    let ping : Bytes := [0x18, 0x73, 0xC0, 0x01, 0x00, 0x05, 0x10, 0x11, 0x01, 0x00, 0x75, 0xD9]
    let row : Bytes := [0x1F, 0xFF, 0xE0, 0, 0, 0, 0, 0, 0, 0, 0, 0]
    let apart : Bytes := [0x01, 0, 0, 0, 0, 0, 0, 0x80, 0, 0, 0, 0x01]
    Checksum.isClean (ping.xor row) = false ∧ (decodeLenient (ping.xor row)).valid = false ∧
      Checksum.isClean (ping.xor apart) = false ∧ (decodeLenient (ping.xor apart)).valid = false := by
  intro ping row apart
  have hmade : (⟨0x73, 17, 1, 1, 0, 0, [], by decide⟩ : Telecommand).toBytes = ping := by
    decide +kernel
  have hping := Created.telecommand hmade
  have hrow : row.IsDetectable := by
    refine ⟨by decide, .inl ⟨3, fun i hi => ?_⟩⟩
    have hwithin : ∀ i < 96, (Bytes.bits row)[i]? = some true → 3 ≤ i ∧ i < 19 := by decide +kernel
    exact hwithin i (List.getElem?_eq_some_iff.mp hi).1 hi
  have hapart : apart.IsDetectable := ⟨by decide, .inr (by decide)⟩
  have hfound := detects_errors (p := ping) (e := row) rfl hrow
  have hfound' := detects_errors (p := ping) (e := apart) rfl hapart
  exact ⟨hfound.1 hping.isClean, hfound.2 hping rfl rfl, hfound'.1 hping.isClean,
    hfound'.2 hping rfl rfl⟩

/-! ### Flipped bits -/

namespace Created

variable {i : Nat}

/-- A flip outside the length field is such an error. -/
theorem not_valid_flipBit_of_outside (c : Created kind data raw) (inside : i < 8 * raw.length)
    (outside : ¬ (32 ≤ i ∧ i < 48)) : (decodeLenient (raw.flipBit i)).valid = false := by
  rw [Bytes.flipBit_eq_xor]
  exact c.not_valid_xor Bytes.length_oneBit (Bytes.isDetectable_oneBit inside)
    (Bytes.getD_oneBit_of_ne (by omega)) (Bytes.getD_oneBit_of_ne (by omega))

/-- A packet that claims to be longer than it is has not arrived as a whole. -/
theorem not_valid_flipBit_of_clear (c : Created kind data raw) (first : 32 ≤ i) (last : i < 48)
    (clear : (Header.leading raw).length.toNat.testBit (47 - i) = false) :
    (decodeLenient (raw.flipBit i)).valid = false := by
  have hsize := Header.packetSize_flipBit_of_clear c.isReadable.header first last clear
  rw [← Bool.not_eq_true, decodeLenient_valid_iff]
  rintro ⟨r, -⟩
  have hreaches := r.reaches
  have hpos := Nat.two_pow_pos (47 - i)
  rw [hsize, c.packetSize_eq, Bytes.length_flipBit] at hreaches
  omega

/-- A packet that claims to be shorter is judged by what it still claims, as long as that has room
for a packet. -/
theorem valid_flipBit_iff_of_set (c : Created kind data raw) (first : 32 ≤ i) (last : i < 48)
    (set : (Header.leading raw).length.toNat.testBit (47 - i) = true) :
    (decodeLenient (raw.flipBit i)).valid = true ↔ 2 ^ (47 - i) ≤ data.length ∧
      Checksum.isClean ((raw.flipBit i).take (raw.length - 2 ^ (47 - i))) = true := by
  have hsize : (Header.leading (raw.flipBit i)).packetSize + 2 ^ (47 - i) = raw.length := by
    rw [Header.packetSize_flipBit_of_set c.isReadable.header first last set, c.packetSize_eq]
  have hkind : (Header.leading (raw.flipBit i)).kind = kind := by
    rw [Header.kind_leading, Bytes.getD_flipBit_of_ne (by omega), ← Header.kind_leading, c.kind_eq]
  have hlength := c.length_eq
  have hspan : span (raw.flipBit i) = (raw.flipBit i).take (raw.length - 2 ^ (47 - i)) := by
    rw [span, ← hsize, Nat.add_sub_cancel]
  rw [decodeLenient_valid_iff, hspan]
  refine and_congr_left fun _ => ⟨fun r => ?_, fun fits => ⟨?_, ?_, ?_⟩⟩
  · have hholds := r.holds
    rw [hkind] at hholds
    omega
  · rw [Bytes.length_flipBit]
    exact c.isReadable.header
  · rw [Bytes.length_flipBit, ← hsize]
    exact Nat.le_add_right _ _
  · rw [hkind]
    omega

/-- **A flipped bit is found**, except for one case: if the flip takes a one from the length field,
and the data are long enough to lose that many octets, the packet is valid exactly if the octets
that it still claims happen to be clean. -/
theorem valid_flipBit_iff (c : Created kind data raw)
    (covered : i < 8 * (raw.length - Checksum.size)) :
    (decodeLenient (raw.flipBit i)).valid = true ↔
      (32 ≤ i ∧ i < 48) ∧ (Header.leading raw).length.toNat.testBit (47 - i) = true ∧
        2 ^ (47 - i) ≤ data.length ∧
        Checksum.isClean ((raw.flipBit i).take (raw.length - 2 ^ (47 - i))) = true := by
  by_cases field : 32 ≤ i ∧ i < 48
  case neg =>
    rw [c.not_valid_flipBit_of_outside (by omega) field]
    exact ⟨(nomatch ·), fun h => absurd h.1 field⟩
  case pos =>
    cases hbit : (Header.leading raw).length.toNat.testBit (47 - i) with
    | false =>
      rw [c.not_valid_flipBit_of_clear field.1 field.2 hbit]
      exact ⟨(nomatch ·), fun h => nomatch h.2.1⟩
    | true =>
      rw [c.valid_flipBit_iff_of_set field.1 field.2 hbit]
      exact ⟨fun h => ⟨field, rfl, h⟩, fun h => h.2.2⟩

/-- The same flip in two packets: one has data that pass for a checksum, the other does not. -/
theorem valid_flipBit_iff_both :
    let telecommand : Bytes :=
      [0x18, 0x73, 0xC0, 0x01, 0x00, 0x07, 0x10, 0x11, 0x01, 0x00, 0x75, 0xD9, 0x60, 0xE3]
    let telemetry : Bytes := [0x08, 0x73, 0xD2, 0x34, 0x00, 0x0E, 0x10, 0x05, 0x02, 0x03,
      0x40, 0x59, 0xD8, 0x00, 0x00, 0x03, 0xE8, 0xDE, 0xAD, 0xBB, 0xA6]
    (decodeLenient (telecommand.flipBit 46)).valid = true ∧
      (decodeLenient (telemetry.flipBit 46)).valid = false := by
  intro telecommand telemetry
  have htelecommand : (⟨0x73, 17, 1, 1, 0, 0, [0x75, 0xD9], by decide⟩ : Telecommand).toBytes =
      telecommand := by
    decide +kernel
  have htelemetry : Telemetry.toBytes? ⟨0x73, 5, 2, 0x1234, 3, ⟨23000, 1000⟩, [0xDE, 0xAD]⟩ =
      .ok telemetry := by
    decide +kernel
  refine ⟨(valid_flipBit_iff (.telecommand htelecommand) (by decide)).mpr ?_,
    Bool.eq_false_iff.mpr fun h => ?_⟩
  · exact ⟨by decide, by decide, by decide, by decide +kernel⟩
  · have hclean := ((valid_flipBit_iff (.telemetry htelemetry) (by decide)).mp h).2.2.2
    exact absurd hclean (by decide +kernel)

/-- **What no checksum can tell.**  The data of this telecommand are the checksum of a ping.  If the
flip of one bit takes them out of the packet, what is left is that ping, and two octets behind it.
-/
theorem valid_flipBit_hidden :
    let raw : Bytes :=
      [0x18, 0x73, 0xC0, 0x01, 0x00, 0x07, 0x10, 0x11, 0x01, 0x00, 0x75, 0xD9, 0x60, 0xE3]
    Created .telecommand [0x75, 0xD9] raw ∧ 46 < 8 * (raw.length - Checksum.size) ∧
      (decodeLenient (raw.flipBit 46)).valid = true ∧
      ∃ ping, Created .telecommand [] ping ∧ raw.flipBit 46 = ping ++ [0x60, 0xE3] := by
  intro raw
  have hmade : (⟨0x73, 17, 1, 1, 0, 0, [0x75, 0xD9], by decide⟩ : Telecommand).toBytes = raw := by
    decide +kernel
  have hping : (⟨0x73, 17, 1, 1, 0, 0, [], by decide⟩ : Telecommand).toBytes =
      (raw.flipBit 46).take 12 := by
    decide +kernel
  exact ⟨.telecommand hmade, by decide, by decide +kernel, _, .telecommand hping, by decide⟩

end Created

end Packet

end GroundLink
