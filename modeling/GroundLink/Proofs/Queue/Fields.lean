import GroundLink.Proofs.Queue.Script
import Mathlib.Data.List.DropRight
import Mathlib.Data.Nat.Digits.Defs

/-!
# Fields of an entry

A script writes a telecommand as words: numbers in decimal digits (`Number.Writes`) and application
data in hexadecimal digits (`Bytes.WritesHex`).  What the readers take is exactly what is written so
(`Number.natural?_eq_some_iff`, `Bytes.ofHex?_eq_some_iff`).

The words are the same with and without the blanks at the ends of a text (`Text.words_trim`).
-/

namespace GroundLink

/-! ### Decimal numbers -/

namespace Number

/-- A word writes a number: an optional plus sign and one or more decimal digits, the last of which
counts ones.  There may be zeros in front. -/
def Writes (word : List Char) (n : Nat) : Prop :=
  ∃ digits, (word = digits ∨ word = '+' :: digits) ∧ digits ≠ [] ∧
    (∀ c ∈ digits, '0' ≤ c ∧ c ≤ '9') ∧
    Nat.ofDigits 10 (digits.reverse.map fun c => c.toNat - '0'.toNat) = n

theorem digitsValue_eq (ds : List Char) :
    digitsValue ds = Nat.ofDigits 10 (ds.reverse.map fun c => c.toNat - '0'.toNat) := by
  have hstep : (fun (c : Char) n => n * 10 + (c.toNat - 48)) =
      fun c n => c.toNat - '0'.toNat + 10 * n := by
    funext c n
    rw [Nat.add_comm, Nat.mul_comm]
    rfl
  rw [digitsValue, List.foldl_eq_foldr_reverse, Nat.ofDigits_eq_foldr, List.foldr_map, hstep]
  rfl

theorem isDigit_iff {c : Char} : c.isDigit = true ↔ '0' ≤ c ∧ c ≤ '9' := by
  rw [Char.isDigit, Bool.and_eq_true, decide_eq_true_eq, decide_eq_true_eq]
  exact Iff.rfl

theorem digits?_eq_some_iff {ds : List Char} {n : Nat} : digits? ds = some n ↔
    ds ≠ [] ∧ (∀ c ∈ ds, '0' ≤ c ∧ c ≤ '9') ∧
      Nat.ofDigits 10 (ds.reverse.map fun c => c.toNat - '0'.toNat) = n := by
  rw [digits?, ← digitsValue_eq]
  have hrefused : (ds.isEmpty || !ds.all Char.isDigit) = true ↔
      ¬ (ds ≠ [] ∧ ∀ c ∈ ds, '0' ≤ c ∧ c ≤ '9') := by
    simp only [← isDigit_iff, ← List.all_eq_true, Bool.or_eq_true, Bool.not_eq_true',
      List.isEmpty_iff, not_and_or, not_not, Bool.not_eq_true, ne_eq]
  by_cases h : (ds.isEmpty || !ds.all Char.isDigit) = true
  · rw [if_pos h]
    exact iff_of_false nofun fun hds => hrefused.mp h ⟨hds.1, hds.2.1⟩
  · rw [if_neg h, Option.some_inj]
    have hds := not_not.mp (hrefused.not.mp h)
    exact ⟨fun hn => ⟨hds.1, hds.2, hn⟩, fun hn => hn.2.2⟩

/-- **A number is read where one is written.** -/
theorem natural?_eq_some_iff {word : List Char} {n : Nat} :
    natural? word = some n ↔ Writes word n := by
  unfold natural?
  split
  case h_1 digits =>
    rw [digits?_eq_some_iff]
    constructor
    · intro h
      exact ⟨digits, .inr rfl, h⟩
    · rintro ⟨others, hword, hothers⟩
      rcases hword with rfl | hword
      · exact absurd (hothers.2.1 '+' List.mem_cons_self) (by decide)
      · rw [(List.cons.inj hword).2]
        exact hothers
  case h_2 digits hplus =>
    rw [digits?_eq_some_iff]
    constructor
    · intro h
      exact ⟨_, .inl rfl, h⟩
    · rintro ⟨others, hword, hothers⟩
      rcases hword with rfl | hword
      · exact hothers
      · exact (hplus _ hword).elim

theorem naturalBelow?_eq_some_iff {word : List Char} {bound n : Nat} :
    naturalBelow? bound word = some n ↔ Writes word n ∧ n < bound := by
  have hguard : ∀ m : Nat, (do guard (m < bound); return m : Option Nat) = some n ↔
      m = n ∧ m < bound := by
    intro m
    by_cases hm : m < bound <;> simp [hm]
  rw [← natural?_eq_some_iff, naturalBelow?]
  cases natural? word with
  | none => exact ⟨nofun, fun h => nomatch h.1⟩
  | some m =>
    show (do guard (m < bound); return m : Option Nat) = some n ↔ _
    rw [hguard, Option.some_inj]
    exact and_congr_right fun hm => by rw [hm]

end Number

/-! ### Hexadecimal data -/

namespace Bytes

def IsHexDigit (c : Char) : Prop :=
  ('0' ≤ c ∧ c ≤ '9') ∨ ('a' ≤ c ∧ c ≤ 'f') ∨ ('A' ≤ c ∧ c ≤ 'F')

/-- A word of an even number of hexadecimal digits. -/
def IsHex (word : List Char) : Prop := word.length % 2 = 0 ∧ ∀ c ∈ word, IsHexDigit c

/-- A word writes data: in lower case, it is the text of the data in hexadecimal digits. -/
def WritesHex (word : List Char) (data : Bytes) : Prop :=
  word.map Char.toLower = (toHex data).toList

theorem toList_toHex (data : Bytes) : (toHex data).toList =
    data.flatMap fun b => [hexDigit (b.toNat / 16), hexDigit (b.toNat % 16)] := by
  rw [toHex, String.toList_ofList]

theorem WritesHex.length {word : List Char} {data : Bytes} (h : WritesHex word data) :
    word.length = 2 * data.length := by
  have hlength := congrArg List.length h
  rw [List.length_map, toList_toHex, List.length_flatMap] at hlength
  simpa [Nat.mul_comm] using hlength

theorem WritesHex.half_length {word : List Char} {data : Bytes} (h : WritesHex word data) :
    word.length / 2 = data.length := by
  rw [h.length, Nat.mul_div_cancel_left _ Nat.two_pos]

/-! #### Digits -/

theorem hexValue?_isSome_iff {c : Char} : (hexValue? c).isSome = true ↔ IsHexDigit c := by
  rw [IsHexDigit, hexValue?]
  split
  · simp [*]
  · split
    · simp [*]
    · split <;> simp [*]

theorem IsHexDigit.toNat_lt {c : Char} (h : IsHexDigit c) : c.toNat < 128 := by
  have hnat : ∀ a b : Char, a ≤ b ↔ a.toNat ≤ b.toNat := fun a b => UInt32.le_iff_toNat_le
  rw [IsHexDigit, hnat, hnat, hnat, hnat, hnat, hnat] at h
  rcases h with ⟨-, h⟩ | ⟨-, h⟩ | ⟨-, h⟩ <;> exact Nat.lt_of_le_of_lt h (by decide)

theorem hexValue?_lt {c : Char} {v : Nat} (read : hexValue? c = some v) : v < 16 := by
  have hascii : ∀ n < 128, (hexValue? (Char.ofNat n)).all (fun v => decide (v < 16)) = true := by
    decide +kernel
  have hdigit : IsHexDigit c := hexValue?_isSome_iff.mp (read ▸ rfl)
  have hall := hascii _ hdigit.toNat_lt
  rw [c.ofNat_toNat, read] at hall
  exact of_decide_eq_true hall

/-- A digit has a value if in lower case it is the digit of this value. -/
theorem hexValue?_eq_some_iff {c : Char} {v : Nat} (hv : v < 16) :
    hexValue? c = some v ↔ c.toLower = hexDigit v := by
  have hascii : ∀ n < 128, ∀ v < 16,
      (hexValue? (Char.ofNat n) = some v ↔ (Char.ofNat n).toLower = hexDigit v) := by
    decide +kernel
  by_cases hc : c.toNat < 128
  · rw [← c.ofNat_toNat]
    exact hascii _ hc v hv
  · -- Beyond them there are neither digits nor letters with a lower case.
    have hlower : c.toLower = c := by
      refine dif_neg ?_
      rintro ⟨-, hletter⟩
      exact hc (Nat.lt_of_le_of_lt (UInt32.le_iff_toNat_le.mp hletter) (by decide))
    have hdigits : ∀ v < 16, (hexDigit v).toNat < 128 := by decide
    rw [hlower]
    constructor
    · intro read
      exact absurd (hexValue?_isSome_iff.mp (read ▸ rfl)).toNat_lt hc
    · rintro rfl
      exact absurd (hdigits v hv) hc

/-! #### Words -/

variable {h l : Char} {word : List Char} {data : Bytes}

/-- Two digits are the halves of an octet. -/
theorem ofHex?_cons_cons_eq_some_iff : ofHex? (h :: l :: word) = some data ↔
    ∃ b tail, data = b :: tail ∧ hexValue? h = some (b.toNat / 16) ∧
      hexValue? l = some (b.toNat % 16) ∧ ofHex? word = some tail := by
  rw [ofHex?]
  simp only [Option.bind_eq_bind, Option.bind_eq_some_iff, Option.pure_def, Option.some_inj]
  constructor
  · rintro ⟨high, hhigh, low, hlow, tail, htail, rfl⟩
    have hhigh' := hexValue?_lt hhigh
    have hlow' := hexValue?_lt hlow
    have hoctet : (UInt8.ofNat (high * 16 + low)).toNat = high * 16 + low := by
      rw [UInt8.toNat_ofNat']
      omega
    have hhalves : (high * 16 + low) / 16 = high ∧ (high * 16 + low) % 16 = low := by omega
    refine ⟨_, tail, rfl, ?_, ?_, htail⟩
    · rw [hoctet, hhalves.1, hhigh]
    · rw [hoctet, hhalves.2, hlow]
  · rintro ⟨b, tail, rfl, hhigh, hlow, htail⟩
    refine ⟨_, hhigh, _, hlow, tail, htail, ?_⟩
    rw [Nat.div_add_mod', UInt8.ofNat_toNat]

theorem writesHex_cons_cons_iff : WritesHex (h :: l :: word) data ↔
    ∃ b tail, data = b :: tail ∧ h.toLower = hexDigit (b.toNat / 16) ∧
      l.toLower = hexDigit (b.toNat % 16) ∧ WritesHex word tail := by
  simp only [WritesHex, toList_toHex, List.map_cons]
  cases data with
  | nil => exact ⟨nofun, fun ⟨b, tail, hdata, _⟩ => nomatch hdata⟩
  | cons b tail =>
    rw [List.flatMap_cons, List.cons_append, List.cons_append, List.nil_append, List.cons.injEq,
      List.cons.injEq]
    constructor
    · intro hwrites
      exact ⟨b, tail, rfl, hwrites⟩
    · rintro ⟨_, _, hdata, hwrites⟩
      obtain ⟨rfl, rfl⟩ := List.cons.inj hdata
      exact hwrites

/-- **Data are read where they are written.** -/
theorem ofHex?_eq_some_iff : ofHex? word = some data ↔ WritesHex word data := by
  induction word using ofHex?.induct generalizing data with
  | case1 =>
    rw [ofHex?, Option.some_inj, WritesHex, toList_toHex, List.map_nil]
    constructor
    · rintro rfl
      rfl
    · intro hnil
      cases data with
      | nil => rfl
      | cons b tail => cases hnil
  | case2 c =>
    -- A digit without a partner writes nothing.
    refine ⟨nofun, fun hwrites => ?_⟩
    have hlength := hwrites.length
    rw [List.length_singleton] at hlength
    omega
  | case3 h l rest ih =>
    have hhalves : ∀ b : UInt8, b.toNat / 16 < 16 ∧ b.toNat % 16 < 16 := fun b =>
      ⟨Nat.div_lt_of_lt_mul b.toNat_lt, Nat.mod_lt _ (by decide)⟩
    rw [ofHex?_cons_cons_eq_some_iff, writesHex_cons_cons_iff]
    simp only [ih, hexValue?_eq_some_iff (hhalves _).1, hexValue?_eq_some_iff (hhalves _).2]

/-- Every even number of digits writes data. -/
theorem ofHex?_isSome_iff : (ofHex? word).isSome = true ↔ IsHex word := by
  induction word using ofHex?.induct with
  | case1 => exact iff_of_true rfl ⟨rfl, nofun⟩
  | case2 c => exact iff_of_false nofun fun hex => absurd hex.1 Nat.one_ne_zero
  | case3 h l rest ih =>
    have hparity : (h :: l :: rest).length % 2 = rest.length % 2 := Nat.add_mod_right _ 2
    rw [IsHex, hparity, List.forall_mem_cons, List.forall_mem_cons, and_left_comm,
      and_left_comm (a := rest.length % 2 = 0), ← IsHex, ← ih, ← hexValue?_isSome_iff,
      ← hexValue?_isSome_iff, ofHex?]
    cases hexValue? h <;> cases hexValue? l <;> cases ofHex? rest <;> simp

/-- Data are written in an even number of digits. -/
theorem WritesHex.isHex (writes : WritesHex word data) : IsHex word := by
  rw [← ofHex?_isSome_iff, ofHex?_eq_some_iff.mpr writes]
  rfl

end Bytes

/-! ### Words of a text -/

namespace Text

variable (cs : List Char)

theorem words_eq : words cs = (cs.splitOnP isBlank).filter (!·.isEmpty) := by
  rw [words, splitAt_eq]

theorem words_dropWhile : words (cs.dropWhile isBlank) = words cs := by
  induction cs with
  | nil => rfl
  | cons c cs ih =>
    by_cases hblank : isBlank c = true
    · rw [List.dropWhile_cons_of_pos hblank, ih]
      -- The piece in front of the blank is empty.
      show words cs = words (c :: cs)
      rw [words, words, splitAt, if_pos hblank]
      rfl
    · rw [List.dropWhile_cons_of_neg hblank]

theorem words_rdropWhile : words (cs.rdropWhile isBlank) = words cs := by
  induction cs using List.reverseRecOn with
  | nil => rfl
  | append_singleton cs c ih =>
    rw [List.rdropWhile_concat]
    split
    case isTrue hblank =>
      -- The piece behind the blank is empty, too.
      rw [ih, words_eq, words_eq, List.splitOnP_append_cons _ _ hblank, List.filter_append,
        List.splitOnP_nil]
      exact (List.append_nil _).symm
    case isFalse => rfl

/-- **Blanks at the ends of a text do not change its words.** -/
theorem words_trim : words (trim cs) = words cs := by
  have htrim : trim cs = (cs.dropWhile isBlank).rdropWhile isBlank := rfl
  rw [htrim, words_rdropWhile, words_dropWhile]

end Text

end GroundLink
