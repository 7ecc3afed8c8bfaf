import GroundLink.Proofs.Packet.Header

/-!
# Timestamps

The seven octets of a timestamp are read back (`Cds.ofBytes?_toBytes_append`), and read octets are
written again but for the lower half of the first one (`Cds.toBytes_of_ofBytes?`).

A timestamp whose milliseconds stay within a day stands for one millisecond, and a later day or,
within a day, a later millisecond is a later time (`Cds.unixMs_lt_iff`).  The conversion from Unix
time divides by the milliseconds of a day with remainder, which the conversion to Unix time undoes
(`Cds.unixMs_of_ofUnixMs?`, `Cds.ofUnixMs?_unixMs`).

The arithmetic stays within words of fixed width: `Cds.ofUnixMsChecked?` and `Cds.unixMsChecked?`
stop where a step overflows its word, and they never do (`Cds.ofUnixMsChecked?_eq`,
`Cds.unixMsChecked?_eq`).

The main statement is `Cds.conversions_exact`.
-/

namespace GroundLink.Cds

/-! ### Octets -/

/-- **A timestamp is read back**, whatever follows it. -/
theorem ofBytes?_toBytes_append (t : Cds) (rest : Bytes) : ofBytes? (t.toBytes ++ rest) = .ok t := by
  have hread : ofBytes? (t.toBytes ++ rest) = .ok
      ⟨Bytes.word16 (UInt8.ofNat (t.days.toNat / 256)) (UInt8.ofNat t.days.toNat),
        Bytes.word32 (UInt8.ofNat (t.msOfDay.toNat / 16777216))
          (UInt8.ofNat (t.msOfDay.toNat / 65536)) (UInt8.ofNat (t.msOfDay.toNat / 256))
          (UInt8.ofNat t.msOfDay.toNat)⟩ := rfl
  rw [hread, Bytes.word16_octets, Bytes.word32_octets]

/-- **Which octets are a timestamp**: seven of them, the first of which identifies a CDS time code in
its upper half. -/
theorem ofBytes?_eq (bs : Bytes) : ofBytes? bs =
    if bs.length < size then .error (.tooShort size bs.length)
    else if (bs.getD 0 0).toNat / 16 = 4 then
      .ok ⟨Bytes.word16 (bs.getD 1 0) (bs.getD 2 0),
        Bytes.word32 (bs.getD 3 0) (bs.getD 4 0) (bs.getD 5 0) (bs.getD 6 0)⟩
    else .error (.invalidFormat (bs.getD 0 0)) := by
  match bs with
  | [] | [_] | [_, _] | [_, _, _] | [_, _, _, _] | [_, _, _, _, _] | [_, _, _, _, _, _] => rfl
  | _ :: _ :: _ :: _ :: _ :: _ :: _ :: rest =>
    rw [if_neg (by simp only [List.length_cons, size]; omega)]
    rfl

theorem exists_ofBytes? {bs : Bytes} (h : size ≤ bs.length ∧ (bs.getD 0 0).toNat / 16 = 4) :
    ∃ t, ofBytes? bs = .ok t := by
  rw [ofBytes?_eq, if_neg (Nat.not_lt.mpr h.1), if_pos h.2]
  exact ⟨_, rfl⟩

theorem isSome_ofBytes? {bs : Bytes} (long : size ≤ bs.length) :
    (ofBytes? bs).toOption.isSome = true ↔ (bs.getD 0 0).toNat / 16 = 4 := by
  rw [ofBytes?_eq, if_neg (Nat.not_lt.mpr long)]
  by_cases hp : (bs.getD 0 0).toNat / 16 = 4
  · rw [if_pos hp]
    exact ⟨fun _ => hp, fun _ => rfl⟩
  · rw [if_neg hp]
    exact ⟨fun h => Bool.noConfusion h, fun h => absurd h hp⟩

theorem ofBytes?_of_not {bs : Bytes}
    (h : ¬ (size ≤ bs.length ∧ (bs.getD 0 0).toNat / 16 = 4)) : ofBytes? bs =
      .error (if bs.length < size then .tooShort size bs.length
        else .invalidFormat (bs.getD 0 0)) := by
  rw [ofBytes?_eq]
  by_cases hshort : bs.length < size
  · rw [if_pos hshort, if_pos hshort]
  · rw [if_neg hshort, if_neg hshort, if_neg fun hp => h ⟨Nat.le_of_not_lt hshort, hp⟩]

/-- Only the first seven octets are looked at. -/
theorem ofBytes?_take (bs : Bytes) : ofBytes? (bs.take size) = ofBytes? bs := by
  match bs with
  | [] | [_] | [_, _] | [_, _, _] | [_, _, _, _] | [_, _, _, _, _] | [_, _, _, _, _, _] => rfl
  | _ :: _ :: _ :: _ :: _ :: _ :: _ :: _ => rfl

/-- **Read and written again**, a timestamp is the octets that it was read from, but for the lower
half of the first one. -/
theorem toBytes_of_ofBytes? {bs : Bytes} {t : Cds} (read : ofBytes? bs = .ok t) :
    t.toBytes = 0x40 :: (bs.take size).drop 1 := by
  match bs with
  | [] | [_] | [_, _] | [_, _, _] | [_, _, _, _] | [_, _, _, _, _] | [_, _, _, _, _, _] =>
    exact nomatch read
  | p :: d1 :: d0 :: m3 :: m2 :: m1 :: m0 :: rest =>
    by_cases hp : p.toNat / 16 = 4
    · rw [ofBytes?, if_pos hp] at read
      rw [← Except.ok.inj read, toBytes, Bytes.ofWord16_word16, Bytes.ofWord32_word32]
      rfl
    · rw [ofBytes?, if_neg hp] at read
      exact nomatch read

/-- A timestamp of the written format is written as it was read. -/
theorem toBytes_eq_take {bs : Bytes} {t : Cds} (read : ofBytes? bs = .ok t)
    (format : bs.getD 0 0 = 0x40) : t.toBytes = bs.take size := by
  have hlong : size ≤ bs.length := by
    refine Nat.le_of_not_lt fun hshort => ?_
    rw [ofBytes?_of_not fun h => Nat.not_le.mpr hshort h.1] at read
    exact nomatch read
  have htaken : 0 < (bs.take size).length := by
    rw [List.length_take_of_le hlong]
    decide
  have hcons := Bytes.drop_eq_getD_cons htaken
  rw [List.drop_zero, Bytes.getD_take (by decide), format] at hcons
  rw [toBytes_of_ofBytes? read, ← hcons]

/-! ### Arithmetic in words -/

/-- A number in a word that holds the numbers from `low` on and below `high`, unless the number
overflows the word. -/
def inWord? {α : Type} (ofInt : Int → α) (low high n : Int) : Option α :=
  if low ≤ n ∧ n < high then some (ofInt n) else none

def int64? : Int → Option Int64 :=
  inWord? Int64.ofInt (-0x8000000000000000) 0x8000000000000000

def uint32? : Int → Option UInt32 := inWord? (fun n => UInt32.ofNat n.toNat) 0 0x100000000

def uint16? : Int → Option UInt16 := inWord? (fun n => UInt16.ofNat n.toNat) 0 0x10000

/-- The conversion from Unix time in words of fixed width.  A day that does not fit into its field
is refused; there is no result at all where another step overflows its word. -/
def ofUnixMsChecked? (ms : UInt64) : Option (Except Error Cds) := do
  let unixDays ← int64? (ms / 86400000).toNat
  let days ← int64? (unixDays.toInt + 4383)
  match uint16? days.toInt with
  | none => return .error .dateOutOfRange
  | some days => return .ok ⟨days, ← uint32? (ms % 86400000).toNat⟩

/-- The conversion to Unix time in words of fixed width, if no step overflows its word. -/
def unixMsChecked? (t : Cds) : Option Int64 := do
  let unixDays ← int64? (t.days.toNat - 4383)
  let ms ← int64? (unixDays.toInt * 86400000)
  int64? (ms.toInt + t.msOfDay.toNat)

theorem inWord?_of_mem {α : Type} {ofInt : Int → α} {low high n : Int} (hlow : low ≤ n)
    (hhigh : n < high) : inWord? ofInt low high n = some (ofInt n) :=
  if_pos ⟨hlow, hhigh⟩

theorem inWord?_of_le {α : Type} {ofInt : Int → α} {low high n : Int} (hhigh : high ≤ n) :
    inWord? ofInt low high n = none :=
  if_neg fun h => Int.not_le.mpr h.2 hhigh

theorem int64?_eq {n : Int} (low : -0x8000000000000000 ≤ n) (high : n < 0x8000000000000000) :
    ∃ w, int64? n = some w ∧ w.toInt = n :=
  ⟨Int64.ofInt n, inWord?_of_mem low high, Int64.toInt_ofInt_of_le low high⟩

/-- **No step of the conversion to Unix time overflows.** -/
theorem unixMsChecked?_eq (t : Cds) : ∃ w, t.unixMsChecked? = some w ∧ w.toInt = t.unixMs := by
  have hdays := t.days.toNat_lt
  have hms := t.msOfDay.toNat_lt
  obtain ⟨unixDays, hunixDays, hvalue⟩ := int64?_eq (n := t.days.toNat - 4383) (by omega) (by omega)
  obtain ⟨ms, hmidnight, hproduct⟩ :=
    int64?_eq (n := unixDays.toInt * 86400000) (by omega) (by omega)
  obtain ⟨w, hw, hsum⟩ := int64?_eq (n := ms.toInt + t.msOfDay.toNat) (by omega) (by omega)
  refine ⟨w, ?_, ?_⟩
  · simp only [unixMsChecked?, hunixDays, hmidnight, Option.bind_eq_bind, Option.bind_some, hw]
  · rw [hsum, hproduct, hvalue]
    rfl

theorem ofUnixMs?_eq (ms : UInt64) : ofUnixMs? ms =
    if ms.toNat / 86400000 + 4383 < 65536 then
      .ok ⟨UInt16.ofNat (ms.toNat / 86400000 + 4383), UInt32.ofNat (ms.toNat % 86400000)⟩
    else .error .dateOutOfRange :=
  rfl

/-- **No step of the conversion from Unix time overflows.** -/
theorem ofUnixMsChecked?_eq (ms : UInt64) : ofUnixMsChecked? ms = some (ofUnixMs? ms) := by
  have hms := ms.toNat_lt
  have hquotient : (ms / 86400000).toNat = ms.toNat / 86400000 := UInt64.toNat_div ms 86400000
  have hrest : (ms % 86400000).toNat = ms.toNat % 86400000 := UInt64.toNat_mod ms 86400000
  obtain ⟨unixDays, hunixDays, hvalue⟩ :=
    int64?_eq (n := (ms / 86400000).toNat) (by omega) (by omega)
  obtain ⟨days, hdays, hsum⟩ := int64?_eq (n := unixDays.toInt + 4383) (by omega) (by omega)
  have hday : days.toInt = (ms.toNat / 86400000 + 4383 : Nat) := by
    rw [hsum, hvalue, hquotient]
    rfl
  unfold ofUnixMsChecked?
  rw [hunixDays, Option.bind_eq_bind, Option.bind_some, hdays, Option.bind_eq_bind,
    Option.bind_some, hday, hrest]
  by_cases hfits : ms.toNat / 86400000 + 4383 < 65536
  · have hnarrow : uint16? (ms.toNat / 86400000 + 4383 : Nat) =
        some (UInt16.ofNat (ms.toNat / 86400000 + 4383)) := inWord?_of_mem (by omega) (by omega)
    have hofDay : uint32? (ms.toNat % 86400000 : Nat) =
        some (UInt32.ofNat (ms.toNat % 86400000)) := inWord?_of_mem (by omega) (by omega)
    rw [hnarrow, hofDay, ofUnixMs?_eq, if_pos hfits]
    rfl
  · have hnarrow : uint16? (ms.toNat / 86400000 + 4383 : Nat) = none := inWord?_of_le (by omega)
    rw [hnarrow, ofUnixMs?_eq, if_neg hfits]
    rfl

/-! ### Both directions -/

theorem unixMs_eq (t : Cds) :
    t.unixMs = ((t.days.toNat : Int) - 4383) * 86400000 + (t.msOfDay.toNat : Int) :=
  rfl

/-- **The timestamp of a Unix time**: the day and the rest of the division, the day counted from the
earlier epoch. -/
theorem ofUnixMs?_eq_ok_iff {ms : UInt64} {t : Cds} : ofUnixMs? ms = .ok t ↔
    t.days.toNat = ms.toNat / 86400000 + 4383 ∧ t.msOfDay.toNat = ms.toNat % 86400000 := by
  have hdays := t.days.toNat_lt
  rw [ofUnixMs?_eq]
  constructor
  · intro h
    by_cases hfits : ms.toNat / 86400000 + 4383 < 65536
    · rw [if_pos hfits] at h
      rw [← Except.ok.inj h, UInt16.toNat_ofNat', UInt32.toNat_ofNat']
      omega
    · rw [if_neg hfits] at h
      exact nomatch h
  · rintro ⟨hday, hofDay⟩
    rw [if_pos (by omega), ← hday, ← hofDay, UInt16.ofNat_toNat, UInt32.ofNat_toNat]

/-- A Unix time is that of its timestamp, whose milliseconds stay within a day. -/
theorem unixMs_of_ofUnixMs? {ms : UInt64} {t : Cds} (h : ofUnixMs? ms = .ok t) :
    t.msOfDay.toNat < 86400000 ∧ t.unixMs = ms.toNat := by
  obtain ⟨hday, hofDay⟩ := ofUnixMs?_eq_ok_iff.mp h
  rw [unixMs_eq]
  omega

/-- **A timestamp is that of its Unix time** if it is not before 1970 and its milliseconds stay
within a day. -/
theorem ofUnixMs?_unixMs {t : Cds} (late : 4383 ≤ t.days.toNat)
    (ofDay : t.msOfDay.toNat < 86400000) :
    ∃ ms : UInt64, (ms.toNat : Int) = t.unixMs ∧ ofUnixMs? ms = .ok t := by
  have hdays := t.days.toNat_lt
  obtain ⟨ms, hms⟩ :
      ∃ ms : UInt64, ms.toNat = (t.days.toNat - 4383) * 86400000 + t.msOfDay.toNat := by
    refine ⟨UInt64.ofNat ((t.days.toNat - 4383) * 86400000 + t.msOfDay.toNat), ?_⟩
    rw [UInt64.toNat_ofNat']
    omega
  refine ⟨ms, ?_, ofUnixMs?_eq_ok_iff.mpr ?_⟩
  · rw [unixMs_eq]
    omega
  · omega

/-- **Timestamps are ordered like times**, by their days first, if their milliseconds stay within a
day. -/
theorem unixMs_lt_iff {t u : Cds} (ht : t.msOfDay.toNat < 86400000)
    (hu : u.msOfDay.toNat < 86400000) :
    t.unixMs < u.unixMs ↔ t.days < u.days ∨ t.days = u.days ∧ t.msOfDay < u.msOfDay := by
  rw [unixMs_eq, unixMs_eq, UInt16.lt_iff_toNat_lt, UInt32.lt_iff_toNat_lt, ← UInt16.toNat_inj]
  omega

/-- **Timestamps are converted exactly.**  A Unix time has a timestamp exactly if its day fits into
16 bits, and then it is the Unix time of this timestamp, whose milliseconds stay within a day.
Conversely each timestamp from 1970 on whose milliseconds stay within a day is that of its Unix
time, and such timestamps are ordered, day before millisecond, like their times.  No step of either
conversion overflows the word that holds it.  On the wire each timestamp is read back, whatever
follows, and a string is read exactly if it has seven octets and the upper half of the first one is
four; written again, the octets are the same but for the first one, which is then `0x40`. -/
theorem conversions_exact :
    (∀ ms : UInt64, ofUnixMsChecked? ms = some (ofUnixMs? ms) ∧
      match ofUnixMs? ms with
      | .ok t => ms.toNat / 86400000 + 4383 ≤ 65535 ∧ t.msOfDay.toNat < 86400000 ∧
          t.unixMs = ms.toNat
      | .error cause => ¬ ms.toNat / 86400000 + 4383 ≤ 65535 ∧ cause = .dateOutOfRange) ∧
    (∀ t : Cds, ∃ w, t.unixMsChecked? = some w ∧ w.toInt = t.unixMs) ∧
    (∀ t : Cds, 4383 ≤ t.days.toNat → t.msOfDay.toNat < 86400000 →
      (∃ ms : UInt64, (ms.toNat : Int) = t.unixMs ∧ ofUnixMs? ms = .ok t) ∧
      ∀ u : Cds, 4383 ≤ u.days.toNat → u.msOfDay.toNat < 86400000 →
        (t.unixMs < u.unixMs ↔ t.days < u.days ∨ t.days = u.days ∧ t.msOfDay < u.msOfDay)) ∧
    (∀ (t : Cds) (rest : Bytes), ofBytes? (t.toBytes ++ rest) = .ok t) ∧
    (∀ bs : Bytes,
      match ofBytes? bs with
      | .ok t => (7 ≤ bs.length ∧ (bs.getD 0 0).toNat / 16 = 4) ∧
          t.toBytes = 0x40 :: (bs.take 7).drop 1
      | .error cause => ¬ (7 ≤ bs.length ∧ (bs.getD 0 0).toNat / 16 = 4) ∧
          cause = if bs.length < 7 then .tooShort 7 bs.length
            else .invalidFormat (bs.getD 0 0)) := by
  refine ⟨fun ms => ⟨ofUnixMsChecked?_eq ms, ?_⟩, unixMsChecked?_eq, ?_, ofBytes?_toBytes_append,
    fun bs => ?_⟩
  · cases h : ofUnixMs? ms with
    | ok t =>
      have hday := t.days.toNat_lt
      refine ⟨?_, unixMs_of_ofUnixMs? h⟩
      rw [← (ofUnixMs?_eq_ok_iff.mp h).1]
      omega
    | error cause =>
      rw [ofUnixMs?_eq] at h
      -- The day has to fit into 16 bits, which is the only way to fail.
      by_cases hfits : ms.toNat / 86400000 + 4383 < 65536
      · rw [if_pos hfits] at h
        exact nomatch h
      · rw [if_neg hfits] at h
        exact ⟨by omega, (Except.error.inj h).symm⟩
  · intro t late ofDay
    exact ⟨ofUnixMs?_unixMs late ofDay, fun u _ hu => unixMs_lt_iff ofDay hu⟩
  · by_cases hread : size ≤ bs.length ∧ (bs.getD 0 0).toNat / 16 = 4
    · obtain ⟨t, ht⟩ := exists_ofBytes? hread
      rw [ht]
      exact ⟨hread, toBytes_of_ofBytes? ht⟩
    · rw [ofBytes?_of_not hread]
      exact ⟨hread, rfl⟩

/-- The last timestamp, and one before it. -/
theorem conversions_exact_last :
    let t : Cds := ⟨23000, 12345678⟩
    let last : Cds := ⟨65535, 86399999⟩
    (4383 ≤ t.days.toNat ∧ t.msOfDay.toNat < 86400000) ∧
      (4383 ≤ last.days.toNat ∧ last.msOfDay.toNat < 86400000) ∧
      (∃ ms : UInt64, (ms.toNat : Int) = last.unixMs ∧ ofUnixMs? ms = .ok last) ∧
      last.unixMs = 5283619199999 ∧ t.unixMs < last.unixMs ∧
      ofUnixMs? 5283619200000 = .error .dateOutOfRange := by
  intro t last
  have ht : 4383 ≤ t.days.toNat ∧ t.msOfDay.toNat < 86400000 := by decide
  have hlast : 4383 ≤ last.days.toNat ∧ last.msOfDay.toNat < 86400000 := by decide
  obtain ⟨-, -, htimes, -⟩ := conversions_exact
  have hless := ((htimes t ht.1 ht.2).2 last hlast.1 hlast.2).mpr (.inl (by decide))
  have hbeyond : ofUnixMs? 5283619200000 = .error .dateOutOfRange :=
    (ofUnixMs?_eq _).trans (if_neg (by decide))
  exact ⟨ht, hlast, (htimes last hlast.1 hlast.2).1, by decide, hless, hbeyond⟩

end GroundLink.Cds
