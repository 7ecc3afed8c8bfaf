import GroundLink.Packet.Header

/-!
# Words and headers are read back

A word is read back from its octets, and a primary header from its six octets, whatever follows them
(`Header.ofBytes?_toBytes_append`).  The fields of a header do not overlap in its words: each word
is the number that its fields are the digits of, and reading takes the digits off again.

Conversely every string of six octets is read as a header (`Header.leading`), and what follows them
has no influence on it.  Written again, the header is these octets (`Header.toBytes_leading`) if
their version bits are zero.
-/

namespace GroundLink

/-! ### Big-endian words -/

namespace Bytes

@[simp]
theorem length_ofWord16 (w : UInt16) : (ofWord16 w).length = 2 := rfl

theorem word16_octets (w : UInt16) :
    word16 (UInt8.ofNat (w.toNat / 256)) (UInt8.ofNat w.toNat) = w := by
  have hw := w.toNat_lt
  rw [← UInt16.toNat_inj, word16, UInt16.toNat_ofNat', UInt8.toNat_ofNat', UInt8.toNat_ofNat']
  omega

theorem word32_octets (w : UInt32) :
    word32 (UInt8.ofNat (w.toNat / 16777216)) (UInt8.ofNat (w.toNat / 65536))
      (UInt8.ofNat (w.toNat / 256)) (UInt8.ofNat w.toNat) = w := by
  have hw := w.toNat_lt
  rw [← UInt32.toNat_inj, word32, UInt32.toNat_ofNat', UInt8.toNat_ofNat', UInt8.toNat_ofNat',
    UInt8.toNat_ofNat', UInt8.toNat_ofNat']
  omega

theorem toNat_word16 (hi lo : UInt8) : (word16 hi lo).toNat = hi.toNat * 256 + lo.toNat := by
  have hhi := hi.toNat_lt
  have hlo := lo.toNat_lt
  rw [word16, UInt16.toNat_ofNat']
  omega

theorem ofNat_eq_of_mod {n : Nat} (x : UInt8) (h : n % 256 = x.toNat) : UInt8.ofNat n = x := by
  rw [← UInt8.toNat_inj, UInt8.toNat_ofNat', h]

theorem ofWord16_word16 (hi lo : UInt8) : ofWord16 (word16 hi lo) = [hi, lo] := by
  have hhi := hi.toNat_lt
  have hlo := lo.toNat_lt
  rw [ofWord16, toNat_word16, ofNat_eq_of_mod hi (by omega), ofNat_eq_of_mod lo (by omega)]

theorem ofWord32_word32 (a b c d : UInt8) : ofWord32 (word32 a b c d) = [a, b, c, d] := by
  have ha := a.toNat_lt
  have hb := b.toNat_lt
  have hc := c.toNat_lt
  have hd := d.toNat_lt
  have hword : (word32 a b c d).toNat =
      ((a.toNat * 256 + b.toNat) * 256 + c.toNat) * 256 + d.toNat := by
    rw [word32, UInt32.toNat_ofNat', Nat.mod_eq_of_lt (by omega)]
  rw [ofWord32, hword, ofNat_eq_of_mod a (by omega), ofNat_eq_of_mod b (by omega),
    ofNat_eq_of_mod c (by omega), ofNat_eq_of_mod d (by omega)]

/-- A word is read where it was written. -/
theorem word16At?_append (before : Bytes) (w : UInt16) (rest : Bytes) :
    (before ++ (ofWord16 w ++ rest)).word16At? before.length = some w := by
  rw [word16At?, List.drop_left]
  exact congrArg some (word16_octets w)

theorem word32At?_append (before : Bytes) (w : UInt32) (rest : Bytes) :
    (before ++ (ofWord32 w ++ rest)).word32At? before.length = some w := by
  rw [word32At?, List.drop_left]
  exact congrArg some (word32_octets w)

/-- Writing over the octets that follow those already written. -/
theorem overwrite_append {done : Bytes} {offset : Nat} (h : done.length = offset)
    (rest content : Bytes) :
    (done ++ rest).overwrite offset content = done ++ content ++ rest.drop content.length := by
  rw [overwrite, ← h, List.take_left, ← List.drop_drop, List.drop_left]

/-! ### Looking up octets -/

theorem getElem?_eq_some_getD {bs : Bytes} {i : Nat} (h : i < bs.length) :
    bs[i]? = some (bs.getD i 0) := by
  rw [List.getD_eq_getElem?_getD, List.getElem?_eq_getElem h, Option.getD_some]

theorem getD_append_left {bs : Bytes} {i : Nat} (h : i < bs.length) (rest : Bytes) :
    (bs ++ rest).getD i 0 = bs.getD i 0 := by
  rw [List.getD_eq_getElem?_getD, List.getElem?_append_left h, ← List.getD_eq_getElem?_getD]

theorem getD_take {bs : Bytes} {i n : Nat} (h : i < n) : (bs.take n).getD i 0 = bs.getD i 0 := by
  rw [List.getD_eq_getElem?_getD, List.getElem?_take_of_lt h, ← List.getD_eq_getElem?_getD]

theorem getD_drop (bs : Bytes) (n i : Nat) : (bs.drop n).getD i 0 = bs.getD (n + i) 0 := by
  rw [List.getD_eq_getElem?_getD, List.getElem?_drop, ← List.getD_eq_getElem?_getD]

theorem drop_eq_getD_cons {bs : Bytes} {i : Nat} (h : i < bs.length) :
    bs.drop i = bs.getD i 0 :: bs.drop (i + 1) := by
  rw [List.drop_eq_getElem_cons h, List.getD_eq_getElem?_getD, List.getElem?_eq_getElem h,
    Option.getD_some]

end Bytes

namespace Packet

/-! ### The words of a header -/

theorem Kind.code_lt (kind : Kind) : kind.code < 2 := by cases kind <;> decide

theorem Segment.code_lt (segment : Segment) : segment.code < 4 := by cases segment <;> decide

@[simp]
theorem Segment.ofCode?_code (segment : Segment) : ofCode? segment.code = some segment := by
  cases segment <;> rfl

/-- Each value of the two sequence flags is that of a segment. -/
theorem Segment.code_ofCode? {n : Nat} (h : n < 4) :
    ((ofCode? n).getD .unsegmented).code = n := by
  match n, h with
  | 0, _ | 1, _ | 2, _ | 3, _ => rfl

namespace Header

variable (h : Header)

theorem toNat_packetId :
    h.packetId.toNat = h.kind.code * 4096 + h.hasSecondary.toNat * 2048 + h.apid.val := by
  have hkind := h.kind.code_lt
  have hflag := h.hasSecondary.toNat_lt
  have hapid := h.apid.isLt
  rw [packetId, UInt16.toNat_ofNat', Nat.mod_eq_of_lt (by omega)]

theorem toNat_sequenceControl :
    h.sequenceControl.toNat = h.segment.code * 16384 + h.sequence.val := by
  have hsegment := h.segment.code_lt
  have hsequence := h.sequence.isLt
  rw [sequenceControl, UInt16.toNat_ofNat', Nat.mod_eq_of_lt (by omega)]

/-- **The words of a header determine it.** -/
theorem ofWords_words : ofWords h.packetId h.sequenceControl h.length = h := by
  have hid := h.toNat_packetId
  have hcontrol := h.toNat_sequenceControl
  obtain ⟨kind, hasSecondary, apid, segment, sequence, length⟩ := h
  have hapid := apid.isLt
  have hsequence := sequence.isLt
  have hflag := hasSecondary.toNat_lt
  dsimp only at hid hcontrol
  rw [ofWords, hid, hcontrol, Apid.ofWord, SequenceCount.ofWord, hid, hcontrol]
  -- Field by field: each one is a digit of its word.
  congr 1
  case e_kind =>
    cases kind with
    | telemetry => rw [if_neg (by rw [Kind.code]; omega)]
    | telecommand => rw [if_pos (by rw [Kind.code]; omega)]
  case e_hasSecondary =>
    cases hasSecondary with
    | false => exact decide_eq_false (by rw [Bool.toNat_false]; omega)
    | true => exact decide_eq_true (by rw [Bool.toNat_true]; omega)
  case e_apid =>
    refine Fin.ext ?_
    rw [Fin.val_ofNat]
    omega
  case e_segment =>
    rw [show (segment.code * 16384 + sequence.val) / 16384 = segment.code by omega,
      Segment.ofCode?_code, Option.getD_some]
  case e_sequence =>
    refine Fin.ext ?_
    rw [Fin.val_ofNat]
    omega

/-- The version bits in front of the first word are not kept. -/
theorem toNat_packetId_ofWords (id control length : UInt16) :
    (ofWords id control length).packetId.toNat = id.toNat % 8192 := by
  have hkind : (ofWords id control length).kind.code = id.toNat / 4096 % 2 := by
    have hcode : (ofWords id control length).kind.code =
      (if id.toNat / 4096 % 2 = 1 then Kind.telecommand else Kind.telemetry).code := rfl
    rw [hcode]
    by_cases hbit : id.toNat / 4096 % 2 = 1
    · rw [if_pos hbit, Kind.code, hbit]
    · rw [if_neg hbit, Kind.code]
      omega
  have hflag : (ofWords id control length).hasSecondary.toNat = id.toNat / 2048 % 2 := by
    have hbit : (ofWords id control length).hasSecondary = decide (id.toNat / 2048 % 2 = 1) := rfl
    rw [hbit]
    by_cases h : id.toNat / 2048 % 2 = 1
    · rw [decide_eq_true h, h]
      rfl
    · rw [decide_eq_false h, Bool.toNat_false]
      omega
  have hapid : (ofWords id control length).apid.val = id.toNat % 2048 := rfl
  rw [toNat_packetId, hkind, hflag, hapid]
  omega

theorem packetId_ofWords {id : UInt16} (version : id.toNat < 8192) (control length : UInt16) :
    (ofWords id control length).packetId = id := by
  rw [← UInt16.toNat_inj, toNat_packetId_ofWords, Nat.mod_eq_of_lt version]

theorem sequenceControl_ofWords (id control length : UInt16) :
    (ofWords id control length).sequenceControl = control := by
  have hcontrol := control.toNat_lt
  have hsegment : (ofWords id control length).segment.code = control.toNat / 16384 :=
    Segment.code_ofCode? (by omega)
  have hsequence : (ofWords id control length).sequence.val = control.toNat % 16384 := rfl
  rw [← UInt16.toNat_inj, toNat_sequenceControl, hsegment, hsequence]
  omega

/-! ### The octets of a header -/

@[simp]
theorem length_toBytes : h.toBytes.length = size := rfl

/-- **A header is read back** from the octets that it is written to, whatever follows them. -/
theorem ofBytes?_toBytes_append (rest : Bytes) : ofBytes? (h.toBytes ++ rest) = .ok h := by
  have hread : ofBytes? (h.toBytes ++ rest) = .ok (ofWords
      (Bytes.word16 (UInt8.ofNat (h.packetId.toNat / 256)) (UInt8.ofNat h.packetId.toNat))
      (Bytes.word16 (UInt8.ofNat (h.sequenceControl.toNat / 256))
        (UInt8.ofNat h.sequenceControl.toNat))
      (Bytes.word16 (UInt8.ofNat (h.length.toNat / 256)) (UInt8.ofNat h.length.toNat))) := rfl
  rw [hread, Bytes.word16_octets, Bytes.word16_octets, Bytes.word16_octets, ofWords_words]

/-- A header is written over the first octets of a buffer. -/
theorem writeTo_eq {buffer : Bytes} (fits : size ≤ buffer.length) :
    h.writeTo buffer = .ok (h.toBytes ++ buffer.drop size) := by
  rw [writeTo, if_neg (Nat.not_lt.mpr fits)]
  have hid : buffer.overwrite 0 (Bytes.ofWord16 h.packetId) =
      Bytes.ofWord16 h.packetId ++ buffer.drop 2 :=
    Bytes.overwrite_append List.length_nil buffer (Bytes.ofWord16 h.packetId)
  rw [hid, Bytes.overwrite_append (Bytes.length_ofWord16 h.packetId),
    Bytes.overwrite_append (by simp), List.drop_drop, List.drop_drop]
  rfl

/-! ### The header of a buffer -/

/-- The header in the first six octets of a buffer. -/
def leading (buffer : Bytes) : Header :=
  ofWords (Bytes.word16 (buffer.getD 0 0) (buffer.getD 1 0))
    (Bytes.word16 (buffer.getD 2 0) (buffer.getD 3 0))
    (Bytes.word16 (buffer.getD 4 0) (buffer.getD 5 0))

theorem ofBytes?_eq (buffer : Bytes) : ofBytes? buffer =
    if buffer.length < size then .error (.tooShort size buffer.length)
    else .ok (leading buffer) := by
  match buffer with
  | [] | [_] | [_, _] | [_, _, _] | [_, _, _, _] | [_, _, _, _, _] => rfl
  | _ :: _ :: _ :: _ :: _ :: _ :: rest =>
    rw [if_neg (by simp only [List.length_cons, size]; omega)]
    rfl

/-- Buffers with the same first six octets have the same header. -/
theorem leading_congr {buffer other : Bytes}
    (same : ∀ i < size, other.getD i 0 = buffer.getD i 0) : leading other = leading buffer := by
  rw [leading, same 0 (by decide), same 1 (by decide), same 2 (by decide), same 3 (by decide),
    same 4 (by decide), same 5 (by decide), leading]

theorem leading_append {buffer : Bytes} (header : size ≤ buffer.length) (rest : Bytes) :
    leading (buffer ++ rest) = leading buffer :=
  leading_congr fun _ hi => Bytes.getD_append_left (Nat.lt_of_lt_of_le hi header) rest

theorem packetSize_leading (buffer : Bytes) : (leading buffer).packetSize =
    256 * (buffer.getD 4 0).toNat + (buffer.getD 5 0).toNat + 7 := by
  have hlength : (leading buffer).length =
    Bytes.word16 (buffer.getD 4 0) (buffer.getD 5 0) := rfl
  rw [packetSize, hlength, Bytes.toNat_word16, size]
  omega

theorem take_size {buffer : Bytes} (held : size ≤ buffer.length) : buffer.take size =
    [buffer.getD 0 0, buffer.getD 1 0, buffer.getD 2 0, buffer.getD 3 0, buffer.getD 4 0,
      buffer.getD 5 0] := by
  match buffer with
  | _ :: _ :: _ :: _ :: _ :: _ :: _ => rfl

/-- **A header is written as it was read**, if its version is zero. -/
theorem toBytes_leading {buffer : Bytes} (held : size ≤ buffer.length)
    (version : (buffer.getD 0 0).toNat < 32) : (leading buffer).toBytes = buffer.take size := by
  have hid : (Bytes.word16 (buffer.getD 0 0) (buffer.getD 1 0)).toNat < 8192 := by
    have hlo := (buffer.getD 1 0).toNat_lt
    rw [Bytes.toNat_word16]
    omega
  have hlength : (leading buffer).length =
    Bytes.word16 (buffer.getD 4 0) (buffer.getD 5 0) := rfl
  rw [toBytes, hlength, leading, packetId_ofWords hid, sequenceControl_ofWords,
    Bytes.ofWord16_word16, Bytes.ofWord16_word16, Bytes.ofWord16_word16, take_size held]
  rfl

theorem kind_leading (buffer : Bytes) : (leading buffer).kind =
    if (buffer.getD 0 0).toNat / 16 % 2 = 0 then .telemetry else .telecommand := by
  have hlo := (buffer.getD 1 0).toNat_lt
  have hkind : (leading buffer).kind =
    if (Bytes.word16 (buffer.getD 0 0) (buffer.getD 1 0)).toNat / 4096 % 2 = 1 then
      .telecommand else .telemetry := rfl
  rw [hkind, Bytes.toNat_word16]
  by_cases hbit : (buffer.getD 0 0).toNat / 16 % 2 = 0
  · rw [if_pos hbit, if_neg (by omega)]
  · rw [if_neg hbit, if_pos (by omega)]

end Header

end Packet

end GroundLink
