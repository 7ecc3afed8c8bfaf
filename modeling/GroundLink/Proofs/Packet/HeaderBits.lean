import GroundLink.Proofs.Packet.Buffer
import Mathlib.Data.Nat.Digits.Defs

/-!
# The bits of a primary header

The six octets of a primary header are one number of 48 bits (`Bytes.number`): three version bits
and behind them the number `Header.bits`, whose digits are the fields.  Writing a header puts
`Header.bits` into a buffer (`Header.number_toBytes`), and reading six octets takes the fields off
again and only drops the version (`Header.number_take_size`).

So headers and strings of six octets with a zero version correspond to each other, and the length
and the first word that are looked up without reading a header are those of the header.

The main statement is `Header.codec_bijective`.
-/

namespace GroundLink

/-! ### Octets as digits -/

namespace Bytes

/-- The number whose digits to the base 256 are the octets, most significant first. -/
def number (bs : Bytes) : Nat :=
  Nat.ofDigits 256 (bs.reverse.map UInt8.toNat)

theorem number_append (bs cs : Bytes) :
    number (bs ++ cs) = 256 ^ cs.length * number bs + number cs := by
  unfold number
  rw [List.reverse_append, List.map_append, Nat.ofDigits_append, List.length_map,
    List.length_reverse, Nat.add_comm]

theorem number_singleton (b : UInt8) : number [b] = b.toNat := by
  simp [number]

/-- The two octets of a word are its digits. -/
theorem number_ofWord16 (w : UInt16) : number (ofWord16 w) = w.toNat := by
  have hw := w.toNat_lt
  have hoctets : ofWord16 w = [UInt8.ofNat (w.toNat / 256)] ++ [UInt8.ofNat w.toNat] := rfl
  rw [hoctets, number_append, number_singleton, number_singleton, List.length_singleton,
    UInt8.toNat_ofNat', UInt8.toNat_ofNat']
  omega

/-- The low five bits of an octet. -/
theorem toNat_and_31 (b : UInt8) : (b &&& 0x1F).toNat = b.toNat % 32 := by
  rw [UInt8.toNat_and]
  exact Nat.and_two_pow_sub_one_eq_mod b.toNat 5

end Bytes

namespace Packet.Header

variable (h : Header) {buffer : Bytes}

/-! ### Writing -/

/-- The number that the fields of a header are the digits of: one bit for the kind, one for the
secondary header, eleven for the application, two for the segment, fourteen for the sequence count
and sixteen for the length. -/
def bits : Nat :=
  ((((h.kind.code * 2 + h.hasSecondary.toNat) * 2 ^ 11 + h.apid.val) * 2 ^ 2 + h.segment.code) *
    2 ^ 14 + h.sequence.val) * 2 ^ 16 + h.length.toNat

/-- **A header is written as its bits**, behind a version of zero. -/
theorem number_toBytes : Bytes.number h.toBytes = h.bits := by
  unfold toBytes bits
  rw [Bytes.number_append, Bytes.number_append, Bytes.number_ofWord16, Bytes.number_ofWord16,
    Bytes.number_ofWord16, Bytes.length_ofWord16, Bytes.length_ofWord16, toNat_packetId,
    toNat_sequenceControl]
  omega

/-! ### Reading -/

def versionBits (buffer : Bytes) : Nat :=
  (buffer.getD 0 0).toNat / 32

theorem toNat_packetId_leading (buffer : Bytes) : (leading buffer).packetId.toNat =
    (Bytes.word16 (buffer.getD 0 0) (buffer.getD 1 0)).toNat % 8192 :=
  toNat_packetId_ofWords _ _ _

/-- The first word is that of a header with the version bits removed. -/
theorem packetId_leading (buffer : Bytes) : (leading buffer).packetId =
    Bytes.word16 (buffer.getD 0 0 &&& 0x1F) (buffer.getD 1 0) := by
  have hlo := (buffer.getD 1 0).toNat_lt
  rw [← UInt16.toNat_inj, toNat_packetId_leading, Bytes.toNat_word16, Bytes.toNat_word16,
    Bytes.toNat_and_31]
  omega

/-- **Read and written again**, a header is the octets that it was read from, but for the version
bits. -/
theorem toBytes_leading_append (held : size ≤ buffer.length) :
    (leading buffer).toBytes ++ buffer.drop size = (buffer.getD 0 0 &&& 0x1F) :: buffer.drop 1 := by
  match buffer with
  | i1 :: i0 :: s1 :: s0 :: l1 :: l0 :: rest =>
    have hid : (leading (i1 :: i0 :: s1 :: s0 :: l1 :: l0 :: rest)).packetId =
      Bytes.word16 (i1 &&& 0x1F) i0 := packetId_leading _
    have hlength : (leading (i1 :: i0 :: s1 :: s0 :: l1 :: l0 :: rest)).length =
      Bytes.word16 l1 l0 := rfl
    rw [toBytes, hid, hlength, leading, sequenceControl_ofWords, Bytes.ofWord16_word16,
      Bytes.ofWord16_word16, Bytes.ofWord16_word16]
    rfl

/-- **The octets that a header is read from** are its bits behind the version. -/
theorem number_take_size (held : size ≤ buffer.length) :
    Bytes.number (buffer.take size) = versionBits buffer * 2 ^ 45 + (leading buffer).bits := by
  have hagain : (leading buffer).toBytes =
      [buffer.getD 0 0 &&& 0x1F] ++ (buffer.drop 1).take 5 := by
    have htaken := congrArg (List.take size) (toBytes_leading_append held)
    rwa [List.take_left' (length_toBytes _)] at htaken
  have hread : buffer.take size = [buffer.getD 0 0] ++ (buffer.drop 1).take 5 := by
    have hcons := Bytes.drop_eq_getD_cons (Nat.lt_of_lt_of_le (by decide : 0 < size) held)
    rw [List.drop_zero] at hcons
    conv_lhs => rw [hcons]
    rfl
  have hrest : ((buffer.drop 1).take 5).length = 5 := by
    rw [List.length_take_of_le]
    rw [List.length_drop]
    exact Nat.le_sub_of_add_le held
  rw [← number_toBytes, hagain, hread, Bytes.number_append, Bytes.number_append, hrest,
    Bytes.number_singleton, Bytes.number_singleton, Bytes.toNat_and_31, versionBits]
  omega

/-! ### Looking ahead -/

/-- The size of a packet is known as soon as its header can be read. -/
theorem peekSize?_eq (buffer : Bytes) :
    peekSize? buffer = (ofBytes? buffer).toOption.map packetSize := by
  match buffer with
  | [] | [_] | [_, _] | [_, _, _] | [_, _, _, _] | [_, _, _, _, _] => rfl
  | _ :: _ :: _ :: _ :: _ :: _ :: _ => rfl

theorem peekId?_eq (held : size ≤ buffer.length) :
    peekId? buffer = some (Bytes.word16 (buffer.getD 0 0) (buffer.getD 1 0)) := by
  match buffer with
  | _ :: _ :: _ => rfl

/-- The first word is looked up with its version bits, of which the header knows nothing. -/
theorem peekId?_eq_packetId_iff (held : size ≤ buffer.length) :
    peekId? buffer = some (leading buffer).packetId ↔ versionBits buffer = 0 := by
  have hword := Bytes.toNat_word16 (buffer.getD 0 0) (buffer.getD 1 0)
  have hlo := (buffer.getD 1 0).toNat_lt
  rw [peekId?_eq held, Option.some_inj, ← UInt16.toNat_inj, toNat_packetId_leading, hword,
    versionBits]
  omega

/-! ### Both directions -/

/-- **Reading and writing headers are inverse to each other, up to the version bits.**  Every header
is written over the first six octets of any buffer that has them, as its bits, and read back, and
the rest of the buffer stays as it was.  Every six octets are read as a header; it holds all of
their bits but the three of the version, and written back it clears these three bits and no others.
The size of the packet that is looked up without reading the header is that of the header, and so is
the first word exactly if the version is zero.  Shorter buffers are refused in both directions, and
are not written to. -/
theorem codec_bijective :
    (∀ (h : Header) (buffer : Bytes),
      if buffer.length < 6 then
        h.write.run buffer = .error (.tooShort 6 buffer.length) buffer ∧
          h.writeTo buffer = .error (.tooShort 6 buffer.length)
      else
        ∃ after, h.write.run buffer = .ok () after ∧ h.writeTo buffer = .ok after ∧
          after.length = buffer.length ∧ after.drop 6 = buffer.drop 6 ∧
          Bytes.number (after.take 6) = h.bits ∧ ofBytes? after = .ok h) ∧
    (∀ raw : Bytes,
      if raw.length < 6 then ofBytes? raw = .error (.tooShort 6 raw.length) ∧ peekSize? raw = none
      else
        ∃ h, ofBytes? raw = .ok h ∧ h.apid.val ≤ 0x7FF ∧ h.sequence.val ≤ 0x3FFF ∧
          Bytes.number (raw.take 6) = versionBits raw * 2 ^ 45 + h.bits ∧
          h.write.run raw = .ok () ((raw.getD 0 0 &&& 0x1F) :: raw.drop 1) ∧
          peekSize? raw = some h.packetSize ∧
          (peekId? raw = some h.packetId ↔ versionBits raw = 0)) := by
  refine ⟨fun h buffer => ?_, fun raw => ?_⟩
  · by_cases hshort : buffer.length < 6
    · rw [if_pos hshort]
      exact ⟨h.run_write_of_lt hshort, if_pos hshort⟩
    · have hfits : size ≤ buffer.length := Nat.le_of_not_lt hshort
      rw [if_neg hshort]
      refine ⟨_, h.run_write_of_le hfits, h.writeTo_eq hfits, ?_, ?_, ?_, ?_⟩
      · rw [List.length_append, List.length_drop, length_toBytes, Nat.add_sub_cancel' hfits]
      · exact List.drop_left' h.length_toBytes
      · have htaken : (h.toBytes ++ buffer.drop 6).take 6 = h.toBytes :=
          List.take_left' h.length_toBytes
        exact (congrArg Bytes.number htaken).trans h.number_toBytes
      · exact h.ofBytes?_toBytes_append _
  · -- The length of the buffer is all that is checked, since every word is some header.
    have hread : ofBytes? raw =
      if raw.length < 6 then .error (.tooShort 6 raw.length) else .ok (leading raw) :=
        ofBytes?_eq raw
    by_cases hshort : raw.length < 6
    · rw [if_pos hshort] at hread ⊢
      rw [peekSize?_eq, hread]
      exact ⟨rfl, rfl⟩
    · have hheld : size ≤ raw.length := Nat.le_of_not_lt hshort
      have hapid := (leading raw).apid.isLt
      have hsequence := (leading raw).sequence.isLt
      rw [if_neg hshort] at hread ⊢
      refine ⟨leading raw, hread, by omega, by omega, number_take_size hheld, ?_, ?_,
        peekId?_eq_packetId_iff hheld⟩
      · rw [run_write_of_le _ hheld, toBytes_leading_append hheld]
      · rw [peekSize?_eq, hread]
        rfl

end Packet.Header

end GroundLink
