import GroundLink.Frame
import GroundLink.Proofs.Frame.Packing
import GroundLink.Proofs.Packet.Grammar

/-!
# Frames are read from the front

The packets of a received frame are its first octets, cut where the length fields say, and what is
left begins with no packet that it holds (`Frame.IsRest`).  Cutting takes a packet off the front
exactly if one stands there (`Frame.nextSize?_eq`), so packets are cut apart whatever follows them
(`Frame.split_packets_append`), and it is enough to look at the front of a frame to know the first
packets of it.

`Frame.parseChecked?` walks over the frame with an index, and looks up every octet where the frame
holds it.  It always has a result, and the same one (`Frame.parseChecked?_eq`).

The main statement is `Frame.parse_consumes_prefix`.
-/

namespace GroundLink

/-! ### Words of a byte string -/

namespace Bytes

/-- The number in the two octets from an offset on. -/
def wordAt (bs : Bytes) (i : Nat) : Nat :=
  256 * (bs.getD i 0).toNat + (bs.getD (i + 1) 0).toNat

variable {bs : Bytes} {i : Nat}

theorem toNat_word16_getD (bs : Bytes) (i : Nat) :
    (word16 (bs.getD i 0) (bs.getD (i + 1) 0)).toNat = bs.wordAt i := by
  rw [toNat_word16, wordAt, Nat.mul_comm]

theorem word16_getD_eq_zero : word16 (bs.getD i 0) (bs.getD (i + 1) 0) = 0 ↔ bs.wordAt i = 0 := by
  rw [← toNat_word16_getD, ← UInt16.toNat_inj, UInt16.toNat_zero]

theorem wordAt_append (h : i + 1 < bs.length) (rest : Bytes) :
    (bs ++ rest).wordAt i = bs.wordAt i := by
  rw [wordAt, wordAt, getD_append_left (Nat.lt_of_succ_lt h), getD_append_left h]

theorem wordAt_take {n : Nat} (h : i + 1 < n) : wordAt (bs.take n) i = bs.wordAt i := by
  rw [wordAt, wordAt, getD_take (Nat.lt_of_succ_lt h), getD_take h]

theorem word16At?_zero (h : 2 ≤ bs.length) :
    bs.word16At? 0 = some (word16 (bs.getD 0 0) (bs.getD 1 0)) := by
  match bs with
  | _ :: _ :: _ => rfl

end Bytes

/-! ### Lenient decoding -/

namespace Packet

variable {raw : Bytes}

/-- Lenient decoding in which an octet that the buffer does not hold has no value. -/
def decodeLenientChecked? (buffer : Bytes) : Option Packet := do
  match ← decodeChecked? buffer with
  | .ok p => return p
  | .error _ => return unreadable buffer

theorem decodeLenientChecked?_eq (buffer : Bytes) :
    decodeLenientChecked? buffer = some (decodeLenient buffer) := by
  rw [decodeLenientChecked?, decodeChecked?_eq, decodeLenient]
  cases decode buffer <;> rfl

/-- **A packet keeps the octets that it was read from**, also if they cannot be read. -/
theorem raw_decodeLenient (whole : raw.length = raw.wordAt 4 + 7) :
    (decodeLenient raw).raw = raw := by
  rw [decodeLenient]
  cases hdecode : decode raw with
  | error cause => rfl
  | ok p =>
    obtain ⟨-, rfl⟩ := decode_eq_ok_iff.mp hdecode
    have hsize : (Header.leading raw).packetSize = raw.length := by
      rw [Header.packetSize_leading, whole, Bytes.wordAt]
    show raw.take (Header.leading raw).packetSize = raw
    rw [hsize, List.take_length]

end Packet

namespace Frame

open Packet

variable {raw frame : Bytes} {packets : List Bytes}

/-! ### Packets and what is left -/

/-- A string of octets that stands for one packet in a frame.  It need not be readable. -/
structure IsPacket (raw : Bytes) : Prop where
  /-- Its packet identification is not that of fill. -/
  id : raw.wordAt 0 ≠ 0
  /-- Its length field is not that of fill. -/
  field : raw.wordAt 4 ≠ 0
  /-- It is as long as its length field says. -/
  length : raw.length = raw.wordAt 4 + 7

/-- A packet has a header and at least two octets more. -/
theorem IsPacket.length_ge (h : IsPacket raw) : 8 ≤ raw.length := by
  have hfield := h.field
  have hlength := h.length
  omega

/-- What is left of a frame when no more packets can be cut off. -/
def IsRest (rest : Bytes) : Prop :=
  rest.length < 6 ∨ rest.wordAt 0 = 0 ∨ rest.wordAt 4 = 0 ∨ rest.length < rest.wordAt 4 + 7

/-- **Where a packet starts**: its size is read off the two words of a frame that mark fill. -/
theorem nextSize?_eq (frame : Bytes) : nextSize? frame =
    if frame.length < 6 ∨ frame.wordAt 0 = 0 ∨ frame.wordAt 4 = 0 then none
    else some (frame.wordAt 4 + 7) := by
  match frame with
  | [] | [_] | [_, _] | [_, _, _] | [_, _, _, _] | [_, _, _, _, _] => rfl
  | i1 :: i0 :: s1 :: s0 :: l1 :: l0 :: rest =>
    generalize hframe : i1 :: i0 :: s1 :: s0 :: l1 :: l0 :: rest = frame
    have hread : nextSize? frame =
        if Bytes.word16 (frame.getD 0 0) (frame.getD 1 0) = 0 ∨
            Bytes.word16 (frame.getD 4 0) (frame.getD 5 0) = 0 then none
        else some ((Bytes.word16 (frame.getD 4 0) (frame.getD 5 0)).toNat + Header.size + 1) := by
      subst hframe
      rfl
    have hlong : ¬ frame.length < 6 := by
      subst hframe
      simp only [List.length_cons]
      omega
    rw [hread]
    simp only [Bytes.word16_getD_eq_zero, Bytes.toNat_word16_getD, hlong, false_or]
    rfl

/-- A packet that starts in a frame and does not exceed it is a packet. -/
theorem isPacket_take {n : Nat} (start : nextSize? frame = some n) (fits : n ≤ frame.length) :
    IsPacket (frame.take n) := by
  rw [nextSize?_eq] at start
  split at start
  case isTrue => exact nomatch start
  case isFalse hmarked =>
    rw [not_or, not_or] at hmarked
    obtain ⟨-, hid, hfield⟩ := hmarked
    obtain rfl : frame.wordAt 4 + 7 = n := Option.some.inj start
    have hword {i : Nat} (hi : i < 6) : Bytes.wordAt (frame.take (frame.wordAt 4 + 7)) i =
        frame.wordAt i :=
      Bytes.wordAt_take (by omega)
    refine ⟨?_, ?_, ?_⟩
    · rw [hword (by decide)]
      exact hid
    · rw [hword (by decide)]
      exact hfield
    · rw [hword (by decide), List.length_take_of_le fits]

/-- Where a packet stands, it is found, whatever follows it. -/
theorem IsPacket.nextSize?_append (h : IsPacket raw) (tail : Bytes) :
    nextSize? (raw ++ tail) = some raw.length := by
  have hlong := h.length_ge
  have hstart : ¬ ((raw ++ tail).length < 6 ∨ raw.wordAt 0 = 0 ∨ raw.wordAt 4 = 0) := by
    rw [List.length_append]
    rintro (hshort | hid | hfield)
    · omega
    · exact h.id hid
    · exact h.field hfield
  rw [nextSize?_eq, Bytes.wordAt_append (by omega), Bytes.wordAt_append (by omega),
    if_neg hstart, h.length]

/-- What is left begins with fill, or with a packet that exceeds it. -/
theorem isRest_iff : IsRest raw ↔ ∀ n, nextSize? raw = some n → raw.length < n := by
  rw [nextSize?_eq]
  by_cases hfill : raw.length < 6 ∨ raw.wordAt 0 = 0 ∨ raw.wordAt 4 = 0
  · rw [if_pos hfill]
    exact ⟨fun _ n hn => (nomatch hn), fun _ => hfill.imp_right (Or.imp_right Or.inl)⟩
  · rw [if_neg hfill]
    constructor
    · rintro hrest n hn
      obtain rfl : raw.wordAt 4 + 7 = n := Option.some.inj hn
      rw [not_or, not_or] at hfill
      obtain ⟨hlong, hid, hfield⟩ := hfill
      exact ((hrest.resolve_left hlong).resolve_left hid).resolve_left hfield
    · intro hexceeds
      exact .inr (.inr (.inr (hexceeds _ rfl)))

/-! ### Cutting -/

/-- Where a packet starts that exceeds the frame, nothing is cut off. -/
theorem split_of_exceeds {n : Nat} (start : nextSize? frame = some n)
    (exceeds : ¬ n ≤ frame.length) : split frame = ([], frame) := by
  rw [split]
  split
  case h_1 => rfl
  case h_2 m some =>
    obtain rfl : n = m := by rw [start] at some; exact Option.some.inj some
    rw [dif_neg exceeds]

/-- Nothing is cut off from what is left. -/
theorem split_of_isRest (h : IsRest raw) : split raw = ([], raw) := by
  cases hstart : nextSize? raw with
  | none => exact split_of_fill hstart
  | some n => exact split_of_exceeds hstart (Nat.not_le_of_lt (isRest_iff.mp h n hstart))

/-- **Packets are cut off**, whatever follows them. -/
theorem split_packets_append (arePackets : ∀ raw ∈ packets, IsPacket raw) (tail : Bytes) :
    split (packets.flatten ++ tail) = (packets ++ (split tail).1, (split tail).2) := by
  induction packets with
  | nil => rfl
  | cons raw packets ih =>
    obtain ⟨hraw, hpackets⟩ := List.forall_mem_cons.mp arePackets
    have hfits : raw.length ≤ (raw ++ (packets.flatten ++ tail)).length := by
      rw [List.length_append]
      exact Nat.le_add_right _ _
    rw [List.flatten_cons, List.append_assoc,
      split_of_nextSize? (hraw.nextSize?_append _) hfits, List.take_left, List.drop_left,
      ih hpackets]
    rfl

/-- A frame is packets and what is left after them. -/
theorem split_spec (frame : Bytes) :
    (∀ raw ∈ (split frame).1, IsPacket raw) ∧ (split frame).1.flatten ++ (split frame).2 = frame ∧
      IsRest (split frame).2 := by
  induction frame using split.induct with
  | case1 frame fill =>
    rw [split_of_fill fill]
    refine ⟨List.forall_mem_nil _, rfl, isRest_iff.mpr fun n start => ?_⟩
    exact nomatch fill.symm.trans start
  | case2 frame n start fits packets rest hrest ih =>
    obtain ⟨hpackets, hflatten, hends⟩ := ih
    rw [split_of_nextSize? start fits]
    refine ⟨?_, ?_, hends⟩
    · exact List.forall_mem_cons.mpr ⟨isPacket_take start fits, hpackets⟩
    · show frame.take n ++ (split (frame.drop n)).1.flatten ++ (split (frame.drop n)).2 = frame
      rw [List.append_assoc, hflatten, List.take_append_drop]
  | case3 frame n start exceeds =>
    rw [split_of_exceeds start exceeds]
    refine ⟨List.forall_mem_nil _, rfl, isRest_iff.mpr fun m start' => ?_⟩
    obtain rfl : n = m := Option.some.inj (start.symm.trans start')
    exact Nat.lt_of_not_le exceeds

/-- **The front of a frame has the first packets of it.** -/
theorem split_take (frame : Bytes) (n : Nat) :
    (split (frame.take n)).1 <+: (split frame).1 := by
  obtain ⟨hpackets, hflatten, -⟩ := split_spec (frame.take n)
  have hframe : (split (frame.take n)).1.flatten ++
      ((split (frame.take n)).2 ++ frame.drop n) = frame := by
    rw [← List.append_assoc, hflatten, List.take_append_drop]
  have hsplit := split_packets_append hpackets ((split (frame.take n)).2 ++ frame.drop n)
  rw [hframe] at hsplit
  rw [hsplit]
  exact List.prefix_append _ _

/-! ### Every octet is there -/

/-- Parsing a frame from an index on, in which an octet that the frame does not hold has no value:
as soon as one is looked up, there is no result. -/
def parseFromChecked? (frame : Bytes) (index : Nat) : Option Batch :=
  if _h : index + Header.size ≤ frame.length then do
    let remainder ← frame.slice? index frame.length
    let id := (remainder.word16At? 0).getD 0
    let field := Bytes.word16 (← remainder[4]?) (← remainder[5]?)
    if id = 0 ∨ field = 0 then return []
    let size := field.toNat + Header.size + 1
    if remainder.length < size then return []
    let packet ← decodeLenientChecked? (← remainder.slice? 0 size)
    let others ← parseFromChecked? frame (index + size)
    return packet :: others
  else some []
termination_by frame.length - index
decreasing_by
  show frame.length - (index + (field.toNat + Header.size + 1)) < frame.length - index
  have hsize : Header.size = 6 := rfl
  omega

/-- Parsing a whole frame with each octet looked up. -/
def parseChecked? (frame : Bytes) : Option Batch :=
  parseFromChecked? frame 0

/-- One step over the frame: what stands at the index is left, or it is a packet that is read. -/
theorem parseFromChecked?_step {remainder : Bytes} {index : Nat}
    (held : index + Header.size ≤ frame.length) (behind : frame.drop index = remainder) :
    parseFromChecked? frame index =
      if remainder.wordAt 0 = 0 ∨ remainder.wordAt 4 = 0 then some []
      else if remainder.length < remainder.wordAt 4 + 7 then some []
      else (parseFromChecked? frame (index + (remainder.wordAt 4 + 7))).map
        (decodeLenient (remainder.take (remainder.wordAt 4 + 7)) :: ·) := by
  have hlong : 6 ≤ remainder.length := by
    have hsize : Header.size = 6 := rfl
    rw [← behind, List.length_drop]
    omega
  have hremainder : frame.slice? index frame.length = some remainder := by
    rw [Bytes.slice?_eq (by omega) (Nat.le_refl _), List.take_length, behind]
  have hid : (remainder.word16At? 0).getD 0 =
      Bytes.word16 (remainder.getD 0 0) (remainder.getD 1 0) := by
    rw [Bytes.word16At?_zero (by omega), Option.getD_some]
  -- Both octets of the length field are there, because a header is.
  have hhi : remainder[4]? = some (remainder.getD 4 0) := Bytes.getElem?_eq_some_getD (by omega)
  have hlo : remainder[5]? = some (remainder.getD 5 0) := Bytes.getElem?_eq_some_getD (by omega)
  have hfield : (Bytes.word16 (remainder.getD 4 0) (remainder.getD 5 0)).toNat + Header.size + 1 =
      remainder.wordAt 4 + 7 := by
    rw [Bytes.toNat_word16_getD]
    rfl
  rw [parseFromChecked?, dif_pos held]
  simp only [hremainder, hid, hhi, hlo, bind, Option.bind_some, pure, Bytes.word16_getD_eq_zero,
    hfield]
  -- The two reasons to stop, in the order in which they are checked.
  by_cases hfill : remainder.wordAt 0 = 0 ∨ remainder.wordAt 4 = 0
  case pos => rw [if_pos hfill, if_pos hfill]
  by_cases hexceeds : remainder.length < remainder.wordAt 4 + 7
  case pos => rw [if_neg hfill, if_neg hfill, if_pos hexceeds, if_pos hexceeds]
  have hpacket : remainder.slice? 0 (remainder.wordAt 4 + 7) =
      some (remainder.take (remainder.wordAt 4 + 7)) := by
    rw [Bytes.slice?_eq (Nat.zero_le _) (Nat.le_of_not_lt hexceeds), List.drop_zero]
  rw [if_neg hfill, if_neg hfill, if_neg hexceeds, if_neg hexceeds, hpacket]
  simp only [Option.bind_some, decodeLenientChecked?_eq]
  cases parseFromChecked? frame (index + (remainder.wordAt 4 + 7)) <;> rfl

theorem parse_of_isRest (h : IsRest raw) : parse raw = [] := by
  rw [parse, split_of_isRest h]
  rfl

/-- **Packets in front are decoded**, and the rest of a frame is read as if it stood alone. -/
theorem parse_packets_append (arePackets : ∀ raw ∈ packets, IsPacket raw) (tail : Bytes) :
    parse (packets.flatten ++ tail) = packets.map decodeLenient ++ parse tail := by
  rw [parse, split_packets_append arePackets, decodeAll, List.map_append]
  rfl

/-- From every index on, the rest of the frame is parsed. -/
theorem parseFromChecked?_eq (frame : Bytes) (index : Nat) :
    parseFromChecked? frame index = some (parse (frame.drop index)) := by
  -- The induction is on the number of octets behind the index.
  induction hleft : frame.length - index using Nat.strongRecOn generalizing index with
  | ind left ih =>
    by_cases hheld : index + Header.size ≤ frame.length
    case neg =>
      have hshort : (frame.drop index).length < 6 := by
        have hsize : Header.size = 6 := rfl
        rw [List.length_drop]
        omega
      rw [parseFromChecked?, dif_neg hheld, parse_of_isRest (.inl hshort)]
    obtain ⟨remainder, hremainder⟩ : ∃ remainder : Bytes, frame.drop index = remainder := ⟨_, rfl⟩
    rw [parseFromChecked?_step hheld hremainder, hremainder]
    by_cases hfill : remainder.wordAt 0 = 0 ∨ remainder.wordAt 4 = 0
    case pos =>
      rw [if_pos hfill, parse_of_isRest (.inr (hfill.imp_right .inl))]
    by_cases hexceeds : remainder.length < remainder.wordAt 4 + 7
    case pos =>
      rw [if_neg hfill, if_pos hexceeds, parse_of_isRest (.inr (.inr (.inr hexceeds)))]
    have hsize : Header.size = 6 := rfl
    have hlong : ¬ remainder.length < 6 := by
      rw [← hremainder, List.length_drop]
      omega
    have hstart : nextSize? remainder = some (remainder.wordAt 4 + 7) := by
      rw [nextSize?_eq, if_neg (not_or.mpr ⟨hlong, hfill⟩)]
    have hpacket : ∀ raw ∈ [remainder.take (remainder.wordAt 4 + 7)], IsPacket raw :=
      List.forall_mem_singleton.mpr (isPacket_take hstart (Nat.le_of_not_lt hexceeds))
    have hparse := parse_packets_append hpacket (remainder.drop (remainder.wordAt 4 + 7))
    rw [List.flatten_singleton, List.take_append_drop] at hparse
    have hbehind : frame.drop (index + (remainder.wordAt 4 + 7)) =
        remainder.drop (remainder.wordAt 4 + 7) := by
      rw [← hremainder, List.drop_drop]
    rw [if_neg hfill, if_neg hexceeds, ih _ (by omega) _ rfl, hbehind, hparse]
    rfl

/-- **Parsing looks up no octet that the frame does not hold**, and it ends. -/
theorem parseChecked?_eq (frame : Bytes) : parseChecked? frame = some (parse frame) :=
  parseFromChecked?_eq frame 0

/-! ### What is parsed -/

/-- The octets that the packets of a frame keep are those that they were cut from. -/
theorem map_raw_parse (frame : Bytes) : (parse frame).map (·.raw) = (split frame).1 := by
  rw [parse, decodeAll, List.map_map]
  have hkept : ∀ raw ∈ (split frame).1, ((·.raw) ∘ decodeLenient) raw = raw :=
    fun raw hraw => raw_decodeLenient ((split_spec frame).1 raw hraw).length
  rw [List.map_congr_left hkept, List.map_id']

/-- **Parsing consumes a prefix of the frame.**  For every frame no octet is looked up that it does
not hold, and the octets of the packets are the frame up to a rest that begins with none; each
packet is as long as its own length field says, and is its octets as they are read alone.  Packets
that follow one another are all read, before whatever stands behind them, and the first octets of a
frame give the first packets of it. -/
theorem parse_consumes_prefix :
    (∀ frame : Bytes, parseChecked? frame = some (parse frame) ∧
      (∃ rest : Bytes, ((parse frame).map (·.raw)).flatten ++ rest = frame ∧
        (rest.length < 6 ∨ rest.wordAt 0 = 0 ∨ rest.wordAt 4 = 0 ∨
          rest.length < rest.wordAt 4 + 7)) ∧
      ∀ p ∈ parse frame, 8 ≤ p.raw.length ∧
        p.raw.length = 256 * (p.raw.getD 4 0).toNat + (p.raw.getD 5 0).toNat + 7 ∧
        p = decodeLenient p.raw) ∧
      (∀ (packets : List Bytes) (tail : Bytes), (∀ raw ∈ packets, IsPacket raw) →
        parse (packets.flatten ++ tail) = packets.map decodeLenient ++ parse tail) ∧
      ∀ (frame : Bytes) (n : Nat), parse (frame.take n) <+: parse frame := by
  refine ⟨fun frame => ⟨parseChecked?_eq frame, ?_, ?_⟩, fun packets tail arePackets => ?_,
    fun frame n => ?_⟩
  · obtain ⟨-, hflatten, hrest⟩ := split_spec frame
    refine ⟨(split frame).2, ?_, hrest⟩
    rw [map_raw_parse, hflatten]
  · intro p hp
    obtain ⟨raw, hraw, rfl⟩ := List.mem_map.mp hp
    have hpacket := (split_spec frame).1 raw hraw
    rw [raw_decodeLenient hpacket.length]
    exact ⟨hpacket.length_ge, hpacket.length, rfl⟩
  · exact parse_packets_append arePackets tail
  · exact (split_take frame n).map decodeLenient

/-- Two packets of the least size are read, and the front of a third one is not. -/
theorem parse_consumes_prefix_cut :
    let raw : Bytes := [0x18, 0x73, 0xC0, 0x00, 0x00, 0x01, 0x17, 0x20]
    IsPacket raw ∧
      parse ([raw, raw].flatten ++ raw.take 7) = [decodeLenient raw, decodeLenient raw] := by
  intro raw
  have hraw : IsPacket raw := ⟨by decide, by decide, by decide⟩
  have hcut : parse (raw.take 7) = [] := parse_of_isRest (.inr (.inr (.inr (by decide))))
  have hpackets : ∀ each ∈ [raw, raw], IsPacket each := by
    intro each heach
    simp only [List.mem_cons, List.not_mem_nil, or_false, or_self] at heach
    exact heach ▸ hraw
  obtain ⟨-, hread, -⟩ := parse_consumes_prefix
  refine ⟨hraw, ?_⟩
  rw [hread [raw, raw] (raw.take 7) hpackets, hcut]
  rfl

end Frame

end GroundLink
