import GroundLink.Frame
import GroundLink.Proofs.Packet.RoundTrip

/-!
# Frames are read back

A frame takes as many telecommands as fit, from the first one on, and a receiver cuts it into
exactly their packets (`Frame.pack_roundTrip`).

Packets need no separator.  The first word of a telecommand has its type bit set and its length
field is at least five, so no packet looks like fill (`Telecommand.nextSize?_toBytes_append`), and
zeros look like fill however few they are (`Frame.nextSize?_zeros`).  What the application data hold
makes no difference, because only the start of each packet is looked at.
-/

namespace GroundLink

open Packet

namespace Telecommand

/-! ### Packets back to back -/

/-- The packets of some telecommands, one behind the other. -/
def concat (commands : List Telecommand) : Bytes :=
  commands.flatMap toBytes

def totalSize (commands : List Telecommand) : Nat :=
  (commands.map size).sum

@[simp]
theorem concat_cons (t : Telecommand) (rest : List Telecommand) :
    concat (t :: rest) = t.toBytes ++ concat rest :=
  List.flatMap_cons

@[simp]
theorem totalSize_cons (t : Telecommand) (rest : List Telecommand) :
    totalSize (t :: rest) = t.size + totalSize rest := by
  simp [totalSize]

theorem length_concat (commands : List Telecommand) :
    (concat commands).length = totalSize commands := by
  induction commands with
  | nil => rfl
  | cons t rest ih =>
    rw [concat_cons, totalSize_cons, List.length_append, t.length_toBytes, ih]

variable (t : Telecommand)

/-- A receiver reads a valid packet in the octets of a telecommand, also when it is lenient. -/
theorem decodeLenient_toBytes :
    .ok (decodeLenient t.toBytes) = decode t.toBytes ∧ (decodeLenient t.toBytes).valid = true := by
  have hdecode := t.decode_toBytes_append []
  rw [List.append_nil] at hdecode
  unfold decodeLenient
  rw [hdecode]
  exact ⟨rfl, rfl⟩

/-- **No telecommand looks like fill**: its size can be read at its start, whatever follows. -/
theorem nextSize?_toBytes_append (rest : Bytes) :
    Frame.nextSize? (t.toBytes ++ rest) = some t.size := by
  have hstart : Frame.nextSize? (t.toBytes ++ rest) =
      if Bytes.word16 (UInt8.ofNat (t.header.packetId.toNat / 256))
            (UInt8.ofNat t.header.packetId.toNat) = 0 ∨
          Bytes.word16 (UInt8.ofNat (t.header.length.toNat / 256))
            (UInt8.ofNat t.header.length.toNat) = 0 then none
      else some ((Bytes.word16 (UInt8.ofNat (t.header.length.toNat / 256))
        (UInt8.ofNat t.header.length.toNat)).toNat + Header.size + 1) := rfl
  rw [hstart, Bytes.word16_octets, Bytes.word16_octets]
  have hid : t.header.packetId ≠ 0 := by
    intro hzero
    have hword := t.header.toNat_packetId
    have hkind : t.header.kind.code = 1 := rfl
    rw [hzero, hkind, UInt16.toNat_zero] at hword
    omega
  have hfield : t.header.length ≠ 0 := by
    intro hzero
    have hlength := t.header_length
    have hsecondary : t.secondary.length = 4 := rfl
    rw [hzero, hsecondary, UInt16.toNat_zero] at hlength
    omega
  have hsize : t.size = t.header.length.toNat + Header.size + 1 := t.size_eq
  rw [if_neg (not_or.mpr ⟨hid, hfield⟩), hsize]

end Telecommand

namespace Frame

open Telecommand (concat totalSize)

variable {limit : Nat} {frame : Frame}

/-! ### Cutting -/

/-- Where a packet of `n` octets starts, it is cut off. -/
theorem split_of_nextSize? {raw : Bytes} {n : Nat} (start : nextSize? raw = some n)
    (fits : n ≤ raw.length) :
    split raw = (raw.take n :: (split (raw.drop n)).1, (split (raw.drop n)).2) := by
  rw [split]
  split
  case h_1 none => rw [start] at none; cases none
  case h_2 m some =>
    obtain rfl : n = m := by rw [start] at some; exact Option.some.inj some
    rw [dif_pos fits]

/-- Where no packet starts, nothing is cut off. -/
theorem split_of_fill {raw : Bytes} (fill : nextSize? raw = none) : split raw = ([], raw) := by
  rw [split]
  split
  case h_1 => rfl
  case h_2 m some => rw [fill] at some; cases some

/-- **Zeros are fill**, also if there are fewer of them than a header has octets. -/
theorem nextSize?_zeros (n : Nat) : nextSize? (List.replicate n 0) = none := by
  match n with
  | 0 | 1 | 2 | 3 | 4 | 5 => rfl
  | n + 6 =>
    have hword : Bytes.word16 0 0 = 0 := by decide
    simp only [nextSize?, List.replicate_succ, hword, true_or, if_true]

/-- **Telecommands back to back are cut apart**, and zeros behind them are left. -/
theorem split_concat (commands : List Telecommand) (zeros : Nat) :
    split (concat commands ++ List.replicate zeros 0) =
      (commands.map (·.toBytes), List.replicate zeros 0) := by
  induction commands with
  | nil => exact split_of_fill (nextSize?_zeros zeros)
  | cons t rest ih =>
    have hlength := t.length_toBytes
    have hfits : t.size ≤ (t.toBytes ++ (concat rest ++ List.replicate zeros 0)).length := by
      rw [List.length_append, hlength]
      omega
    rw [Telecommand.concat_cons, List.append_assoc,
      split_of_nextSize? (t.nextSize?_toBytes_append _) hfits, ← hlength, List.take_left,
      List.drop_left, ih]
    rfl

/-- **The packets of telecommands are read back** from a frame: each of them as if it stood alone,
and nothing else. -/
theorem parse_concat (commands : List Telecommand) (zeros : Nat) :
    (parse (concat commands ++ List.replicate zeros 0)).map .ok =
        commands.map (fun t => decode t.toBytes) ∧
      ∀ p ∈ parse (concat commands ++ List.replicate zeros 0), p.valid = true := by
  unfold parse decodeAll
  rw [split_concat]
  constructor
  · rw [List.map_map, List.map_map]
    exact List.map_congr_left fun t _ => t.decodeLenient_toBytes.1
  · intro p hp
    obtain ⟨raw, hraw, rfl⟩ := List.mem_map.mp hp
    obtain ⟨t, -, rfl⟩ := List.mem_map.mp hraw
    exact t.decodeLenient_toBytes.2

/-! ### Packing -/

/-- **Telecommands are appended as long as they fit**: `k` is the greatest number of them that do.
-/
theorem append_eq (frame : Frame) (commands : List Telecommand) (holds : frame.raw.length ≤ limit) :
    ∃ k ≤ commands.length,
      append limit frame commands =
        ⟨frame.raw ++ concat (commands.take k), frame.count + k⟩ ∧
      frame.raw.length + totalSize (commands.take k) ≤ limit ∧
      ∀ j ≤ commands.length, frame.raw.length + totalSize (commands.take j) ≤ limit → j ≤ k := by
  induction commands generalizing frame with
  | nil =>
    refine ⟨0, Nat.le_refl 0, ?_, holds, fun j hj _ => hj⟩
    simp [append, concat]
  | cons t rest ih =>
    unfold append
    by_cases hfull : limit < frame.raw.length + t.size
    · rw [if_pos hfull]
      refine ⟨0, Nat.zero_le _, by simp [concat], by simpa [totalSize] using holds, ?_⟩
      -- Every longer prefix holds the telecommand that does not fit.
      intro j hj hfits
      cases j with
      | zero => exact Nat.le_refl 0
      | succ j =>
        rw [List.take_succ_cons, Telecommand.totalSize_cons] at hfits
        omega
    · rw [if_neg hfull]
      have hlength : (frame.raw ++ t.toBytes).length = frame.raw.length + t.size := by
        rw [List.length_append, t.length_toBytes]
      have hholds : (frame.raw ++ t.toBytes).length ≤ limit := by omega
      obtain ⟨k, hk, happend, hfits, hgreatest⟩ :=
        ih ⟨frame.raw ++ t.toBytes, frame.count + 1⟩ hholds
      refine ⟨k + 1, Nat.succ_le_succ hk, ?_, ?_, ?_⟩
      · rw [happend, List.take_succ_cons, Telecommand.concat_cons, List.append_assoc,
          Nat.add_assoc, Nat.add_comm 1 k]
      · rw [hlength] at hfits
        rw [List.take_succ_cons, Telecommand.totalSize_cons]
        omega
      · intro j hj hj'
        cases j with
        | zero => exact Nat.zero_le _
        | succ j =>
          rw [List.take_succ_cons, Telecommand.totalSize_cons] at hj'
          rw [List.length_cons] at hj
          have := hgreatest j (by omega) (by rw [hlength]; omega)
          omega

/-- The telecommands of a frame are the longest prefix of the list that fits. -/
theorem append_start (commands : List Telecommand) (limit : Nat) :
    let frame := append limit ⟨[], 0⟩ commands
    frame.count ≤ commands.length ∧ frame.raw = concat (commands.take frame.count) ∧
      totalSize (commands.take frame.count) ≤ limit ∧
      ∀ k ≤ commands.length, totalSize (commands.take k) ≤ limit → k ≤ frame.count := by
  obtain ⟨k, hk, happend, hfits, hgreatest⟩ :=
    append_eq ⟨[], 0⟩ commands (Nat.zero_le limit)
  rw [happend]
  simp only [List.nil_append, Nat.zero_add, List.length_nil] at hfits hgreatest ⊢
  exact ⟨hk, trivial, hfits, hgreatest⟩

/-- A packed frame holds the packets of its telecommands, and zeros up to its size if they are asked
for. -/
theorem pack_eq (commands : List Telecommand) (limit : Nat) (fill : Bool) :
    pack commands limit fill =
      ⟨(append limit ⟨[], 0⟩ commands).raw ++ List.replicate
          (if fill then limit - (append limit ⟨[], 0⟩ commands).raw.length else 0) 0,
        (append limit ⟨[], 0⟩ commands).count⟩ := by
  cases fill with
  | true => rfl
  | false =>
    have hnone : List.replicate (if false then limit - (append limit ⟨[], 0⟩ commands).raw.length
        else 0) (0 : UInt8) = [] := rfl
    rw [hnone, List.append_nil]
    rfl

/-! ### Packing never fails -/

/-- Appends telecommands to a frame, each of them written into a new buffer of its size. -/
def appendWritten (limit : Nat) (frame : Frame) : List Telecommand → Except Packet.Error Frame
  | [] => .ok frame
  | t :: rest =>
    if limit < frame.raw.length + t.size then .ok frame
    else do
      let (_, raw) ← t.writeTo (List.replicate t.size 0)
      appendWritten limit ⟨frame.raw ++ raw, frame.count + 1⟩ rest

/-- Packing that fails if a telecommand cannot be written. -/
def packWritten (commands : List Telecommand) (limit : Nat) (fill : Bool) :
    Except Packet.Error Frame := do
  let frame ← appendWritten limit ⟨[], 0⟩ commands
  return if fill && frame.raw.length < limit then
    { frame with raw := frame.raw ++ List.replicate (limit - frame.raw.length) 0 } else frame

/-- Every telecommand can be written. -/
theorem appendWritten_eq (commands : List Telecommand) :
    appendWritten limit frame commands = .ok (append limit frame commands) := by
  induction commands generalizing frame with
  | nil => rfl
  | cons t rest ih =>
    unfold appendWritten append
    by_cases hfull : limit < frame.raw.length + t.size
    · rw [if_pos hfull, if_pos hfull]
    · rw [if_neg hfull, if_neg hfull, t.writeTo_zeros]
      exact ih

theorem packWritten_eq (commands : List Telecommand) (limit : Nat) (fill : Bool) :
    packWritten commands limit fill = .ok (pack commands limit fill) := by
  unfold packWritten pack
  rw [appendWritten_eq]
  cases fill with
  | false => rfl
  | true =>
    by_cases hshort : (append limit ⟨[], 0⟩ commands).raw.length < limit
    · simp [bind, Except.bind, pure, Except.pure, hshort]
    · -- A frame that is full already gets no zeros.
      have hnone : limit - (append limit ⟨[], 0⟩ commands).raw.length = 0 := by omega
      simp [bind, Except.bind, pure, Except.pure, hshort, hnone]

/-! ### The round trip -/

/-- **A packed frame is read back.**  Packing always succeeds.  The telecommands of the frame are
the longest prefix of the list whose packets fit, the frame holds these packets and, with fill,
zeros up to exactly its size, which it never exceeds.  A receiver reads one valid packet for each of
these telecommands, as if it stood alone, and nothing else; so it does with any number of zeros
behind them. -/
theorem pack_roundTrip (commands : List Telecommand) (limit : Nat) (fill : Bool) :
    let frame := pack commands limit fill
    let packed := commands.take frame.count
    packWritten commands limit fill = .ok frame ∧
      (frame.count ≤ commands.length ∧ totalSize packed ≤ limit ∧
        ∀ k ≤ commands.length, totalSize (commands.take k) ≤ limit → k ≤ frame.count) ∧
      frame.raw = packed.flatMap (·.toBytes) ++
          List.replicate (if fill then limit - totalSize packed else 0) 0 ∧
      frame.raw.length ≤ limit ∧ (fill = true → frame.raw.length = limit) ∧
      (parse frame.raw).map .ok = packed.map (fun t => decode t.toBytes) ∧
      (∀ p ∈ parse frame.raw, p.valid = true) ∧
      ∀ zeros, parse (packed.flatMap (·.toBytes) ++ List.replicate zeros 0) = parse frame.raw := by
  intro frame packed
  -- Everything but the fill bytes is known of the loop that appends.
  obtain ⟨hcount, hraw, hfits, hgreatest⟩ := append_start commands limit
  have hpack := pack_eq commands limit fill
  have hpacked : frame.count = (append limit ⟨[], 0⟩ commands).count := by
    show (pack commands limit fill).count = _
    rw [hpack]
  have hframe : frame.raw = concat packed ++
      List.replicate (if fill then limit - totalSize packed else 0) 0 := by
    have hall := congrArg Frame.raw hpack
    rw [hraw, Telecommand.length_concat, ← hpacked] at hall
    exact hall
  rw [← hpacked] at hcount hfits hgreatest
  have hlength : frame.raw.length =
      totalSize packed + if fill then limit - totalSize packed else 0 := by
    rw [hframe, List.length_append, Telecommand.length_concat, List.length_replicate]
  refine ⟨packWritten_eq commands limit fill, ⟨hcount, hfits, hgreatest⟩, hframe, ?_, ?_, ?_, ?_,
    ?_⟩
  · rw [hlength]
    have hle : totalSize packed ≤ limit := hfits
    split <;> omega
  · intro hfill
    have hle : totalSize packed ≤ limit := hfits
    rw [hlength, if_pos hfill]
    omega
  · rw [hframe]
    exact (parse_concat packed _).1
  · rw [hframe]
    exact (parse_concat packed _).2
  · intro zeros
    -- A zero packet identification stops the parser, however many zeros follow.
    have hzeros : ∀ n, parse (concat packed ++ List.replicate n 0) =
        decodeAll (packed.map (·.toBytes)) := by
      intro n
      rw [parse, split_concat]
    rw [hframe, hzeros]
    exact hzeros zeros

end Frame

end GroundLink
