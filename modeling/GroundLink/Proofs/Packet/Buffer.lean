import GroundLink.Proofs.Packet.RoundTrip

/-!
# Writing into a buffer

A caller hands over a buffer of any length and any contents, and a packet is written over its start.
Here that is done in place and piece by piece (`OnBuffer`): each piece goes to its place in the
buffer, the checksum is taken over what the buffer holds by then, and what was written before a
failure would stay written.

Nothing is written before the length is checked, so a failure leaves the buffer alone, and only the
octets of the packet are touched (`Packet.Header.run_write_of_le`, `Checksum.run_write_append`,
`Telecommand.run_write_of_le`).  The outcome is the same as that of the routines that make a new
buffer (`Telecommand.run_write_eq_writeTo`).

The main statement is `Telecommand.write_touches_packet`.
-/

namespace GroundLink

open Packet

/-! ### Routines on a buffer -/

/-- A routine that works on a buffer in place.  What it wrote before it failed stays written. -/
abbrev OnBuffer := EStateM Packet.Error Bytes

namespace OnBuffer

def require (n : Nat) : OnBuffer Unit := do
  let buffer ← get
  if buffer.length < n then throw (.tooShort n buffer.length)

/-- Writes over the octets from an offset on. -/
def put (offset : Nat) (content : Bytes) : OnBuffer Unit :=
  modify (·.overwrite offset content)

/-- A routine on the first octets of the buffer.  The others are out of its reach. -/
def onFront {α : Type} (n : Nat) (routine : OnBuffer α) : OnBuffer α := fun buffer =>
  match routine.run (buffer.take n) with
  | .ok a front => .ok a (front ++ buffer.drop n)
  | .error cause front => .error cause (front ++ buffer.drop n)

variable {α β : Type} {n : Nat} {buffer after : Bytes} {a : α} {cause : Packet.Error}
  {routine : OnBuffer α} {next : α → OnBuffer β}

theorem run_bind_of_ok (first : routine.run buffer = .ok a after) :
    (routine >>= next).run buffer = (next a).run after := by
  rw [EStateM.run_bind, first]

theorem run_bind_of_error (first : routine.run buffer = .error cause after) :
    (routine >>= next).run buffer = .error cause after := by
  rw [EStateM.run_bind, first]

theorem run_require_of_lt (short : buffer.length < n) :
    (require n).run buffer = .error (.tooShort n buffer.length) buffer := by
  have hrun : (require n).run buffer = ((if buffer.length < n then
      throw (.tooShort n buffer.length) else pure ()) : OnBuffer Unit).run buffer := rfl
  rw [hrun, if_pos short]
  rfl

theorem run_require_of_le (fits : n ≤ buffer.length) : (require n).run buffer = .ok () buffer := by
  have hrun : (require n).run buffer = ((if buffer.length < n then
      throw (.tooShort n buffer.length) else pure ()) : OnBuffer Unit).run buffer := rfl
  rw [hrun, if_neg (Nat.not_lt.mpr fits)]
  rfl

/-- What follows what was written so far is written behind it. -/
theorem run_put_append {done : Bytes} {offset : Nat} (h : done.length = offset)
    (rest content : Bytes) : (put offset content).run (done ++ rest) =
      .ok () (done ++ content ++ rest.drop content.length) := by
  rw [put, EStateM.run_modify, Bytes.overwrite_append h]

theorem run_put_bind {done : Bytes} {offset : Nat} (h : done.length = offset)
    (rest content : Bytes) (next : Unit → OnBuffer β) : (put offset content >>= next).run
      (done ++ rest) = (next ()).run (done ++ content ++ rest.drop content.length) :=
  run_bind_of_ok (run_put_append h rest content)

theorem run_onFront_of_ok (done : routine.run (buffer.take n) = .ok a after) :
    (onFront n routine).run buffer = .ok a (after ++ buffer.drop n) := by
  have hrun : (onFront n routine).run buffer = match routine.run (buffer.take n) with
    | .ok a front => .ok a (front ++ buffer.drop n)
    | .error cause front => .error cause (front ++ buffer.drop n) := rfl
  rw [hrun, done]

end OnBuffer

open OnBuffer

/-! ### The primary header -/

namespace Packet.Header

variable (h : Header) {buffer : Bytes}

/-- Writes the header over the first six octets of the buffer, word by word. -/
def write : OnBuffer Unit := do
  require size
  put 0 (Bytes.ofWord16 h.packetId)
  put 2 (Bytes.ofWord16 h.sequenceControl)
  put 4 (Bytes.ofWord16 h.length)

theorem run_write_of_lt (short : buffer.length < size) :
    h.write.run buffer = .error (.tooShort size buffer.length) buffer :=
  run_bind_of_error (run_require_of_lt short)

/-- **A header is written** over the first octets of a buffer, and the others stay. -/
theorem run_write_of_le (fits : size ≤ buffer.length) :
    h.write.run buffer = .ok () (h.toBytes ++ buffer.drop size) := by
  have hfirst : (put 0 (Bytes.ofWord16 h.packetId)).run buffer =
      .ok () (Bytes.ofWord16 h.packetId ++ buffer.drop 2) :=
    run_put_append List.length_nil buffer (Bytes.ofWord16 h.packetId)
  rw [write, run_bind_of_ok (run_require_of_le fits), run_bind_of_ok hfirst,
    run_put_bind (by rfl), run_put_append (by rfl), List.drop_drop,
    List.drop_drop]
  rfl

/-- The same within the octets of the header. -/
theorem run_onFront_write (fits : size ≤ buffer.length) :
    (onFront size h.write).run buffer = .ok () (h.toBytes ++ buffer.drop size) := by
  have htaken : (buffer.take size).length = size := List.length_take_of_le fits
  rw [run_onFront_of_ok (h.run_write_of_le (Nat.le_of_eq htaken.symm)),
    List.drop_of_length_le (Nat.le_of_eq htaken), List.append_nil]

end Packet.Header

/-! ### The checksum -/

namespace Checksum

variable {buffer : Bytes}

/-- Writes the checksum of the octets in front of the last two over these two. -/
def write : OnBuffer UInt16 := do
  require size
  let buffer ← get
  let crc := checksum (buffer.take (buffer.length - size))
  put (buffer.length - size) (Bytes.ofWord16 crc)
  return crc

theorem run_write_of_lt (short : buffer.length < size) :
    write.run buffer = .error (.tooShort size buffer.length) buffer :=
  run_bind_of_error (run_require_of_lt short)

/-- **The checksum is written** over the last two octets, whatever they are. -/
theorem run_write_append (covered : Bytes) {field : Bytes} (hfield : field.length = size) :
    write.run (covered ++ field) = .ok (checksum covered) (close covered) := by
  have hlength : (covered ++ field).length - size = covered.length := by
    rw [List.length_append, hfield, Nat.add_sub_cancel]
  have hfits : size ≤ (covered ++ field).length := by
    rw [List.length_append, hfield]
    exact Nat.le_add_left _ _
  have hget : (get : OnBuffer Bytes).run (covered ++ field) = .ok _ _ := rfl
  rw [write, run_bind_of_ok (run_require_of_le hfits), run_bind_of_ok hget, hlength,
    List.take_left, run_put_bind (by rfl), Bytes.length_ofWord16, ← size,
    ← hfield, List.drop_length, List.append_nil]
  rfl

/-- The same within the octets of a packet, of which the buffer holds all that is covered. -/
theorem run_onFront_write (covered : Bytes) {rest : Bytes} (fits : size ≤ rest.length) :
    (onFront (covered.length + size) write).run (covered ++ rest) =
      .ok (checksum covered) (close covered ++ rest.drop size) := by
  have hfield : (rest.take size).length = size := List.length_take_of_le fits
  have hdone := run_write_append covered hfield
  rw [← List.take_length_add_append] at hdone
  rw [run_onFront_of_ok hdone, List.drop_length_add_append]

end Checksum

/-! ### Telecommands -/

namespace Telecommand

variable (t : Telecommand) {buffer : Bytes}

/-- Writes the packet over the start of the buffer: the header, the secondary header octet by octet,
the data, and the checksum of what the buffer then holds in front of it.  Returns the number of
octets written. -/
def write : OnBuffer Nat := do
  require t.size
  onFront Header.size t.header.write
  put 6 [UInt8.ofNat (Version.pusA.code * 16 + t.ack.val)]
  put 7 [t.service]
  put 8 [t.subservice]
  put 9 [t.source]
  put 10 t.data
  let _ ← onFront t.size Checksum.write
  return t.size

theorem run_write_of_lt (short : buffer.length < t.size) :
    t.write.run buffer = .error (.tooShort t.size buffer.length) buffer :=
  run_bind_of_error (run_require_of_lt short)

/-- **A telecommand is written** over the first octets of a buffer, and the others stay. -/
theorem run_write_of_le (fits : t.size ≤ buffer.length) :
    t.write.run buffer = .ok t.size (t.toBytes ++ buffer.drop t.size) := by
  have hsize : t.size = t.covered.length + Checksum.size := by rw [length_covered, size]
  have hplace : Header.size + 1 + 1 + 1 + 1 + t.data.length = t.covered.length := by
    rw [length_covered]
    rfl
  -- What the puts build up is all that the checksum covers.
  have hcovered : t.header.toBytes ++ [UInt8.ofNat (Version.pusA.code * 16 + t.ack.val)] ++
      [t.service] ++ [t.subservice] ++ [t.source] ++ t.data = t.covered := by
    simp [covered, secondary]
  have hchecksum : (onFront t.size Checksum.write).run (t.covered ++ buffer.drop t.covered.length) =
      .ok (checksum t.covered) (t.toBytes ++ buffer.drop t.size) := by
    have hfield : Checksum.size ≤ (buffer.drop t.covered.length).length := by
      rw [List.length_drop]
      omega
    rw [hsize, Checksum.run_onFront_write _ hfield, List.drop_drop, toBytes]
  rw [write, run_bind_of_ok (run_require_of_le fits),
    run_bind_of_ok (t.header.run_onFront_write (by omega)), run_put_bind (by rfl),
    run_put_bind (by rfl), run_put_bind (by rfl), run_put_bind (by rfl), run_put_bind (by rfl),
    hcovered]
  simp only [List.drop_drop, List.length_singleton]
  rw [hplace, run_bind_of_ok hchecksum]
  rfl

/-- **Writing in place** comes to the same as making a new buffer, and a failure leaves the buffer
as it was. -/
theorem run_write_eq_writeTo (buffer : Bytes) : t.write.run buffer =
    match t.writeTo buffer with
    | .ok (n, after) => .ok n after
    | .error cause => .error cause buffer := by
  by_cases fits : t.size ≤ buffer.length
  · rw [t.writeTo_eq fits, t.run_write_of_le fits]
  · have hshort : buffer.length < t.size := Nat.lt_of_not_le fits
    rw [writeTo, if_pos hshort, t.run_write_of_lt hshort]

/-! ### The checksum of a telecommand -/

/-- **Field by field or at once**: the fields, fed one after the other, are the octets that the
checksum covers. -/
theorem crc_eq : t.crc = checksum t.covered := by
  simp only [crc, ← Checksum.run_append]
  rfl

theorem take_toBytes : t.toBytes.take (t.toBytes.length - Checksum.size) = t.covered := by
  rw [toBytes, Checksum.length_close, Nat.add_sub_cancel, Checksum.close, List.take_left]

theorem drop_toBytes :
    t.toBytes.drop (t.toBytes.length - Checksum.size) = Bytes.ofWord16 (checksum t.covered) := by
  rw [toBytes, Checksum.length_close, Nat.add_sub_cancel, Checksum.close, List.drop_left]

/-- **Writing a telecommand touches exactly the octets of its packet.**  A buffer that is too short
for it is refused and stays as it was.  Any other buffer starts with the packet afterwards, whatever
it held before, and stays as it was behind it; a buffer of zeros of just the right size becomes the
packet.  The checksum that is computed from the fields is that of the packet without its last two
octets, and these two are the checksum. -/
theorem write_touches_packet (buffer : Bytes) :
    (if buffer.length < t.size then
      t.write.run buffer = .error (.tooShort t.size buffer.length) buffer ∧
        t.writeTo buffer = .error (.tooShort t.size buffer.length)
    else
      ∃ after, t.write.run buffer = .ok t.size after ∧ t.writeTo buffer = .ok (t.size, after) ∧
        after.length = buffer.length ∧ after.take t.size = t.toBytes ∧
        after.drop t.size = buffer.drop t.size) ∧
      t.write.run (List.replicate t.size 0) = .ok t.size t.toBytes ∧
      t.crc = checksum (t.toBytes.take (t.toBytes.length - 2)) ∧
      Bytes.word16At? t.toBytes (t.toBytes.length - 2) = some t.crc := by
  have hlength := t.length_toBytes
  refine ⟨?_, ?_, ?_, ?_⟩
  · -- The room is checked before anything is written.
    by_cases hshort : buffer.length < t.size
    · rw [if_pos hshort]
      exact ⟨t.run_write_of_lt hshort, if_pos hshort⟩
    · have hfits : t.size ≤ buffer.length := Nat.le_of_not_lt hshort
      rw [if_neg hshort]
      refine ⟨_, t.run_write_of_le hfits, t.writeTo_eq hfits, ?_, ?_, ?_⟩
      · rw [List.length_append, List.length_drop, hlength, Nat.add_sub_cancel' hfits]
      · rw [← hlength, List.take_left]
      · rw [← hlength, List.drop_left]
  · rw [t.run_write_eq_writeTo, t.writeTo_zeros]
  · rw [t.crc_eq, ← t.take_toBytes]
    rfl
  · have hdrop : t.toBytes.drop (t.toBytes.length - 2) = _ := t.drop_toBytes
    rw [Bytes.word16At?, hdrop, t.crc_eq, Bytes.ofWord16]
    exact congrArg some (Bytes.word16_octets _)

end Telecommand

end GroundLink
