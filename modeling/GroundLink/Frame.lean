import GroundLink.Packet.Basic
import GroundLink.Telecommand

/-!
# Frames

Serial links transfer frames of a fixed size.  Packets stand back to back in a frame, and the unused
end of it is filled with zeros.

* `Frame.pack` puts as many telecommands into a frame as fit.
* `Frame.split` cuts a received frame into packets, `Frame.parse` decodes them too.
-/

namespace GroundLink

/-- A frame of telecommands. -/
structure Frame where
  raw : Bytes
  /-- The number of telecommands in the frame. -/
  count : Nat
  deriving DecidableEq, Repr, Inhabited

namespace Frame

open Packet

/-- Octets of a frame of a serial link. -/
def serialSize : Nat := 256

/-! ### Packing -/

/-- Appends telecommands to a frame until one does not fit. -/
def append (limit : Nat) (frame : Frame) : List Telecommand → Frame
  | [] => frame
  | t :: rest =>
    if limit < frame.raw.length + t.size then frame
    else append limit ⟨frame.raw ++ t.toBytes, frame.count + 1⟩ rest

/-- Puts as many telecommands into a frame of a given size as fit, in order.  With `fill`, the rest
of the frame is zero. -/
def pack (commands : List Telecommand) (limit : Nat) (fill : Bool) : Frame :=
  let frame := append limit ⟨[], 0⟩ commands
  if fill then { frame with raw := frame.raw ++ List.replicate (limit - frame.raw.length) 0 }
  else frame

/-- The log of packing: one remark if a telecommand was left out. -/
def packLog (commands : List Telecommand) (limit : Nat) : List Log.Entry :=
  if (append limit ⟨[], 0⟩ commands).count < commands.length then
    [Log.warn "next telecommand would be too large for TC frame, skipping"]
  else []

/-! ### Splitting -/

/-- The start of a packet in a frame: its declared size, unless the frame ends or only fill
follows.  Fill is recognised by a zero first word or a zero length field. -/
def nextSize? (frame : Bytes) : Option Nat :=
  match frame with
  | i1 :: i0 :: _ :: _ :: l1 :: l0 :: _ =>
    if Bytes.word16 i1 i0 = 0 ∨ Bytes.word16 l1 l0 = 0 then none
    else some ((Bytes.word16 l1 l0).toNat + Header.size + 1)
  | _ => none

/-- A packet that starts in a frame is not empty. -/
theorem nextSize?_pos {frame : Bytes} {n : Nat} (h : nextSize? frame = some n) : 0 < n := by
  unfold nextSize? at h
  split at h
  · split at h
    · cases h
    · simp only [Option.some.injEq] at h
      omega
  · cases h

/-- Without its first packet a frame is shorter. -/
theorem length_drop_lt {frame : Bytes} {n : Nat} (h : nextSize? frame = some n)
    (fits : n ≤ frame.length) : (frame.drop n).length < frame.length := by
  have := nextSize?_pos h
  rw [List.length_drop]
  omega

/-- Cuts a frame into packets.  Cutting stops at the fill and at a packet that exceeds the frame;
the rest of the frame is returned too. -/
def split (frame : Bytes) : List Bytes × Bytes :=
  match _h : nextSize? frame with
  | none => ([], frame)
  | some n =>
    if _h : n ≤ frame.length then
      let (packets, rest) := split (frame.drop n)
      (frame.take n :: packets, rest)
    else ([], frame)
termination_by frame.length
decreasing_by exact length_drop_lt ‹_› ‹_›

def parse (frame : Bytes) : Batch :=
  decodeAll (split frame).1

/-- What is remarked on the rest of a frame: a packet that starts there exceeds it. -/
def restLog (rest : Bytes) : List Log.Entry :=
  match nextSize? rest with
  | some n =>
    [Log.error (s!"PUS polling: packet of size {n} exceeds remaining frame size {rest.length}, " ++
      "packet splitting is not supported")]
  | none => []

def parseLog (frame : Bytes) : List Log.Entry :=
  let (packets, rest) := split frame
  decodeAllLog packets ++ restLog rest

end Frame

end GroundLink
