/-!
# Byte strings

Packets, frames and datagrams are plain lists of octets, so that every statement about them is a
statement about lists.  This module holds the big-endian words that all layouts share and the
hexadecimal text of a byte string.

Words are written and read through natural number arithmetic: the octets of a word are its digits
to base 256, most significant first.
-/

namespace GroundLink

/-- A byte string. -/
abbrev Bytes := List UInt8

namespace Bytes

/-! ### Big-endian words -/

/-- The two octets of a 16-bit word, most significant first. -/
def ofWord16 (w : UInt16) : Bytes :=
  [UInt8.ofNat (w.toNat / 256), UInt8.ofNat w.toNat]

def ofWord32 (w : UInt32) : Bytes :=
  [UInt8.ofNat (w.toNat / 16777216), UInt8.ofNat (w.toNat / 65536), UInt8.ofNat (w.toNat / 256),
    UInt8.ofNat w.toNat]

def word16 (hi lo : UInt8) : UInt16 :=
  UInt16.ofNat (hi.toNat * 256 + lo.toNat)

def word32 (a b c d : UInt8) : UInt32 :=
  UInt32.ofNat (((a.toNat * 256 + b.toNat) * 256 + c.toNat) * 256 + d.toNat)

/-- The octet at an offset, if the string reaches that far. -/
def byteAt? (bs : Bytes) (i : Nat) : Option UInt8 :=
  bs[i]?

/-- The 16-bit word that starts at an offset, if the string holds all of it. -/
def word16At? (bs : Bytes) (i : Nat) : Option UInt16 :=
  match bs.drop i with
  | a :: b :: _ => some (word16 a b)
  | _ => none

/-- The 32-bit word that starts at an offset, if the string holds all of it. -/
def word32At? (bs : Bytes) (i : Nat) : Option UInt32 :=
  match bs.drop i with
  | a :: b :: c :: d :: _ => some (word32 a b c d)
  | _ => none

/-- The 64-bit word that starts at an offset, if the string holds all of it. -/
def word64At? (bs : Bytes) (i : Nat) : Option UInt64 := do
  let hi ← bs.word32At? i
  let lo ← bs.word32At? (i + 4)
  return UInt64.ofNat (hi.toNat * 4294967296 + lo.toNat)

/-! ### Buffers -/

/-- Writes a string over a buffer from an offset on.  The buffer is meant to reach far enough. -/
def overwrite (buffer : Bytes) (offset : Nat) (content : Bytes) : Bytes :=
  buffer.take offset ++ content ++ buffer.drop (offset + content.length)

/-! ### Hexadecimal text -/

/-- The lower case digit of a number below sixteen. -/
def hexDigit (n : Nat) : Char :=
  if n < 10 then Char.ofNat (48 + n) else Char.ofNat (87 + n)

/-- The value of a hexadecimal digit of either case. -/
def hexValue? (c : Char) : Option Nat :=
  if '0' ≤ c ∧ c ≤ '9' then some (c.toNat - 48)
  else if 'a' ≤ c ∧ c ≤ 'f' then some (c.toNat - 87)
  else if 'A' ≤ c ∧ c ≤ 'F' then some (c.toNat - 55)
  else none

/-- Two lower case digits per octet. -/
def toHex (bs : Bytes) : String :=
  String.ofList (bs.flatMap fun b => [hexDigit (b.toNat / 16), hexDigit (b.toNat % 16)])

/-- The octets of a text of hexadecimal digit pairs.  Any other character and a digit without a
partner are refused. -/
def ofHex? : List Char → Option Bytes
  | [] => some []
  | [_] => none
  | h :: l :: rest => do
    let high ← hexValue? h
    let low ← hexValue? l
    let tail ← ofHex? rest
    return UInt8.ofNat (high * 16 + low) :: tail

end Bytes

end GroundLink
