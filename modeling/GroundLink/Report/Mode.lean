import GroundLink.Bytes
import GroundLink.Text.Numeral

/-!
# Mode and parameter replies

The replies of the services that command the mode of an object and its parameters.
-/

namespace GroundLink

/-! ### Modes -/

/-- What an object says about its mode. -/
inductive ModeReply.Content where
  | reached (mode : UInt32) (submode : UInt8)
  | wrong (mode : UInt32) (submode : UInt8)
  | unreachable (cause : UInt16)
  | other
  deriving DecidableEq, Repr

/-- A reply about the mode of an object. -/
structure ModeReply where
  object : UInt32
  content : ModeReply.Content
  deriving DecidableEq, Repr

namespace ModeReply

/-- A mode and a submode behind the object. -/
def readMode? (data : Bytes) : Option (UInt32 × UInt8) := do
  let mode ← data.word32At? 4
  let submode ← data.byteAt? 8
  return (mode, submode)

/-- What the data of a subservice say. -/
def Content.ofData? (subservice : UInt8) (data : Bytes) : Option Content :=
  match subservice with
  | 6 => (readMode? data).map fun (mode, submode) => .reached mode submode
  | 7 => (data.word16At? 4).map .unreachable
  | 8 => (readMode? data).map fun (mode, submode) => .wrong mode submode
  | _ => some .other

def ofData? (subservice : UInt8) (data : Bytes) : Option ModeReply := do
  let object ← data.word32At? 0
  let content ← Content.ofData? subservice data
  return ⟨object, content⟩

/-- A reply in words. -/
def describe (r : ModeReply) : String :=
  match r.content with
  | .reached _ _ => "Mode Reply: Mode reached"
  | .wrong _ _ => "Mode Reply: Wrong Mode"
  | .unreachable _ => "Mode Reply: Can't reach mode"
  | .other => "Mode Reply"

def columnTitles (r : ModeReply) : List String :=
  match r.content with
  | .reached _ _ => ["Object ID", "Mode", "Submode"]
  | .wrong _ _ => ["Object ID", "Mode", "Submode"]
  | .unreachable _ => ["Object ID", "Return Value"]
  | .other => ["Object ID"]

def columns (r : ModeReply) : List String :=
  Text.hex 8 r.object.toNat ::
    (match r.content with
     | .reached mode submode => [toString mode, toString submode]
     | .wrong mode submode => [toString mode, toString submode]
     | .unreachable cause => [Text.hex 4 cause.toNat]
     | .other => [])

end ModeReply

/-! ### Parameters -/

/-- A reply about a parameter. -/
structure ParameterReply where
  parameter : UInt32
  payload : Bytes
  deriving DecidableEq, Repr

namespace ParameterReply

def ofData? (data : Bytes) : Option ParameterReply :=
  (data.word32At? 0).map fun parameter => ⟨parameter, data.drop 4⟩

def columnTitles : List String := ["Parameter ID"]

def columns (r : ParameterReply) : List String :=
  [Text.hex 8 r.parameter.toNat]

end ParameterReply

end GroundLink
