import GroundLink.Frame
import GroundLink.Link.Error

/-!
# Serial link

Telecommands are written to the line as they are.  Telemetry arrives in frames of a fixed size,
which are collected from as many reads as it takes and then cut into packets.  A frame that ends
early, because the line is silent or at its end, is cut into packets as far as it came.

The line is modelled by what its reads yield (`Serial.Item`): each read takes the first item, and a
line without items is silent.
-/

namespace GroundLink.Link

/-- What a read of a serial line meets. -/
inductive Serial.Item where
  | chunk (data : Bytes)
  | timeout
  | interrupted
  | endOfFile
  | broken
  deriving DecidableEq, Repr

/-- A serial line: what is still to be read, and what was written. -/
structure Serial.Line where
  incoming : List Serial.Item
  written : Bytes
  flushes : Nat
  /-- Whether writing fails. -/
  failsWrite : Bool
  /-- Whether asking for the number of readable octets fails. -/
  failsCount : Bool
  deriving DecidableEq, Repr, Inhabited

/-- A serial link.  The frame buffer is used again for every frame. -/
structure Serial where
  line : Serial.Line
  frameSize : Nat
  buffer : Bytes
  isClosed : Bool
  deriving DecidableEq, Repr

namespace Serial

/-- A link with a frame size on a silent line. -/
def make (frameSize : Nat) : Serial :=
  ⟨⟨[], [], 0, false, false⟩, frameSize, List.replicate frameSize 0, false⟩

/-! ### The line -/

def Line.push (l : Line) (item : Item) : Line :=
  match item with
  | .chunk [] => l
  | _ => { l with incoming := l.incoming ++ [item] }

def Line.readable (l : Line) : Nat :=
  (l.incoming.flatMap fun
    | .chunk data => data
    | _ => []).length

/-! ### Frames -/

/-- How the collection of a frame ended. -/
inductive Collected where
  /-- The frame is complete, or the line is at its end. -/
  | ended
  /-- The line was silent. -/
  | silent
  | failed
  deriving DecidableEq, Repr

/-- Collects a frame of a given size into the buffer behind the octets already in it.  Returns how
that ended, the buffer, the number of octets in it and what is left on the line. -/
def collect (frameSize : Nat) (buffer : Bytes) (count : Nat) :
    List Item → Collected × Bytes × Nat × List Item
  | [] => (if count < frameSize then .silent else .ended, buffer, count, [])
  | item :: rest =>
    if count < frameSize then
      match item with
      | .chunk data =>
        let room := frameSize - count
        let taken := data.take room
        let buffer := buffer.overwrite count taken
        if room < data.length then (.ended, buffer, frameSize, .chunk (data.drop room) :: rest)
        else collect frameSize buffer (count + data.length) rest
      | .timeout => (.silent, buffer, count, rest)
      | .interrupted => collect frameSize buffer count rest
      | .endOfFile => (.ended, buffer, count, rest)
      | .broken => (.failed, buffer, count, rest)
    else (.ended, buffer, count, item :: rest)

/-! ### Operations -/

/-- Writes data and flushes the line.  Empty data are not written. -/
def sendData (l : Serial) (data : Bytes) : Outcome Serial Unit :=
  if l.isClosed then .fail l .closed
  else if l.line.failsWrite && !data.isEmpty then .fail l brokenPipe
  else
    .pure { l with line := { l.line with
      written := l.line.written ++ data
      flushes := l.line.flushes + 1 } } ()

def send (l : Serial) (tc : Telecommand.Packed) : Outcome Serial Unit := l.sendData tc.raw

def available (l : Serial) : Outcome Serial Bool :=
  if l.isClosed then .fail l .closed
  else if l.line.failsCount then .fail l brokenPipe
  else .pure l (0 < l.line.readable)

/-- The log of a frame that was cut short. -/
def incompleteLog (how : Collected) (count frameSize : Nat) : List Log.Entry :=
  match how with
  | .silent => [Log.warn s!"serial frame incomplete, read {count} of {frameSize} bytes"]
  | _ => []

/-- Reads one frame, if there is anything to read, and cuts it into packets. -/
def poll (l : Serial) : Outcome Serial Polled :=
  match l.available.result with
  | .error cause => .fail l cause
  | .ok false => .pure l (false, [])
  | .ok true =>
    let (how, buffer, count, incoming) := collect l.frameSize l.buffer 0 l.line.incoming
    let l := { l with buffer, line := { l.line with incoming } }
    if how = .failed then .fail l brokenPipe
    else
      let frame := buffer.take count
      ⟨.ok (true, Frame.parse frame), l,
        incompleteLog how count l.frameSize ++ Frame.parseLog frame⟩

/-- The link cannot be used any more. -/
def close (l : Serial) : Outcome Serial Unit := .pure { l with isClosed := true } ()

end GroundLink.Link.Serial
