import GroundLink.Time.Span

/-!
# Settings

What the listener, the senders and the printer have to know, and the fixed intervals of their work.
-/

namespace GroundLink

/-- How much of a packet is printed. -/
inductive Display where
  | short
  | long
  deriving DecidableEq, Repr, Inhabited

/-- The settings shared by the listener, the senders and the printer. -/
structure Settings where
  apid : UInt16 := 0x73
  /-- The collection window for one sequence of telemetry. -/
  tmTimeout : Span := Span.ofSecs 5
  /-- Times the collection window, this is how long a telecommand waits for its reply. -/
  tcTimeoutFactor : Float := 3.5
  /-- Whether a telecommand without a reply is sent again. -/
  resend : Bool := false
  /-- The upper bound of a single mode operation of the listener. -/
  operationTimeout : Span := Span.ofSecs 300
  display : Display := .long
  printTc : Bool := true
  printTm : Bool := true
  printRawTm : Bool := false
  printHk : Bool := false
  printToFile : Bool := true
  deriving Inhabited

namespace Settings

/-- How long a telecommand waits for its reply. -/
def tcTimeout (s : Settings) : Span :=
  s.tmTimeout.scale s.tcTimeoutFactor

/-! ### Fixed intervals -/

/-- Retransmissions after which a sender stops waiting for a reply. -/
def maxResends : Nat := 5

/-- The pause between two timeout checks of a sender. -/
def checkInterval : Span := Span.ofMillis 500

/-- The pause between two polls while a sequence of telemetry is collected. -/
def sequenceInterval : Span := Span.ofSecs 1

/-- The pause between two looks for the first packet of a sequence. -/
def firstDataInterval : Span := Span.ofMillis 100

/-- The pause of the listener when there was nothing to receive. -/
def idleInterval : Span := Span.ofMillis 20

/-- The longest that an inactive listener waits for a request. -/
def inactiveInterval : Span := Span.ofSecs 1

/-- The time granted to the listener to follow a change of mode. -/
def modeChangeDelay : Span := Span.ofMillis 100

/-- The part of the collection window that is waited for after a burst is the window divided by
this. -/
def burstDivisor : Float := 1.4

end Settings

end GroundLink
