import GroundLink.Files.Tree
import GroundLink.Link.Error
import GroundLink.Listener.Mode
import GroundLink.Telecommand
import GroundLink.Time.Calendar
import GroundLink.Time.Span

/-!
# Effects

What the listener, the senders and the client do to the world that they share: a clock, a link, the
request and the reply channel between them, the telemetry queue, the file system and the log.  Each
effect happens at once, and nothing else happens meanwhile.
-/

namespace GroundLink

/-- What a look at the request channel yields. -/
inductive Incoming where
  | request (r : Listener.Request)
  | nothing
  /-- There is nobody left to make requests. -/
  | disconnected
  deriving DecidableEq, Repr

/-- A single act on the world. -/
inductive Effect where
  /-- Read the monotonic clock. -/
  | now
  /-- Read the calendar. -/
  | today
  | sleep (time : Span)
  | log (entries : List Log.Entry)
  /-- Send a telecommand over the link. -/
  | send (tc : Telecommand.Packed)
  | poll
  /-- Look whether the link has anything to receive. -/
  | available
  /-- Send a last telecommand and close the link before anybody else can use it. -/
  | conclude (tc : Telecommand.Packed)
  /-- Make a request to the listener. -/
  | request (r : Listener.Request)
  /-- Take the next request, if there is one. -/
  | nextRequest
  /-- Take the next request, or wait for it for some time. -/
  | awaitRequest (limit : Span)
  /-- Announce the mode of the listener. -/
  | announceMode (mode : Listener.Mode)
  /-- Report that replies were received. -/
  | reportReply
  /-- Take a report of replies, if there is one. -/
  | takeReply
  | clearReplies
  /-- Append a batch to the telemetry queue. -/
  | store (batch : Packet.Batch)
  /-- Take everything out of the telemetry queue. -/
  | takeTelemetry
  | writeFile (path : Path) (text : String)
  /-- Look whether the client was told to stop. -/
  | isRunning
  | stop
  /-- Claim the right to close the client, which is granted once. -/
  | claimExit

/-- What an effect answers. -/
abbrev Effect.Answer : Effect → Type
  | .now => Span
  | .today => Calendar.Instant
  | .sleep _ => Unit
  | .log _ => Unit
  | .send _ => Except Link.Error Unit
  | .poll => Except Link.Error Link.Polled
  | .available => Except Link.Error Bool
  | .conclude _ => Except Link.Error Unit × Except Link.Error Unit
  | .request _ => Bool
  | .nextRequest => Incoming
  | .awaitRequest _ => Incoming
  | .announceMode _ => Unit
  | .reportReply => Bool
  | .takeReply => Bool
  | .clearReplies => Unit
  | .store _ => Unit
  | .takeTelemetry => List Packet.Batch
  | .writeFile _ _ => Except FileTree.Error Unit
  | .isRunning => Bool
  | .stop => Unit
  | .claimExit => Bool

end GroundLink
