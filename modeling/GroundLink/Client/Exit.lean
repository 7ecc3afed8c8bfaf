import GroundLink.Activity.Basic

/-!
# Leaving the client

The client can be closed from several places, a signal handler among them, but is closed only once:
the spacecraft gets a farewell, the link is closed, and the listener is told to shut down.  Failures
on the way do not keep the later steps from happening.
-/

namespace GroundLink.Client

def stop : Routine Unit Unit := Routine.perform .stop

def noteFailure (what : String) : Except Link.Error Unit → Routine Unit Unit
  | .ok () => return
  | .error cause => Routine.note (Log.warn (what ++ " failed: " ++ cause.message))

/-- Closes the client, unless that was done before. -/
def exit (apid : UInt16) : Routine Unit Unit := do
  stop
  let granted ← (Routine.perform .claimExit : Routine Unit Bool)
  if granted then
    Routine.note (Log.info "Closing TMTC client")
    let (sent, closed) ← (Routine.perform (.conclude (Telecommand.farewell apid).pack) :
      Routine Unit (Except Link.Error Unit × Except Link.Error Unit))
    noteFailure "sending the shutdown telecommand" sent
    noteFailure "closing the communication interface" closed
    if !(← Routine.request .shutDown) then
      Routine.note (Log.debug "TM listener already stopped")

end GroundLink.Client
