import GroundLink.Bench.Scheduler
import GroundLink.Client.Startup

/-!
# The program

The client as a program.  Its activities run as they do on a bench, but the clock is that of the
machine: whoever sleeps next wakes up when the time has really passed.  The log goes to the console
and to the log file, and files are written to the disk.
-/

namespace GroundLink.Program

open Bench

structure Machine where
  /-- The reading of the machine's clock at the start, in nanoseconds. -/
  start : Nat
  log : IO.FS.Handle

namespace Machine

/-- Writes log entries, except for those that only matter for tracing. -/
def report (m : Machine) (entries : List Log.Entry) : IO Unit := do
  for entry in entries do
    if entry.level ≠ .debug then
      IO.println entry.render
      m.log.putStrLn entry.render
  m.log.flush

/-- The world at the present time, with its log written out. -/
def catchUp (m : Machine) (w : World) : IO World := do
  m.report w.log.toList
  let reading ← IO.monoNanosNow
  return { w with now := Span.ofNanos (reading - m.start), log := #[] }

def waitUntil (m : Machine) (time : Span) : IO Unit := do
  let reading ← IO.monoNanosNow
  IO.sleep (UInt32.ofNat ((m.start + time.nanos - reading + 999999) / 1000000))

/-- The present instant.  A new file tells it. -/
def today : IO Calendar.Instant := do
  let (_, path) ← IO.FS.createTempFile
  let time := (← path.metadata).modified
  IO.FS.removeFile path
  return ⟨time.sec, time.nsec.toNat⟩

/-- Writes a file to the disk. -/
def copy (path : Path) (text : String) : IO Unit := do
  match path.parent? with
  | some above => if !above.text.isEmpty then IO.FS.createDirAll above.text
  | none => return
  IO.FS.writeFile path.text text

/-- Runs an activity from a time on, with a listener in the background that is shut down in the
end. -/
partial def run {α : Type} (m : Machine) (w : World) (b : Background) (wake : Span)
    (a : Activity Unit α) : IO (Option α) := do
  match b with
  | .asleep earlier rest =>
    if earlier < wake then
      m.waitUntil earlier
      match listen patience rest (← m.catchUp w) with
      | none => return none
      | some (b, w) => return ← m.run w b wake a
  | .ended => pure ()
  m.waitUntil wake
  let w ← m.catchUp w
  match a.next? rounds with
  | none => return none
  | some (.done result) =>
    let _ ← m.catchUp (shutDown ⟨w, b⟩).world
    return some result
  | some (.act _ (.sleep time) next) => m.run w b (w.now + time) (next ())
  | some (.act _ .today next) => m.run w b w.now (next (← today))
  | some (.act _ (.writeFile path text) next) =>
    let (answer, w) := w.perform (.writeFile path text)
    if answer.isOk then copy path text
    m.run w b w.now (next answer)
  | some (.act _ effect next) =>
    let (answer, w) := w.perform effect
    m.run w b w.now (next answer)

end Machine

/-- Reads the configuration file from the disk. -/
def loadFile (path : Path) : IO (Except Client.ConfigError Client.ConfigFile) := do
  match ← (IO.FS.readBinFile path.text).toBaseIO with
  | .ok content => return Client.ConfigFile.ofContent content
  | .error (.noFileOrDirectory _ _ _) => return .ok {}
  | .error cause => return .error (.unreadable (toString cause))

/-- Opens the log file, creating its directory if required. -/
def openLog (path : Path) : IO IO.FS.Handle := do
  match path.parent? with
  | some above => if !above.text.isEmpty then IO.FS.createDirAll above.text
  | none => pure ()
  IO.FS.Handle.mk path.text .append

/-- Lets the client work over a link, and returns the exit code of the program. -/
def operate (c : Client.Config) (m : Machine) (link : Link) : IO UInt32 := do
  let w ← m.catchUp (World.make link [])
  match withListener w (Listener.make c.operation.settings) with
  | none => return 1
  | some b =>
    match ← m.run b.world b.background b.world.now (c.operation.perform ()) with
    | some (.ok (), _) => return 0
    | some (.error cause, _) =>
      m.report [Log.error ("TMTC client operation failed: " ++ cause.message)]
      return 1
    | none => return 1

/-- Starts the client with its configuration. -/
def start (c : Client.Config) : IO UInt32 := do
  let m : Machine := ⟨← IO.monoNanosNow, ← openLog c.logFile⟩
  m.report [Log.info "-- PUS TMTC client --",
    Log.info ("operation mode: " ++ c.operation.mode.describe)]
  let refuse (cause : String) : IO UInt32 := do
    m.report [Log.error ("creating the communication interface failed: " ++ cause)]
    return 1
  match c.link.opening c.operation.settings.apid with
  | .error cause => refuse ("configuration error: " ++ cause.message)
  | .ok opening =>
    m.report opening.log
    match opening with
    | .ready link => operate c m link
    | .serial _ _ | .udp _ _ => refuse "this machine has no such device"

end GroundLink.Program

/-- Runs the client as the arguments and the configuration file say. -/
def main (arguments : List String) : IO UInt32 := do
  match GroundLink.Client.CommandLine.parse arguments with
  | .error cause =>
    IO.eprintln ("error: " ++ cause.message)
    return 2
  | .ok line =>
    match (← GroundLink.Program.loadFile line.config).bind line.configure with
    | .error cause =>
      IO.eprintln ("invalid configuration: " ++ cause.message)
      return 1
    | .ok config => GroundLink.Program.start config
