import GroundLink.Client.CommandLine
import GroundLink.Client.Config
import GroundLink.Client.ConfigFile

/-!
# Starting the client

The command line and the configuration file are merged into the configuration.  What the command
line says goes before what the file says, and both go before the defaults.

* `CommandLine.configure` merges.
* `Config.ofArguments` also reads the arguments, and the file that they name.
-/

namespace GroundLink.Client

namespace CommandLine

/-- The configured link, which must be complete. -/
def linkConfig (c : CommandLine) (file : ConfigFile.LinkSection) :
    Except ConfigError LinkConfig := do
  let defaults : LinkConfig := {}
  let kind ← match c.link with
    | some text => LinkKind.ofText text
    | none => pure (file.kind.getD default)
  let serialPort := c.serialPort.or file.serialPort
  if kind = .serial ∧ serialPort = none then throw .missingSerialPort
  return {
    kind
    serialPort
    baudRate := file.baudRate.getD defaults.baudRate
    receive := { defaults.receive with
      address := (c.client.or file.client).getD defaults.receive.address }
    board := { defaults.board with
      address := (c.board.or file.board).getD defaults.board.address } }

/-- The collection window: what is asked for, or the default for the kind of link. -/
def tmTimeoutFor (kind : LinkKind) (default : Span) : Option Float → Except ConfigError Span
  | some seconds =>
    match Span.ofSeconds? seconds with
    | some span => .ok span
    | none => .error (.invalidTmTimeout seconds)
  | none => .ok (if kind = .serial then serialTmTimeout else default)

/-- A factor must be positive and give a span that can be expressed. -/
def checkFactor (tmTimeout : Span) (factor : Float) : Except ConfigError Unit :=
  if factor.isFinite && 0.0 < factor && (Span.ofSeconds? (tmTimeout.seconds * factor)).isSome
  then .ok ()
  else .error (.invalidTcTimeoutFactor factor)

/-- The settings over a kind of link. -/
def settingsFor (c : CommandLine) (kind : LinkKind) (file : ConfigFile.TrafficSection) :
    Except ConfigError Settings := do
  let defaults : Settings := {}
  let tmTimeout ← tmTimeoutFor kind defaults.tmTimeout (c.tmTimeout.or file.tmTimeout)
  let tcTimeoutFactor :=
    (c.tcTimeoutFactor.or file.tcTimeoutFactor).getD defaults.tcTimeoutFactor
  checkFactor tmTimeout tcTimeoutFactor
  return { defaults with
    apid := file.apid.getD defaults.apid
    tmTimeout
    tcTimeoutFactor
    resend := c.resend || file.resend.getD false
    display := if c.shortDisplay then .short else .long
    printRawTm := c.printRawTm
    printHk := c.printHk
    printTm := !c.isQuiet
    printToFile := !c.keepsNoFiles }

/-- Merges the command line with the configuration file. -/
def configure (c : CommandLine) (file : ConfigFile) : Except ConfigError Config := do
  let defaults : Config := {}
  let some mode := Mode.ofCode? c.mode.toNat | throw (.invalidMode c.mode)
  let service ← ServiceSelection.ofText c.service
  let link ← c.linkConfig file.link
  let settings ← c.settingsFor link.kind file.traffic
  return ⟨⟨mode, service, settings⟩, link, file.traffic.logFile.getD defaults.logFile⟩

end CommandLine

inductive StartError where
  | usage (cause : UsageError)
  | config (cause : ConfigError)

/-- The configuration that arguments and the file that they name amount to, with what is logged. -/
def Config.ofArguments (files : FileTree) (arguments : List String) :
    Except StartError Config × List Log.Entry :=
  match CommandLine.parse arguments with
  | .error cause => (.error (.usage cause), [])
  | .ok line =>
    let (file, entries) := ConfigFile.load files line.config
    ((file.bind line.configure).mapError .config, entries)

end GroundLink.Client
