import GroundLink.Files.Tree
import GroundLink.Report.Basic
import GroundLink.Settings
import GroundLink.Text.Quoted

/-!
# Printer

Sent telecommands and received telemetry are printed line by line.  A printed line goes to the log
and, if output is written to files, into a file buffer.  The buffer can be written to a file at any
time, and copies of it can be collected and written together.

The lines of a packet (`Printer.packetLines`) are computed first and then printed one after another.
-/

namespace GroundLink

/-- A printer with its buffers. -/
structure Printer where
  display : Display
  /-- Whether lines are collected for files. -/
  toFile : Bool
  printTc : Bool
  /-- Whether lines go to the log. -/
  printTm : Bool
  printRawTm : Bool
  printHk : Bool
  /-- The line printed last. -/
  line : String
  /-- The text collected for the next file. -/
  buffer : String
  /-- Copies of the buffer that are written together. -/
  pages : List String
  deriving DecidableEq, Repr, Inhabited

namespace Printer

/-! ### Construction -/

/-- A printer that prints telemetry, but neither raw data nor housekeeping sets. -/
def make (display : Display) (toFile printTc : Bool) : Printer :=
  ⟨display, toFile, printTc, true, false, false, "", "", []⟩

def ofSettings (s : Settings) : Printer :=
  ⟨s.display, s.printToFile, s.printTc, s.printTm, s.printRawTm, s.printHk, "", "", []⟩

/-! ### Single lines -/

/-- The end of a line in a file. -/
def lineEnd : String := "\r\n"

/-- Adds the line printed last to the file buffer, after a blank line if it is to stand apart. -/
def collect (p : Printer) (apart : Bool) : Printer :=
  if p.toFile then
    { p with buffer := p.buffer ++ ((if apart then lineEnd else "") ++ p.line ++ lineEnd) }
  else p

/-- Prints a line of packet output. -/
def emit (p : Printer) (line : String) : Printer × List Log.Entry :=
  ({ p with line := line }.collect false, if p.printTm then [Log.info line] else [])

/-- Prints lines of packet output in order. -/
def emitAll (p : Printer) : List String → Printer × List Log.Entry
  | [] => (p, [])
  | line :: rest =>
    let (p, first) := p.emit line
    let (p, others) := emitAll p rest
    (p, first ++ others)

def printText (p : Printer) (text : String) (apart : Bool) : Printer × List Log.Entry :=
  ({ p with line := text }.collect apart, [Log.info text])

/-- Appends to the line printed last, which shows when it is collected again. -/
def extendLine (p : Printer) (text : String) : Printer :=
  { p with line := p.line ++ text }

/-! ### Telemetry -/

/-- Octets the way raw data are shown. -/
def dataText (bs : Bytes) : String :=
  Text.bracketed (bs.map fun b => Text.hex 1 b.toNat)

/-- The lines of a definition of a housekeeping structure. -/
def definitionLines (sid : UInt32) (enabled : Bool) (interval : UInt32)
    (parameters : List UInt32) : List String :=
  ["HK Definition from SID " ++ Text.hex 1 sid.toNat ++ " :",
    Text.quoteList (["SID", "Report Status", "Collection Interval", "Number Of IDs"] ++
      (List.range parameters.length).map fun i => s!"Pool ID {i + 1}"),
    Text.quoteList ([Text.hex 1 sid.toNat, if enabled then "On" else "Off",
      Binary.single.render interval.toNat, toString parameters.length] ++
      parameters.map fun w => Text.hex 1 w.toNat)]

/-- The lines of the values of a housekeeping structure. -/
def valuesLines (sid : UInt32) (set : Housekeeping.DataSet) : List String :=
  ["HK Data from SID " ++ Text.hex 1 sid.toNat ++ " :",
    Text.quoteList set.columnTitles, Text.quoteList set.columns, "Valid: ",
    Text.bracketed (set.validityFlags.map fun valid => if valid then "Yes" else "No")]

/-- The lines of a housekeeping report. -/
def housekeepingLines (h : Housekeeping) : List String :=
  match h.content with
  | .definition enabled interval parameters => definitionLines h.sid enabled interval parameters
  | .values _ set => valuesLines h.sid set
  | .other => []

/-- The lines that every packet has. -/
def summaryLines (display : Display) (p : Packet) (report : Report) : List String :=
  match display with
  | .short => [s!"Received TM[{p.service},{p.subservice}]"]
  | .long =>
    ["Received Telemetry: " ++ report.describe p,
      Text.quoteList (p.columnTitles ++ report.columnTitles),
      Text.quoteList (p.columns ++ report.columns)]

/-- The line of raw data exchanged with a device. -/
def rawReplyLines (p : Packet) : List String :=
  if p.service = 2 ∧ (p.subservice = 130 ∨ p.subservice = 131) then
    [s!"Wiretapping Packet or Raw Reply from TM [{p.service},{p.subservice}]: " ++ dataText p.data]
  else []

/-- The line of the data that an action replies with. -/
def actionReplyLines (p : Packet) : List String :=
  if p.service = 8 ∧ p.subservice = 130 then
    ["Service 8 Direct Command Reply TM[8,130] with TM data: " ++ dataText p.data]
  else []

/-- All lines of a packet. -/
def packetLines (printer : Printer) (p : Packet) : List String :=
  let report := Report.ofPacket p
  summaryLines printer.display p report ++ rawReplyLines p ++ actionReplyLines p ++
    (match report with
     | .housekeeping h => if printer.printHk then housekeepingLines h else []
     | _ => []) ++
    (if printer.printRawTm then ["TM Data:\n" ++ dataText p.data] else [])

def printPacket (printer : Printer) (p : Packet) : Printer × List Log.Entry :=
  let (printed, entries) := printer.emitAll (printer.packetLines p)
  (printed, Report.remarks p ++ entries)

/-- Prints the packets of a poll. -/
def printBatch (printer : Printer) : Packet.Batch → Printer × List Log.Entry
  | [] => (printer, [])
  | p :: rest =>
    let (printer, first) := printer.printPacket p
    let (printer, others) := printBatch printer rest
    (printer, first ++ others)

def printBatches (printer : Printer) (batches : List Packet.Batch) : Printer × List Log.Entry :=
  printer.printBatch batches.flatten

/-! ### Telecommands -/

/-- The line of a sent telecommand. -/
def telecommandLine (display : Display) (info : Telecommand.Info) : String :=
  match display with
  | .short => s!"Sent TC[{info.service},{info.subservice}] with SSC {info.sequence}"
  | .long =>
    s!"Telecommand TC[{info.service},{info.subservice}] with SSC {info.sequence} sent with data " ++
      dataText info.data

/-- Prints a telecommand that is about to be sent. -/
def printTelecommand (printer : Printer) (tc : Telecommand.Packed) : Printer × List Log.Entry :=
  if !printer.printTc then (printer, [])
  else if tc.raw.isEmpty then
    (printer, [Log.error "TMTC printer: empty packet was sent, configuration error"])
  else printer.emit (telecommandLine printer.display tc.info)

/-! ### Files -/

/-- Puts a copy of the buffer to the pages. -/
def keepPage (p : Printer) : Printer :=
  { p with pages := p.pages ++ [p.buffer] }

def clear (p : Printer) : Printer :=
  { p with buffer := "" }

/-- All pages in order. -/
def pagesText (p : Printer) : String :=
  String.join p.pages

end Printer

namespace FileTree

/-- Creates the directory of a file if it does not exist. -/
def prepareDirectory (t : FileTree) (path : Path) : FileTree × List Log.Entry × Except Error Unit :=
  match path.parent? with
  | none => (t, [], .ok ())
  | some above =>
    if above.text.isEmpty || t.contains above then (t, [], .ok ())
    else
      let (t, result) := t.createAll above
      (t, [Log.info ("log directory does not exist, creating " ++ above.text)], result)

/-- Writes an output file, creating its directory if required. -/
def writeOutput (t : FileTree) (path : Path) (content : ByteArray) :
    FileTree × List Log.Entry × Except Error Unit :=
  match t.prepareDirectory path with
  | (t, entries, .error cause) => (t, entries, .error cause)
  | (t, entries, .ok ()) =>
    match t.write path content with
    | .error cause => (t, entries, .error cause)
    | .ok written => (written, entries ++ [Log.info ("log file written to " ++ path.text)], .ok ())

end FileTree

end GroundLink
