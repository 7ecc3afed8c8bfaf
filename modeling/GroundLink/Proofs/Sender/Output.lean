import GroundLink.Proofs.Sender.Plain

/-!
# What becomes of the output

A sender collects what it prints in the file buffer.  An export lists the buffer as a page, writes
it to a file, and empties it if it could be written.  `Sender.performAll_lists_iff` balances the
books for any sequence of directives and of printed telecommands and telemetry, whichever exports
fail:

* The files that were written, followed by the buffer, are the output, in order and each line once.
* The pages are the texts of all exports, also of those that failed.

A text that could not be written stays in the buffer, and is listed again with the next page.  So
the pages followed by the buffer are the output exactly if no export of any text failed.
-/

namespace GroundLink

/-! ### Printed text -/

namespace Printer

/-- Lines the way they stand in a file. -/
def sheet (lines : List String) : String := String.join (lines.map (· ++ lineEnd))

/-- The lines of a telecommand that is about to be sent. -/
def telecommandLines (p : Printer) (tc : Telecommand.Packed) : List String :=
  if p.printTc && !tc.raw.isEmpty then [telecommandLine p.display tc.info] else []

/-- A text is added to the file buffer.  Apart from that, only the line printed last changes. -/
def Collects (p : Printer) (text : String) (p' : Printer) : Prop :=
  ∃ line, p' = { p with line, buffer := p.buffer ++ text }

variable {p p' p'' : Printer} {a b : String}

theorem sheet_cons (line : String) (lines : List String) :
    sheet (line :: lines) = line ++ lineEnd ++ sheet lines := String.join_cons

theorem sheet_append (lines others : List String) :
    sheet (lines ++ others) = sheet lines ++ sheet others := by
  rw [sheet, List.map_append, String.join_append]
  rfl

theorem Collects.nothing (p : Printer) : p.Collects "" p := by
  refine ⟨p.line, ?_⟩
  rw [String.append_empty]

theorem Collects.trans (first : p.Collects a p') (second : p'.Collects b p'') :
    p.Collects (a ++ b) p'' := by
  obtain ⟨line, rfl⟩ := first
  obtain ⟨line', rfl⟩ := second
  refine ⟨line', ?_⟩
  rw [String.append_assoc]

theorem Collects.toFile_eq (h : p.Collects a p') : p'.toFile = p.toFile := by
  obtain ⟨line, rfl⟩ := h
  rfl

/-- What a packet is printed as does not depend on what was collected before. -/
theorem Collects.packetLines_eq (h : p.Collects a p') : p'.packetLines = p.packetLines := by
  obtain ⟨line, rfl⟩ := h
  rfl

theorem collects_printText_apart (text : String) (toFile : p.toFile = true) :
    p.Collects (lineEnd ++ text ++ lineEnd) (p.printText text true).1 := by
  refine ⟨text, ?_⟩
  simp only [printText, collect, toFile, if_true]

theorem collects_emit (line : String) (toFile : p.toFile = true) :
    p.Collects (line ++ lineEnd) (p.emit line).1 := by
  refine ⟨line, ?_⟩
  simp only [emit, collect, toFile, if_true, Bool.false_eq_true, if_false, String.empty_append]

theorem collects_emitAll (lines : List String) (toFile : p.toFile = true) :
    p.Collects (sheet lines) (p.emitAll lines).1 := by
  induction lines generalizing p with
  | nil => exact .nothing p
  | cons line rest ih =>
    have hfirst := collects_emit line toFile
    rw [sheet_cons]
    exact hfirst.trans (ih (hfirst.toFile_eq.trans toFile))

theorem collects_printBatch (batch : Packet.Batch) (toFile : p.toFile = true) :
    p.Collects (sheet (batch.flatMap p.packetLines)) (p.printBatch batch).1 := by
  induction batch generalizing p with
  | nil => exact .nothing p
  | cons packet rest ih =>
    have hfirst : p.Collects _ (p.printPacket packet).1 :=
      collects_emitAll (p.packetLines packet) toFile
    have hrest := ih (hfirst.toFile_eq.trans toFile)
    rw [hfirst.packetLines_eq] at hrest
    rw [List.flatMap_cons, sheet_append]
    exact hfirst.trans hrest

theorem collects_printTelecommand (tc : Telecommand.Packed) (toFile : p.toFile = true) :
    p.Collects (sheet (p.telecommandLines tc)) (p.printTelecommand tc).1 := by
  cases hprints : p.printTc with
  | false =>
    rw [telecommandLines, printTelecommand, hprints]
    exact .nothing p
  | true =>
    cases hempty : tc.raw.isEmpty with
    | true =>
      rw [telecommandLines, printTelecommand, hprints, hempty]
      exact .nothing p
    | false =>
      rw [telecommandLines, printTelecommand, hprints, hempty]
      have hsheet : ∀ line, sheet [line] = line ++ lineEnd := fun line => by
        rw [sheet_cons]
        exact String.append_empty
      exact (hsheet _).symm ▸ collects_emit _ toFile

end Printer

namespace Sender

open Routine (Secures)
open Printer (lineEnd sheet)

/-! ### Output -/

/-- Something that a sender does with its printer. -/
inductive Output where
  | directive (e : Queue.Entry)
  | telecommand (tc : Telecommand.Packed)
  | telemetry (batches : List Packet.Batch)

/-- Carries out a directive, or prints. -/
def Output.perform : Output → Routine Sender Unit
  | directive e => do
    let _ ← carryOut e
    return ()
  | telecommand tc => print (·.printTelecommand tc)
  | telemetry batches => print (·.printBatches batches)

/-- What an output adds to the files. -/
def Output.text (p : Printer) : Output → String
  | directive (.print text) => lineEnd ++ text ++ lineEnd
  | directive (.printPlain text) => text ++ lineEnd
  | directive _ => ""
  | telecommand tc => sheet (p.telecommandLines tc)
  | telemetry batches => sheet (batches.flatten.flatMap p.packetLines)

/-- Performs outputs one after another. -/
def performAll : List Output → Routine Sender Unit
  | [] => pure ()
  | o :: rest => do
    o.perform
    performAll rest

/-- What outputs add to the files. -/
def outputText (p : Printer) (outputs : List Output) : String :=
  String.join (outputs.map (Output.text p))

/-- The text of an export and whether it was written, if a deed is one. -/
def exported? (d : Deed Sender) : Option (String × Bool) :=
  match d with
  | ⟨_, .writeFile _ text, answer⟩ => some (text, answer.isOk)
  | _ => none

def exports (t : Trace Sender) : List (String × Bool) := t.filterMap exported?

/-- The contents of the files that were written. -/
def written (t : Trace Sender) : String :=
  String.join (((exports t).filter Prod.snd).map Prod.fst)

theorem plain_perform (o : Output) : Routine.Plain IsOwn o.perform := by
  cases o with
  | directive e => exact Routine.plain_bind (plain_carryOut e) fun _ => Routine.plain_pure ()
  | telecommand tc => exact plain_print (·.printTelecommand tc)
  | telemetry batches => exact plain_print (·.printBatches batches)

/-- **Any outputs come to an end**, whatever the world. -/
theorem plain_performAll (outputs : List Output) : Routine.Plain IsOwn (performAll outputs) := by
  induction outputs with
  | nil => exact Routine.plain_pure ()
  | cons o rest ih => exact Routine.plain_bind (plain_perform o) fun _ => ih

/-! ### One output -/

variable {s s' s'' : Sender} {t u : Trace Sender} {a b : String}

theorem exports_append (t u : Trace Sender) : exports (t ++ u) = exports t ++ exports u :=
  List.filterMap_append

theorem Logs.exports_eq (logs : Logs s t) : exports t = [] := by
  refine List.filterMap_eq_nil_iff.mpr fun d hd => ?_
  obtain ⟨-, entries, heffect⟩ := logs d hd
  obtain ⟨mark, effect, answer⟩ := d
  subst heffect
  rfl

/-- The books of a sender that adds a text to its output: the style of the printer is kept, the
files and the buffer are balanced, and every export lists a page. -/
structure Books (s : Sender) (t : Trace Sender) (s' : Sender) (text : String) : Prop where
  style : ∃ line buffer pages, s'.printer = { s.printer with line, buffer, pages }
  balance : written t ++ s'.printer.buffer = s.printer.buffer ++ text
  pages : s'.printer.pages = s.printer.pages ++ (exports t).map Prod.fst

namespace Books

theorem toFile_eq (h : Books s t s' a) : s'.printer.toFile = s.printer.toFile := by
  obtain ⟨line, buffer, pages, hstyle⟩ := h.style
  rw [hstyle]

/-- What is printed later does not depend on what was printed and exported before. -/
theorem text_eq (h : Books s t s' a) (o : Output) : o.text s'.printer = o.text s.printer := by
  obtain ⟨line, buffer, pages, hstyle⟩ := h.style
  rw [hstyle]
  cases o with
  | directive e => cases e <;> rfl
  | telecommand tc => rfl
  | telemetry batches => rfl

theorem outputText_eq (h : Books s t s' a) (outputs : List Output) :
    outputText s'.printer outputs = outputText s.printer outputs := by
  rw [outputText, outputText, funext h.text_eq]

/-- Deeds that are no exports do not touch the books, as long as the printer stays as it is. -/
theorem untouched (exports : exports t = []) (printer : s'.printer = s.printer) :
    Books s t s' "" := by
  refine ⟨⟨s.printer.line, s.printer.buffer, s.printer.pages, printer⟩, ?_, ?_⟩
  · rw [written, exports, printer, String.append_empty]
    exact String.empty_append
  · rw [exports, printer, List.map_nil, List.append_nil]

theorem collected (exports : exports t = []) (h : s.printer.Collects a s'.printer) :
    Books s t s' a := by
  obtain ⟨line, hprinter⟩ := h
  refine ⟨⟨line, s.printer.buffer ++ a, s.printer.pages, hprinter⟩, ?_, ?_⟩
  · rw [written, exports, hprinter]
    exact String.empty_append
  · rw [exports, hprinter, List.map_nil, List.append_nil]

theorem trans (first : Books s t s' a) (second : Books s' u s'' b) :
    Books s (t ++ u) s'' (a ++ b) := by
  refine ⟨?_, ?_, ?_⟩
  · obtain ⟨line, buffer, pages, hfirst⟩ := first.style
    obtain ⟨line', buffer', pages', hsecond⟩ := second.style
    rw [hfirst] at hsecond
    exact ⟨line', buffer', pages', hsecond⟩
  · have hwritten : written (t ++ u) = written t ++ written u := by
      rw [written, exports_append, List.filter_append, List.map_append, String.join_append]
      rfl
    calc written (t ++ u) ++ s''.printer.buffer
        = written t ++ (written u ++ s''.printer.buffer) := by rw [hwritten, String.append_assoc]
      _ = written t ++ (s'.printer.buffer ++ b) := by rw [second.balance]
      _ = written t ++ s'.printer.buffer ++ b := String.append_assoc.symm
      _ = s.printer.buffer ++ (a ++ b) := by rw [first.balance, String.append_assoc]
  · rw [second.pages, first.pages, exports_append, List.map_append, List.append_assoc]

end Books

variable {R : Trace Sender → Sender → Prop}

/-- Printing adds to the log, and to the files what the printer collects. -/
theorem secures_print_books (f : Printer → Printer × List Log.Entry)
    (collects : s.printer.Collects a (f s.printer).1) :
    Secures (Looks R) (print f) (fun _ t s' => Books s t s' a) [] s := by
  simp only [print, Secures.bind_iff, Secures.get_iff, Secures.set_iff]
  exact secures_log fun printed logs => .collected logs.exports_eq collects

/-- **An export lists the buffer**, whether it can be written or not, and empties it only if it
could be written. -/
theorem secures_exportBuffer_books (path : Path) :
    Secures (Looks R) (exportBuffer path) (fun _ t s' => Books s t s' "") [] s := by
  have hnoLog : (Routine.log [] : Routine Sender Unit) = pure () := rfl
  simp only [exportBuffer, print, hnoLog, Routine.writeFile, Secures.bind_iff, Secures.get_iff,
    Secures.set_iff, Secures.pure_iff, Secures.perform_iff]
  refine ⟨by simp [Looks], fun answer => ?_⟩
  cases answer with
  | ok =>
    -- The buffer has become the contents of a file.
    simp only [Secures.bind_iff, Secures.get_iff, Secures.set_iff, Secures.pure_iff]
    refine ⟨⟨s.printer.line, "", s.printer.pages ++ [s.printer.buffer], rfl⟩, ?_, rfl⟩
    have hwritten : String.join [s.printer.buffer] = s.printer.buffer := by
      rw [String.join_cons, String.join_nil, String.append_empty]
    exact congrArg (· ++ "") hwritten
  | error cause =>
    -- The buffer stays as it is, although it was listed.
    refine secures_note ?_
    refine ⟨⟨s.printer.line, s.printer.buffer, s.printer.pages ++ [s.printer.buffer], rfl⟩, ?_, rfl⟩
    exact String.empty_append.trans String.append_empty.symm

theorem secures_directive_books (e : Queue.Entry) (toFile : s.printer.toFile = true) :
    Secures (Looks R) (carryOut e)
      (fun _ t s' => Books s t s' ((Output.directive e).text s.printer)) [] s := by
  unfold carryOut
  cases e with
  | telecommand tc =>
    refine Secures.bind_iff.mpr (Secures.modify_iff.mpr (Secures.pure_iff.mpr ?_))
    exact .untouched rfl rfl
  | wait time =>
    refine Secures.bind_iff.mpr (Secures.modify_iff.mpr (Secures.bind_iff.mpr ?_))
    exact secures_sleep (Secures.pure_iff.mpr (.untouched rfl rfl))
  | print text =>
    have hprint := secures_print_books (R := R) (·.printText text true)
      (Printer.collects_printText_apart text toFile)
    exact Secures.bind_iff.mpr (hprint.mono fun _ _ _ h => Secures.pure_iff.mpr h)
  | printPlain text =>
    have hprint := secures_print_books (R := R) (·.printText text false)
      (Printer.collects_emit text toFile)
    exact Secures.bind_iff.mpr (hprint.mono fun _ _ _ h => Secures.pure_iff.mpr h)
  | «export» path =>
    have hexport := secures_exportBuffer_books (R := R) (s := s) path
    exact Secures.bind_iff.mpr (hexport.mono fun _ _ _ h => Secures.pure_iff.mpr h)
  | timeout time =>
    refine Secures.bind_iff.mpr (Secures.modify_iff.mpr (Secures.pure_iff.mpr ?_))
    exact .untouched rfl rfl

/-- **Every output keeps the books.** -/
theorem secures_perform_books (o : Output) (toFile : s.printer.toFile = true) :
    Secures (Looks R) o.perform (fun _ t s' => Books s t s' (o.text s.printer)) [] s := by
  cases o with
  | directive e =>
    refine Secures.bind_iff.mpr ((secures_directive_books e toFile).mono fun _ t s' h => ?_)
    exact Secures.pure_iff.mpr h
  | telecommand tc =>
    exact secures_print_books (·.printTelecommand tc)
      (Printer.collects_printTelecommand tc toFile)
  | telemetry batches =>
    exact secures_print_books (·.printBatches batches)
      (Printer.collects_printBatch batches.flatten toFile)

/-! ### Any outputs -/

/-- **Outputs keep the books**, whichever exports fail. -/
theorem books_performAll {outputs : List Output} (toFile : s.printer.toFile = true)
    (run : (performAll outputs).Completes s t () s') :
    Books s t s' (outputText s.printer outputs) := by
  induction outputs generalizing s t with
  | nil =>
    cases run
    exact .untouched rfl rfl
  | cons o rest ih =>
    obtain ⟨t₁, ⟨⟨⟩, s₁⟩, t₂, rfl, first, second⟩ := Activity.Reaches.done_of_bind run
    have hfirst : Books s t₁ s₁ (o.text s.printer) :=
      (secures_perform_books (R := fun _ _ => True) o toFile).of_completes first
    have hrest := ih (hfirst.toFile_eq.trans toFile) second
    rw [hfirst.outputText_eq] at hrest
    have hjoin : outputText s.printer (o :: rest) =
        o.text s.printer ++ outputText s.printer rest := String.join_cons
    rw [hjoin]
    exact hfirst.trans hrest

/-- Texts that are left out do not make the rest longer. -/
theorem length_join_marked_le (l : List (String × Bool)) :
    (String.join ((l.filter Prod.snd).map Prod.fst)).length ≤
      (String.join (l.map Prod.fst)).length := by
  induction l with
  | nil => exact Nat.le_refl _
  | cons e l ih =>
    rw [List.map_cons, String.join_cons, String.length_append]
    cases hmarked : e.2 with
    | true =>
      rw [List.filter_cons_of_pos hmarked, List.map_cons, String.join_cons, String.length_append]
      omega
    | false =>
      rw [List.filter_cons_of_neg (by simp [hmarked])]
      omega

/-- All texts together are the marked ones together exactly if the others are empty. -/
theorem join_eq_join_marked_iff (l : List (String × Bool)) :
    String.join (l.map Prod.fst) = String.join ((l.filter Prod.snd).map Prod.fst) ↔
      ∀ e ∈ l, e.2 = false → e.1 = "" := by
  induction l with
  | nil => simp
  | cons e l ih =>
    rw [List.map_cons, String.join_cons, List.forall_mem_cons, ← ih]
    cases hmarked : e.2 with
    | true =>
      rw [List.filter_cons_of_pos hmarked, List.map_cons, String.join_cons,
        String.append_right_inj]
      simp
    | false =>
      rw [List.filter_cons_of_neg (by simp [hmarked])]
      constructor
      · intro h
        -- Both sides are as long as each other only if the first text is empty.
        have hlength := congrArg String.length h
        rw [String.length_append] at hlength
        have hless := length_join_marked_le l
        have hempty : e.1 = "" := String.length_eq_zero_iff.mp (by omega)
        rw [hempty, String.empty_append] at h
        exact ⟨fun _ => hempty, h⟩
      · rintro ⟨hempty, h⟩
        rw [hempty rfl, String.empty_append, h]

/-- **The books of the output.**  With output to files, and whichever exports fail:

* Any sequence of directives and of printed telecommands and telemetry comes to its end.
* The files that were written, followed by the buffer, are the output, in order and each line once.
* The pages are the texts of all exports, also of those that failed.
* So the pages followed by the buffer are the output exactly if no export of any text failed. -/
theorem performAll_lists_iff (outputs : List Output) (toFile : s.printer.toFile = true) :
    Routine.Plain IsOwn (performAll outputs) ∧
    ∀ t s', (performAll outputs).Completes s t () s' →
      written t ++ s'.printer.buffer = s.printer.buffer ++ outputText s.printer outputs ∧
      s'.printer.pages = s.printer.pages ++ (exports t).map Prod.fst ∧
      (s'.printer.pagesText ++ s'.printer.buffer =
          s.printer.pagesText ++ (s.printer.buffer ++ outputText s.printer outputs) ↔
        ∀ e ∈ exports t, e.2 = false → e.1 = "") := by
  refine ⟨plain_performAll outputs, fun t s' run => ?_⟩
  have hbooks := books_performAll toFile run
  refine ⟨hbooks.balance, hbooks.pages, ?_⟩
  have hpages : s'.printer.pagesText =
      s.printer.pagesText ++ String.join ((exports t).map Prod.fst) := by
    rw [Printer.pagesText, hbooks.pages, String.join_append]
    rfl
  rw [hpages, ← hbooks.balance, String.append_assoc, String.append_right_inj,
    String.append_left_inj]
  exact join_eq_join_marked_iff (exports t)

/-- Answers by which nothing goes on, and no file can be written in place of the working
directory. -/
def workingDirectoryStands (_ : Trace Sender) : (effect : Effect) → effect.Answer
  | .writeFile path _ => if path.text = "." then .error .isDirectory else .ok ()
  | effect => effect.calm

/-- The first of two exports fails: its text is in the file once and on the pages twice. -/
theorem performAll_lists_iff_failing :
    ∃ s t s', s.printer.toFile = true ∧
      (performAll [.directive (.printPlain "first"), .directive (.export ⟨"."⟩),
        .directive (.printPlain "second"), .directive (.export ⟨"log/out.txt"⟩)]).Completes
          s t () s' ∧
      written t ++ s'.printer.buffer = "first\r\nsecond\r\n" ∧
      s'.printer.pages = ["first\r\n", "first\r\nsecond\r\n"] ∧
      s'.printer.pagesText ++ s'.printer.buffer ≠ "first\r\nsecond\r\n" := by
  let outputs : List Output := [.directive (.printPlain "first"), .directive (.export ⟨"."⟩),
    .directive (.printPlain "second"), .directive (.export ⟨"log/out.txt"⟩)]
  let start : Sender := { (default : Sender) with printer := Printer.make .short true true }
  let played := Activity.play workingDirectoryStands 10 [] (performAll outputs start)
  have hplayed : played.2.result?.isSome = true ∧
      exports played.1 = [("first\r\n", false), ("first\r\nsecond\r\n", true)] := by
    decide +kernel
  obtain ⟨⟨⟨⟩, s'⟩, run⟩ := Activity.reaches_play_done hplayed.1
  have toFile : start.printer.toFile = true := rfl
  obtain ⟨-, hbooks⟩ := performAll_lists_iff outputs toFile
  obtain ⟨hbalance, hpages, hlists⟩ := hbooks played.1 s' run
  rw [hplayed.2] at hpages hlists
  have htext : start.printer.buffer ++ outputText start.printer outputs =
      "first\r\nsecond\r\n" := by
    decide +kernel
  rw [htext] at hbalance hlists
  refine ⟨start, played.1, s', toFile, run, hbalance, hpages, fun h => ?_⟩
  have hempty := hlists.mp h ("first\r\n", false) (List.mem_cons_self) rfl
  exact absurd hempty (by decide)

end Sender

end GroundLink
