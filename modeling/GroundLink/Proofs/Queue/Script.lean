import GroundLink.Queue.Script

/-!
# Scripts in parts

A script is read line by line, and a line is read without regard to the others.  So lines are read
one after another (`Queue.ofLines_append`), and refused for the first of them that is refused on its
own (`Queue.ofLines_error_iff`).  `Queue.ofScript_composes` says so of whole scripts.

The lines are those of the text as it stands: everything between two line ends is one, whether it
is blank, a comment or an entry (`Text.lines_eq`).  A carriage return at its end is a blank like
any other.
-/

namespace GroundLink

namespace Text

/-! ### Lines of a text -/

theorem splitAt_eq (p : Char → Bool) (cs : List Char) : splitAt p cs = cs.splitOnP p := by
  induction cs with
  | nil => exact List.splitOnP_nil.symm
  | cons c cs ih =>
    rw [List.splitOnP_cons_eq_if_modifyHead, splitAt, ih]
    congr 1
    -- There is a first piece, so the character is added to it.
    cases hpieces : cs.splitOnP p with
    | nil => exact absurd hpieces (List.splitOnP_ne_nil p cs)
    | cons w ws => rfl

/-- The lines of a text are what stands between its line ends. -/
theorem lines_eq (cs : List Char) : lines cs = cs.splitOn '\n' := by
  rw [lines, splitAt_eq, List.splitOn_eq_splitOnP]
  exact congrArg (List.splitOnP · cs) (funext fun c => (Bool.beq_eq_decide_eq c '\n').symm)

/-- There is one line more than line ends. -/
theorem length_lines (cs : List Char) : (lines cs).length = cs.count '\n' + 1 := by
  rw [lines_eq]
  induction cs with
  | nil => rfl
  | cons c cs ih =>
    rw [List.splitOn_cons_eq_if_modifyHead, List.count_cons]
    split
    · rw [List.length_cons, ih]
    · rw [List.length_modifyHead, ih, Nat.add_zero]

end Text

namespace Queue

variable {apid : UInt16} {line : List Char} {lines : List (List Char)} {number : Nat}
  {cause : Entry.Error}

/-! ### Refused lines -/

/-- A line is refused: without the blanks at its ends, it is neither empty nor a comment, and its
tag and its argument make no entry. -/
structure Refuses (apid : UInt16) (line : List Char) (cause : Entry.Error) : Prop where
  not_blank : Text.trim line ≠ []
  not_comment : (Text.trim line).head? ≠ some '#'
  refused : Entry.ofTag (String.ofList (Text.cutAtBlank (Text.trim line)).1)
    (String.ofList (Text.cutAtBlank (Text.trim line)).2) apid = .error cause

theorem Refuses.unique {cause' : Entry.Error} (h : Refuses apid line cause)
    (h' : Refuses apid line cause') : cause' = cause :=
  Except.error.inj (h'.refused.symm.trans h.refused)

/-- The first of some lines that is refused: where it is, counted from one, and why. -/
def FirstRefused (apid : UInt16) (lines : List (List Char)) (e : ScriptError) : Prop :=
  ∃ before line after, lines = before ++ line :: after ∧ e.line = before.length + 1 ∧
    Refuses apid line e.cause ∧ ∀ other ∈ before, ∀ cause, ¬ Refuses apid other cause

/-- An error in a text that stands behind some lines. -/
def ScriptError.behind (count : Nat) (e : ScriptError) : ScriptError :=
  ⟨count + e.line, e.cause⟩

theorem ofLine?_error_iff : ofLine? apid line = .error cause ↔ Refuses apid line cause := by
  unfold ofLine?
  dsimp only
  split
  case isTrue skipped =>
    refine ⟨nofun, fun h => ?_⟩
    rw [isSkipped, Bool.or_eq_true, List.isEmpty_iff, decide_eq_true_eq] at skipped
    exact (skipped.elim h.not_blank h.not_comment).elim
  case isFalse kept =>
    rw [isSkipped, Bool.or_eq_true, List.isEmpty_iff, decide_eq_true_eq, not_or] at kept
    constructor
    · intro h
      refine ⟨kept.1, kept.2, ?_⟩
      generalize Entry.ofTag _ _ apid = result at h ⊢
      cases result with
      | error c => cases h; rfl
      | ok e => cases h
    · intro h
      rw [h.refused]
      rfl

theorem firstRefused_cons_of_refuses {e : ScriptError} (h : Refuses apid line cause) :
    FirstRefused apid (line :: lines) e ↔ e = ⟨1, cause⟩ := by
  constructor
  · rintro ⟨before, refused, after, hlines, hline, hrefused, hbefore⟩
    cases before with
    | nil =>
      obtain ⟨rfl, rfl⟩ := List.cons.inj hlines
      obtain rfl := h.unique hrefused
      cases e
      congr
    | cons other before =>
      obtain ⟨rfl, -⟩ := List.cons.inj hlines
      exact absurd h (hbefore _ List.mem_cons_self cause)
  · rintro rfl
    exact ⟨[], line, lines, rfl, rfl, h, nofun⟩

theorem firstRefused_cons_of_not {e : ScriptError} (h : ∀ cause, ¬ Refuses apid line cause) :
    FirstRefused apid (line :: lines) e ↔ ∃ e', FirstRefused apid lines e' ∧ e = e'.behind 1 := by
  constructor
  · rintro ⟨before, refused, after, hlines, hline, hrefused, hbefore⟩
    cases before with
    | nil =>
      obtain ⟨rfl, -⟩ := List.cons.inj hlines
      exact absurd hrefused (h e.cause)
    | cons other before =>
      obtain ⟨-, rfl⟩ := List.cons.inj hlines
      refine ⟨⟨before.length + 1, e.cause⟩, ⟨before, refused, after, rfl, rfl, hrefused,
        fun l hl => hbefore l (List.mem_cons_of_mem _ hl)⟩, ?_⟩
      rw [ScriptError.behind, Nat.add_comm 1, ← List.length_cons, ← hline]
  · rintro ⟨e', ⟨before, refused, after, rfl, hline, hrefused, hbefore⟩, rfl⟩
    refine ⟨line :: before, refused, after, rfl, ?_, hrefused, ?_⟩
    · rw [ScriptError.behind, hline, List.length_cons, Nat.add_comm 1]
    · intro other hother
      rcases List.mem_cons.mp hother with rfl | hother
      · exact h
      · exact hbefore other hother

/-! ### Reading lines -/

/-- What is read does not depend on where the first line stands, but the number of an error does. -/
theorem ofLines_add (count number : Nat) (lines : List (List Char)) :
    ofLines apid (count + number) lines =
      (ofLines apid number lines).mapError (·.behind count) := by
  induction lines generalizing number with
  | nil => rfl
  | cons line rest ih =>
    rw [ofLines, ofLines, Nat.add_assoc, ih (number + 1)]
    cases ofLine? apid line with
    | error cause => rfl
    | ok entry =>
      cases entry with
      | none => rfl
      | some e => cases ofLines apid (number + 1) rest <;> rfl

/-- **Lines are read one after another.** -/
theorem ofLines_append (number : Nat) (lines others : List (List Char)) :
    ofLines apid number (lines ++ others) = do
      let first ← ofLines apid number lines
      let second ← ofLines apid (number + lines.length) others
      return first ++ second := by
  induction lines generalizing number with
  | nil => cases hothers : ofLines apid number others <;> simp [ofLines, hothers] <;> rfl
  | cons line rest ih =>
    have hnumber : number + (line :: rest).length = number + 1 + rest.length := by
      rw [List.length_cons]
      omega
    rw [List.cons_append, ofLines, ofLines, ih, hnumber]
    cases ofLine? apid line with
    | error cause => rfl
    | ok entry =>
      cases entry with
      | none => rfl
      | some e =>
        cases ofLines apid (number + 1) rest with
        | error cause => rfl
        | ok entries => cases ofLines apid (number + 1 + rest.length) others <;> rfl

/-- **Lines are refused for the first of them that is refused.** -/
theorem ofLines_error_iff {e : ScriptError} :
    ofLines apid 1 lines = .error e ↔ FirstRefused apid lines e := by
  induction lines generalizing e with
  | nil =>
    refine ⟨nofun, ?_⟩
    rintro ⟨before, line, after, hlines, -⟩
    exact absurd hlines.symm (List.append_ne_nil_of_right_ne_nil _ (List.cons_ne_nil _ _))
  | cons line rest ih =>
    -- The lines behind this one are read as if they stood alone.
    have hrest : ofLines apid (1 + 1) rest = (ofLines apid 1 rest).mapError (·.behind 1) :=
      ofLines_add 1 1 rest
    have herror : (ofLines apid 1 rest).mapError (·.behind 1) = .error e ↔
        ∃ e', FirstRefused apid rest e' ∧ e = e'.behind 1 := by
      simp only [← ih]
      cases ofLines apid 1 rest with
      | error e' =>
        constructor
        · intro h
          exact ⟨e', rfl, (Except.error.inj h).symm⟩
        · rintro ⟨e'', he, rfl⟩
          rw [← Except.error.inj he]
          rfl
      | ok entries =>
        refine ⟨nofun, ?_⟩
        rintro ⟨e', he, -⟩
        cases he
    cases hline : ofLine? apid line with
    | error cause =>
      rw [firstRefused_cons_of_refuses (ofLine?_error_iff.mp hline), ofLines, hline]
      exact ⟨fun h => (Except.error.inj h).symm, fun h => congrArg _ h.symm⟩
    | ok entry =>
      have hkept : ∀ cause, ¬ Refuses apid line cause := by
        intro cause h
        rw [ofLine?_error_iff.mpr h] at hline
        cases hline
      rw [firstRefused_cons_of_not hkept, ← herror, ofLines, hline, hrest]
      cases entry with
      | none => exact Iff.rfl
      | some entry =>
        cases ofLines apid 1 rest with
        | error e' => exact Iff.rfl
        | ok entries => exact ⟨nofun, nofun⟩

theorem ofLines_ok_iff : (∃ q, ofLines apid number lines = .ok q) ↔
    ∀ line ∈ lines, ∀ cause, ¬ Refuses apid line cause := by
  induction lines generalizing number with
  | nil => exact ⟨fun _ => nofun, fun _ => ⟨[], rfl⟩⟩
  | cons line rest ih =>
    have hrest : (∃ q, ofLines apid (number + 1) rest = .ok q) ↔
        ∀ line ∈ rest, ∀ cause, ¬ Refuses apid line cause := ih
    rw [List.forall_mem_cons, ← hrest, ofLines]
    simp only [← ofLine?_error_iff]
    cases ofLine? apid line with
    | error cause => exact ⟨nofun, fun h => absurd rfl (h.1 cause)⟩
    | ok entry =>
      rw [and_iff_right nofun]
      cases entry with
      | none => exact Iff.rfl
      | some entry => cases ofLines apid (number + 1) rest with
        | error e => exact Iff.rfl
        | ok entries => exact ⟨fun _ => ⟨entries, rfl⟩, fun _ => ⟨entry :: entries, rfl⟩⟩

/-! ### Scripts -/

/-- **Scripts in parts.**  Two scripts with a line end between them hold the entries of the first
and then those of the second.  An error in the first is an error of both together, and an error in
the second then stands behind all lines of the first, one more than it has line ends.  A script is
refused for the first of its lines that is neither blank nor a comment and whose tag and argument
are refused as an entry, with the number of that line and the reason why; lines are counted from
one, whatever they hold.  It is read if there is no such line. -/
theorem ofScript_composes (apid : UInt16) :
    (∀ a b, ofScript (a ++ "\n" ++ b) apid = do
      let first ← ofScript a apid
      let second ← (ofScript b apid).mapError (·.behind (a.toList.count '\n' + 1))
      return first ++ second) ∧
    (∀ script e, ofScript script apid = .error e ↔
      FirstRefused apid (script.toList.splitOn '\n') e) ∧
    ∀ script, (∃ q, ofScript script apid = .ok q) ↔
      ∀ line ∈ script.toList.splitOn '\n', ∀ cause, ¬ Refuses apid line cause := by
  refine ⟨fun a b => ?_, fun script e => ?_, fun script => ?_⟩
  · have hlines : Text.lines (a ++ "\n" ++ b).toList =
        Text.lines a.toList ++ Text.lines b.toList := by
      rw [String.toList_append, String.toList_append, List.append_assoc, Text.lines_eq,
        Text.lines_eq, Text.lines_eq]
      exact List.splitOn_append_cons_self _ _
    rw [ofScript, ofScript, ofScript, hlines, ofLines_append, Nat.add_comm 1, ← ofLines_add,
      Text.length_lines]
  · rw [ofScript, Text.lines_eq, ofLines_error_iff]
  · rw [ofScript, Text.lines_eq, ofLines_ok_iff]

end Queue

end GroundLink
