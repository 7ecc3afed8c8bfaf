import GroundLink.Proofs.Packet.Grammar
import GroundLink.Proofs.Packet.RoundTrip
import GroundLink.Proofs.Report.Layout

/-!
# The grammar of reports

Which report a packet gives is decided by its service, its subservice and the length of its data,
and for the definition of a housekeeping structure also by the number of parameters in the data
(`Report.exists_ofPacket_iff`).

Three parts of the data are taken without a look at the length: the payload of a parameter reply,
the values of a housekeeping report and the validity behind these.  `Report.ofPacketChecked?` is the
reading in which such a part has to be there.  It always has a result, and the same one
(`Report.ofPacketChecked?_eq`).

Octets behind accepted data only make these three parts longer (`Report.ofPacket_append`), with one
exception: values that are incomplete may become complete.

The main statement is `Report.ofPacket_grammar`.
-/

namespace GroundLink

open Bytes (Needs Reads)

/-! ### Parts that are taken without a look at the length -/

/-- A reading that ends early where a field is not held, and that has no result at all where a part
is taken which is not there. -/
abbrev Reading := OptionT Option

namespace Reading

variable {α β : Type}

/-- A field.  Where it is not held, the reading ends. -/
def field (found : Option α) : Reading α := OptionT.mk (some found)

/-- A part that has to be there. -/
def part (taken : Option α) : Reading α := OptionT.mk (taken.map some)

/-- A reading may go on as if the field were held. -/
theorem run_field_bind {found : Option α} {next : α → Reading β} {result : α → Option β}
    (goesOn : ∀ x, found = some x → (next x).run = some (result x)) :
    (field found >>= next).run = some (found >>= result) := by
  cases found with
  | none => rfl
  | some x => exact goesOn x rfl

/-- A part that is there does not matter for what is read behind it. -/
theorem run_part_bind {taken : Option α} {x : α} {next : α → Reading β} (held : taken = some x) :
    (part taken >>= next).run = (next x).run := by
  rw [held]
  rfl

end Reading

open Reading (field part run_field_bind run_part_bind)

/-- The end of a string is there if the string reaches so far. -/
theorem Bytes.slice?_length {bs : Bytes} {start : Nat} (reaches : start ≤ bs.length) :
    bs.slice? start bs.length = some (bs.drop start) := by
  rw [slice?_eq reaches (Nat.le_refl _), List.take_length]

namespace Housekeeping

/-- Reads the values of the test set. -/
def TestSet.ofBytesChecked? (bs : Bytes) : Reading TestSet := do
  let flag ← field (bs.byteAt? 0)
  let byte ← field (bs.byteAt? 1)
  let half ← field (bs.word16At? 2)
  let word ← field (bs.word32At? 4)
  let first ← field (bs.word32At? 8)
  let second ← field (bs.word32At? 12)
  let validity ← part (bs.slice? 16 bs.length)
  return ⟨flag ≠ 0, byte, half, word, first, second, validity⟩

/-- Reads the values of a navigation receiver. -/
def NavigationSet.ofBytesChecked? (bs : Bytes) : Reading NavigationSet := do
  let fixMode ← field (bs.byteAt? 0)
  let satellites ← field (bs.byteAt? 1)
  let week ← field (bs.word16At? 2)
  let timeOfWeek ← field (bs.word32At? 4)
  let latitude ← field (bs.word32At? 8)
  let longitude ← field (bs.word32At? 12)
  let altitude ← field (bs.word32At? 16)
  let position ← field ([20, 28, 36].mapM bs.word64At?)
  let velocity ← field ([44, 52, 60].mapM bs.word64At?)
  let validity ← part (bs.slice? 68 bs.length)
  return ⟨fixMode, satellites, week, timeOfWeek, latitude, longitude, altitude, position, velocity,
    validity⟩

/-- Reads the values of a structure. -/
def DataSet.ofBytesChecked? (sid : UInt32) (bs : Bytes) : Option DataSet :=
  match layoutOf? sid with
  | some .test => (TestSet.ofBytesChecked? bs).run.map fun v => (v.map DataSet.test).getD .unknown
  | some .navigation =>
    (NavigationSet.ofBytesChecked? bs).run.map fun v => (v.map DataSet.navigation).getD .unknown
  | none => some .unknown

/-- Reads the report in the data of a packet. -/
def ofDataChecked? (subservice : UInt8) (data : Bytes) : Reading Housekeeping := do
  let sid ← field (data.word32At? 0)
  if isDefinition subservice then
    let content ← field (readDefinition? data)
    return ⟨sid, content⟩
  else if isValues subservice then
    let raw ← part (data.slice? 4 data.length)
    let set ← part (DataSet.ofBytesChecked? sid raw)
    return ⟨sid, .values raw set⟩
  else return ⟨sid, .other⟩

theorem TestSet.ofBytesChecked?_eq (bs : Bytes) :
    (ofBytesChecked? bs).run = some (ofBytes? bs) := by
  apply run_field_bind
  intro flag _
  apply run_field_bind
  intro byte _
  apply run_field_bind
  intro half _
  apply run_field_bind
  intro word _
  apply run_field_bind
  intro first _
  apply run_field_bind
  intro second hsecond
  -- The last field ends where the validity begins.
  have hlong : 16 ≤ bs.length := (Bytes.reads_word32At 12).le_length hsecond
  exact run_part_bind (Bytes.slice?_length hlong)

theorem NavigationSet.ofBytesChecked?_eq (bs : Bytes) :
    (ofBytesChecked? bs).run = some (ofBytes? bs) := by
  apply run_field_bind
  intro fixMode _
  apply run_field_bind
  intro satellites _
  apply run_field_bind
  intro week _
  apply run_field_bind
  intro timeOfWeek _
  apply run_field_bind
  intro latitude _
  apply run_field_bind
  intro longitude _
  apply run_field_bind
  intro altitude _
  apply run_field_bind
  intro position _
  apply run_field_bind
  intro velocity hvelocity
  have hlong : 68 ≤ bs.length := (reads_vector 44).le_length hvelocity
  exact run_part_bind (Bytes.slice?_length hlong)

theorem DataSet.ofBytesChecked?_eq (sid : UInt32) (bs : Bytes) :
    ofBytesChecked? sid bs = some (ofBytes sid bs) := by
  unfold ofBytesChecked? ofBytes
  cases layoutOf? sid with
  | none => rfl
  | some layout =>
    cases layout with
    | test =>
      dsimp only
      rw [TestSet.ofBytesChecked?_eq]
      rfl
    | navigation =>
      dsimp only
      rw [NavigationSet.ofBytesChecked?_eq]
      rfl

theorem ofDataChecked?_eq (subservice : UInt8) (data : Bytes) :
    (ofDataChecked? subservice data).run = some (ofData? subservice data) := by
  apply run_field_bind
  intro sid hsid
  have hlong : 4 ≤ data.length := (Bytes.reads_word32At 0).le_length hsid
  unfold Content.ofData?
  by_cases hdefinition : isDefinition subservice = true
  case pos =>
    rw [if_pos hdefinition, if_pos hdefinition]
    apply run_field_bind
    intro content _
    rfl
  rw [if_neg hdefinition, if_neg hdefinition]
  by_cases hvalues : isValues subservice = true
  case pos =>
    rw [if_pos hvalues, if_pos hvalues, run_part_bind (Bytes.slice?_length hlong),
      run_part_bind (DataSet.ofBytesChecked?_eq sid _)]
    rfl
  case neg =>
    rw [if_neg hvalues, if_neg hvalues]
    rfl

end Housekeeping

def ParameterReply.ofDataChecked? (data : Bytes) : Reading ParameterReply := do
  let parameter ← field (data.word32At? 0)
  let payload ← part (data.slice? 4 data.length)
  return ⟨parameter, payload⟩

theorem ParameterReply.ofDataChecked?_eq (data : Bytes) :
    (ofDataChecked? data).run = some (ofData? data) := by
  have hmap : ofData? data = data.word32At? 0 >>= fun parameter => some ⟨parameter, data.drop 4⟩ :=
    Option.map_eq_bind
  rw [hmap]
  apply run_field_bind
  intro parameter hparameter
  have hlong : 4 ≤ data.length := reads_parameter.le_length hparameter
  exact run_part_bind (Bytes.slice?_length hlong)

namespace Report

/-- The report of a service in the data of a packet. -/
def ofServiceChecked? (service : Service) (subservice : UInt8) (data : Bytes) :
    Option (Option Report) :=
  match service with
  | .verification => some ((Verification.ofData? subservice data).map .verification)
  | .housekeeping => (Housekeeping.ofDataChecked? subservice data).run.map (·.map .housekeeping)
  | .event => some ((Event.ofData? subservice data).map .event)
  | .parameter => (ParameterReply.ofDataChecked? data).run.map (·.map .parameter)
  | .mode => some ((ModeReply.ofData? subservice data).map .mode)
  | .deviceAccess | .action | .time | .test => some (some .generic)

/-- The report in a packet, if every part that is taken without a look at the length is there. -/
def ofPacketChecked? (p : Packet) : Option Report :=
  match Service.ofCode? p.service.toNat with
  | some service => (ofServiceChecked? service p.subservice p.data).map (·.getD .generic)
  | none => some .generic

/-- **No part is taken that is not there.** -/
theorem ofPacketChecked?_eq (p : Packet) : ofPacketChecked? p = some (ofPacket p) := by
  have hservice (service : Service) : ofServiceChecked? service p.subservice p.data =
      some (ofService? service p.subservice p.data) := by
    cases service with
    | housekeeping => exact congrArg (Option.map _) (Housekeeping.ofDataChecked?_eq _ _)
    | parameter => exact congrArg (Option.map _) (ParameterReply.ofDataChecked?_eq _)
    | _ => rfl
  unfold ofPacketChecked? ofPacket
  cases Service.ofCode? p.service.toNat with
  | none => rfl
  | some service => exact congrArg (Option.map _) (hservice service)

end Report

/-! ### Octets behind accepted data -/

/-- What follows a verification report is not looked at. -/
theorem Verification.ofData?_append {subservice : UInt8} {data : Bytes} {v : Verification}
    (accepted : ofData? subservice data = some v) (rest : Bytes) :
    ofData? subservice (data ++ rest) = some v := by
  cases hend : Outcome.layoutEnd? subservice with
  | none =>
    rw [ofData?_eq_none hend] at accepted
    cases accepted
  | some n => exact (reads_ofData? hend).append_of_some accepted rest

/-- The payload of a parameter reply is all that follows. -/
theorem ParameterReply.ofData?_append {data : Bytes} {r : ParameterReply}
    (accepted : ofData? data = some r) (rest : Bytes) :
    ofData? (data ++ rest) = some { r with payload := r.payload ++ rest } := by
  obtain ⟨parameter, hparameter, rfl⟩ := Option.map_eq_some_iff.mp accepted
  have hlong : 4 ≤ data.length := reads_parameter.le_length hparameter
  rw [ofData?, reads_parameter.append_of_some hparameter, List.drop_append_of_le_length hlong]
  rfl

namespace Housekeeping

/-- Values with more octets behind them, which extend the validity. -/
def DataSet.extend (rest : Bytes) : DataSet → DataSet
  | .test v => .test { v with validity := v.validity ++ rest }
  | .navigation v => .navigation { v with validity := v.validity ++ rest }
  | .unknown => .unknown

def Content.extend (rest : Bytes) : Content → Content
  | .values raw set => .values (raw ++ rest) (set.extend rest)
  | .definition enabled interval parameters => .definition enabled interval parameters
  | .other => .other

/-- In the first octets, all is read as before if more octets follow. -/
theorem numbers_append {bs : Bytes} {size : Nat} (long : size ≤ bs.length) (rest : Bytes) :
    (∀ i, i + 1 ≤ size → (bs ++ rest).byteAt? i = bs.byteAt? i) ∧
      (∀ i, i + 2 ≤ size → (bs ++ rest).word16At? i = bs.word16At? i) ∧
      (∀ i, i + 4 ≤ size → (bs ++ rest).word32At? i = bs.word32At? i) ∧
      (bs ++ rest).drop size = bs.drop size ++ rest :=
  ⟨fun i inside => (Bytes.reads_byteAt i).append (Nat.le_trans inside long) rest,
    fun i inside => (Bytes.reads_word16At i).append (Nat.le_trans inside long) rest,
    fun i inside => (Bytes.reads_word32At i).append (Nat.le_trans inside long) rest,
    List.drop_append_of_le_length long⟩

theorem TestSet.ofBytes?_append {bs : Bytes} (long : 16 ≤ bs.length) (rest : Bytes) :
    ofBytes? (bs ++ rest) =
      (ofBytes? bs).map fun v => { v with validity := v.validity ++ rest } := by
  obtain ⟨hoctet, hhalf, hword, hvalidity⟩ := numbers_append long rest
  unfold ofBytes?
  rw [hoctet 0 (by decide), hoctet 1 (by decide), hhalf 2 (by decide), hword 4 (by decide),
    hword 8 (by decide), hword 12 (by decide), hvalidity]
  simp only [Option.bind_eq_bind, Option.pure_def, Option.map_bind, Function.comp_def,
    Option.map_some]

theorem NavigationSet.ofBytes?_append {bs : Bytes} (long : 68 ≤ bs.length) (rest : Bytes) :
    ofBytes? (bs ++ rest) =
      (ofBytes? bs).map fun v => { v with validity := v.validity ++ rest } := by
  obtain ⟨hoctet, hhalf, hword, hvalidity⟩ := numbers_append long rest
  have hvector (i : Nat) (inside : i + 24 ≤ 68) :
      [i, i + 8, i + 16].mapM (bs ++ rest).word64At? = [i, i + 8, i + 16].mapM bs.word64At? :=
    (reads_vector i).append (Nat.le_trans inside long) rest
  unfold ofBytes?
  rw [hoctet 0 (by decide), hoctet 1 (by decide), hhalf 2 (by decide), hword 4 (by decide),
    hword 8 (by decide), hword 12 (by decide), hword 16 (by decide), hvector 20 (by decide),
    hvector 44 (by decide), hvalidity]
  simp only [Option.bind_eq_bind, Option.pure_def, Option.map_bind, Function.comp_def,
    Option.map_some]

/-- Octets behind complete values extend their validity. -/
theorem Layout.read?_append {layout : Layout} {bs : Bytes} (long : layout.size ≤ bs.length)
    (rest : Bytes) : layout.read? (bs ++ rest) = (layout.read? bs).map (·.extend rest) := by
  cases layout with
  | test =>
    have hread := TestSet.ofBytes?_append long rest
    rw [read?, hread, read?, Option.map_map, Option.map_map]
    rfl
  | navigation =>
    have hread := NavigationSet.ofBytes?_append long rest
    rw [read?, hread, read?, Option.map_map, Option.map_map]
    rfl

/-- **Octets behind values** extend the validity, unless a layout is known and the values are
incomplete. -/
theorem DataSet.ofBytes_append {sid : UInt32} {bs : Bytes}
    (complete : ofBytes sid bs = .unknown → layoutOf? sid = none) (rest : Bytes) :
    ofBytes sid (bs ++ rest) = (ofBytes sid bs).extend rest := by
  unfold ofBytes at complete ⊢
  cases hlayout : layoutOf? sid with
  | none => rfl
  | some layout =>
    rw [hlayout] at complete
    dsimp only at complete ⊢
    cases hread : layout.read? bs with
    | none =>
      rw [hread] at complete
      exact nomatch complete rfl
    | some set =>
      have hlong : layout.size ≤ bs.length := layout.needs_read?.le_length hread
      rw [Layout.read?_append hlong, hread]
      rfl

/-- What is accepted as a report. -/
theorem ofData?_eq_some_iff {subservice : UInt8} {data : Bytes} {h : Housekeeping} :
    ofData? subservice data = some h ↔ data.word32At? 0 = some h.sid ∧
      Content.ofData? subservice h.sid data = some h.content := by
  unfold ofData?
  simp only [Option.bind_eq_bind, Option.bind_eq_some_iff, Option.pure_def, Option.some.injEq]
  constructor
  · rintro ⟨sid, hsid, content, hcontent, rfl⟩
    exact ⟨hsid, hcontent⟩
  · rintro ⟨hsid, hcontent⟩
    exact ⟨h.sid, hsid, h.content, hcontent, rfl⟩

/-- What is read as a definition is one. -/
theorem eq_definition_of_read {data : Bytes} {content : Content}
    (accepted : readDefinition? data = some content) :
    ∃ enabled interval parameters, content = .definition enabled interval parameters := by
  unfold readDefinition? at accepted
  simp only [Option.bind_eq_bind, Option.bind_eq_some_iff, Option.pure_def, Option.some.injEq]
    at accepted
  obtain ⟨flag, -, interval, -, count, -, parameters, -, rfl⟩ := accepted
  exact ⟨_, interval, parameters, rfl⟩

/-- **Octets behind the content of a report** are not looked at or extend its values. -/
theorem Content.ofData?_append {subservice : UInt8} {sid : UInt32} {data : Bytes}
    {content : Content} (accepted : Content.ofData? subservice sid data = some content)
    (complete : (Housekeeping.mk sid content).isIncomplete = false) (long : 4 ≤ data.length)
    (rest : Bytes) :
    Content.ofData? subservice sid (data ++ rest) = some (content.extend rest) := by
  unfold Content.ofData? at accepted ⊢
  -- Definitions are read up to their count, values to the end of the data.
  by_cases hdefinition : isDefinition subservice = true
  case pos =>
    rw [if_pos hdefinition] at accepted ⊢
    have hheld : 10 + 4 * (data.getD 9 0).toNat ≤ data.length := by
      rw [← isSome_readDefinition?, accepted]
      rfl
    obtain ⟨enabled, interval, parameters, rfl⟩ := eq_definition_of_read accepted
    rw [readDefinition?_append hheld, accepted]
    rfl
  rw [if_neg hdefinition] at accepted ⊢
  by_cases hvalues : isValues subservice = true
  case pos =>
    rw [if_pos hvalues] at accepted ⊢
    obtain rfl := Option.some.inj accepted
    -- Values that are complete do not change their layout with more octets.
    have hcomplete : DataSet.ofBytes sid (data.drop 4) = .unknown → layoutOf? sid = none := by
      intro hunknown
      rw [isIncomplete, hunknown] at complete
      exact Option.not_isSome_iff_eq_none.mp (Bool.eq_false_iff.mp complete)
    rw [List.drop_append_of_le_length long, DataSet.ofBytes_append hcomplete]
    rfl
  case neg =>
    rw [if_neg hvalues] at accepted ⊢
    obtain rfl := Option.some.inj accepted
    rfl

/-- **A report of values** holds all that stands behind the structure identifier. -/
theorem ofData?_of_isValues {subservice : UInt8} (values : isValues subservice = true)
    (data : Bytes) : ofData? subservice data = (data.word32At? 0).map fun sid =>
      ⟨sid, .values (data.drop 4) (DataSet.ofBytes sid (data.drop 4))⟩ := by
  have hdefinition : ¬ isDefinition subservice = true := by
    intro hdefinition
    simp only [isValues, isDefinition, Bool.or_eq_true, decide_eq_true_eq] at values hdefinition
    obtain rfl | rfl := values <;> exact absurd hdefinition (by decide)
  unfold ofData? Content.ofData?
  rw [Option.map_eq_bind]
  simp only [if_neg hdefinition, if_pos values]
  rfl

def extend (rest : Bytes) (h : Housekeeping) : Housekeeping :=
  { h with content := h.content.extend rest }

section Append

variable {subservice : UInt8} {data : Bytes} {h : Housekeeping}
  (accepted : ofData? subservice data = some h)

include accepted

/-- **Octets behind a report** are not looked at or extend its values. -/
theorem ofData?_append (complete : h.isIncomplete = false) (rest : Bytes) :
    ofData? subservice (data ++ rest) = some (h.extend rest) := by
  obtain ⟨hsid, hcontent⟩ := ofData?_eq_some_iff.mp accepted
  have hlong : 4 ≤ data.length := (Bytes.reads_word32At 0).le_length hsid
  rw [ofData?_eq_some_iff]
  constructor
  · rw [(Bytes.reads_word32At 0).append hlong, hsid]
    rfl
  · exact Content.ofData?_append hcontent complete hlong rest

/-- A report of values holds those of its structure. -/
theorem content_of_isValues (values : isValues subservice = true) :
    h.content = .values (data.drop 4) (DataSet.ofBytes h.sid (data.drop 4)) := by
  rw [ofData?_of_isValues values, Option.map_eq_some_iff] at accepted
  obtain ⟨sid, -, rfl⟩ := accepted
  rfl

/-- Only values are incomplete. -/
theorem isValues_of_isIncomplete (incomplete : h.isIncomplete = true) :
    isValues subservice = true := by
  obtain ⟨-, hcontent⟩ := ofData?_eq_some_iff.mp accepted
  unfold Content.ofData? at hcontent
  by_cases hdefinition : isDefinition subservice = true
  case pos =>
    rw [if_pos hdefinition] at hcontent
    obtain ⟨enabled, interval, parameters, heq⟩ := eq_definition_of_read hcontent
    rw [isIncomplete, heq] at incomplete
    exact absurd incomplete Bool.false_ne_true
  by_contra hvalues
  rw [if_neg hdefinition, if_neg hvalues] at hcontent
  have hother : h.content = .other := (Option.some.inj hcontent).symm
  rw [isIncomplete, hother] at incomplete
  exact Bool.false_ne_true incomplete

/-- **Values that are incomplete** are unknown, and remain so until the octets behind them complete
them. -/
theorem ofData?_append_incomplete (incomplete : h.isIncomplete = true) (rest : Bytes) :
    h.content = .values (data.drop 4) .unknown ∧
      ofData? subservice (data ++ rest) = some ⟨h.sid, .values (data.drop 4 ++ rest)
        (DataSet.ofBytes h.sid (data.drop 4 ++ rest))⟩ := by
  obtain ⟨hsid, -⟩ := ofData?_eq_some_iff.mp accepted
  have hlong : 4 ≤ data.length := (Bytes.reads_word32At 0).le_length hsid
  have hvalues := isValues_of_isIncomplete accepted incomplete
  have hcontent := content_of_isValues accepted hvalues
  constructor
  · rw [isIncomplete, hcontent] at incomplete
    rw [hcontent]
    cases hset : DataSet.ofBytes h.sid (data.drop 4) with
    | unknown => rfl
    | test v | navigation v =>
      rw [hset] at incomplete
      exact absurd incomplete Bool.false_ne_true
  · rw [ofData?_of_isValues hvalues, (Bytes.reads_word32At 0).append hlong, hsid,
      List.drop_append_of_le_length hlong]
    rfl

end Append

/-! ### The sets of values -/

theorem layoutOf?_eq_navigation_iff (sid : UInt32) :
    layoutOf? sid = some .navigation ↔ sid = navigation0 ∨ sid = navigation1 := by
  unfold layoutOf?
  split
  case isTrue hnavigation => exact iff_of_true rfl hnavigation
  case isFalse hother =>
    refine iff_of_false ?_ hother
    split <;> exact nofun

theorem layoutOf?_eq_test_iff (sid : UInt32) :
    layoutOf? sid = some .test ↔ sid = testStructure ∨ sid = customStructure := by
  unfold layoutOf?
  split
  case isTrue hnavigation =>
    refine iff_of_false nofun ?_
    obtain rfl | rfl := hnavigation <;> decide
  case isFalse =>
    split
    case isTrue htest => exact iff_of_true rfl htest
    case isFalse hother => exact iff_of_false nofun hother

section Sets

variable (sid : UInt32) (bs : Bytes)

/-- **Values of a navigation receiver** are read if the structure is that of one and they are
complete. -/
theorem DataSet.exists_navigation_iff : (∃ v, ofBytes sid bs = .navigation v) ↔
    (sid = navigation0 ∨ sid = navigation1) ∧ 68 ≤ bs.length := by
  rw [← layoutOf?_eq_navigation_iff, ← NavigationSet.needs_ofBytes?.isSome_iff]
  unfold ofBytes
  cases layoutOf? sid with
  | none => exact iff_of_false nofun nofun
  | some layout =>
    cases layout with
    | test =>
      refine iff_of_false ?_ nofun
      dsimp only [Layout.read?]
      cases TestSet.ofBytes? bs <;> exact nofun
    | navigation =>
      dsimp only [Layout.read?]
      cases NavigationSet.ofBytes? bs with
      | none => exact iff_of_false nofun nofun
      | some v => exact iff_of_true ⟨v, rfl⟩ ⟨rfl, rfl⟩

/-- **Values of the test set** are read if the structure has its layout and they are complete. -/
theorem DataSet.exists_test_iff : (∃ v, ofBytes sid bs = .test v) ↔
    (sid = testStructure ∨ sid = customStructure) ∧ 16 ≤ bs.length := by
  rw [← layoutOf?_eq_test_iff, ← TestSet.needs_ofBytes?.isSome_iff]
  unfold ofBytes
  cases layoutOf? sid with
  | none => exact iff_of_false nofun nofun
  | some layout =>
    cases layout with
    | navigation =>
      refine iff_of_false ?_ nofun
      dsimp only [Layout.read?]
      cases NavigationSet.ofBytes? bs <;> exact nofun
    | test =>
      dsimp only [Layout.read?]
      cases TestSet.ofBytes? bs with
      | none => exact iff_of_false nofun nofun
      | some v => exact iff_of_true ⟨v, rfl⟩ ⟨rfl, rfl⟩

end Sets

end Housekeeping

/-! ### The grammar -/

namespace Service

/-- A service is known by its number only. -/
theorem ofCode?_eq_some_iff {n : UInt8} {service : Service} :
    ofCode? n.toNat = some service ↔ n = service.code := by
  have hcode : ofCode? service.code.toNat = some service := by
    cases service <;> rfl
  constructor
  · intro h
    rw [← UInt8.toNat_inj]
    unfold ofCode? at h
    split at h <;> cases h <;> assumption
  · rintro rfl
    exact hcode

end Service

namespace Report

def extend (rest : Bytes) : Report → Report
  | .housekeeping h => .housekeeping (h.extend rest)
  | .parameter r => .parameter { r with payload := r.payload ++ rest }
  | .verification v => .verification v
  | .event e => .event e
  | .mode r => .mode r
  | .generic => .generic

/-- The report of a packet of a known service. -/
theorem ofPacket_of_service {p : Packet} {service : Service} (hservice : p.service = service.code) :
    ofPacket p = (ofService? service p.subservice p.data).getD .generic := by
  have hcode : Service.ofCode? p.service.toNat = some service :=
    Service.ofCode?_eq_some_iff.mpr hservice
  rw [ofPacket, hcode]

/-- **A report that is not generic** is that of a known service which accepts the data. -/
theorem ofPacket_eq_iff {p : Packet} {report : Report} (typed : report ≠ .generic) :
    ofPacket p = report ↔ ∃ service : Service, p.service = service.code ∧
      ofService? service p.subservice p.data = some report := by
  constructor
  · intro h
    unfold ofPacket at h
    split at h
    case h_1 service hcode =>
      refine ⟨service, Service.ofCode?_eq_some_iff.mp hcode, ?_⟩
      cases hread : ofService? service p.subservice p.data with
      | none =>
        rw [hread] at h
        exact absurd h.symm typed
      | some found =>
        rw [hread] at h
        exact congrArg some h
    case h_2 => exact absurd h.symm typed
  · rintro ⟨service, hservice, hread⟩
    rw [ofPacket_of_service hservice, hread]
    rfl

/-- The service that a report is of. -/
def service? : Report → Option Service
  | .verification _ => some .verification
  | .housekeeping _ => some .housekeeping
  | .event _ => some .event
  | .parameter _ => some .parameter
  | .mode _ => some .mode
  | .generic => none

/-- A service gives only its own reports. -/
theorem service?_of_ofService? {service : Service} {subservice : UInt8} {data : Bytes}
    {report : Report} (typed : report ≠ .generic)
    (accepted : ofService? service subservice data = some report) :
    report.service? = some service := by
  cases service with
  | deviceAccess | action | time | test => exact absurd (Option.some.inj accepted).symm typed
  | verification | housekeeping | event | parameter | mode =>
    obtain ⟨found, -, rfl⟩ := Option.map_eq_some_iff.mp accepted
    rfl

/-- **Which packets give the reports of a service**: those in whose data they are found. -/
theorem exists_ofPacket_iff (p : Packet) {service : Service} {α : Type} {wrap : α → Report}
    {read : Option α} (kind : ∀ x, (wrap x).service? = some service)
    (own : ofService? service p.subservice p.data = read.map wrap) :
    (∃ x, ofPacket p = wrap x) ↔ p.service = service.code ∧ read.isSome = true := by
  have typed (x : α) : wrap x ≠ .generic := by
    intro h
    have hkind := kind x
    rw [h] at hkind
    cases hkind
  constructor
  · rintro ⟨x, hx⟩
    obtain ⟨other, hother, hread⟩ := (ofPacket_eq_iff (typed x)).mp hx
    have hsame := (service?_of_ofService? (typed x) hread).symm.trans (kind x)
    obtain rfl := Option.some.inj hsame
    rw [own, Option.map_eq_some_iff] at hread
    obtain ⟨y, hy, -⟩ := hread
    rw [hy]
    exact ⟨hother, rfl⟩
  · rintro ⟨hservice, hsome⟩
    obtain ⟨x, hx⟩ := Option.isSome_iff_exists.mp hsome
    refine ⟨x, (ofPacket_eq_iff (typed x)).mpr ⟨service, hservice, ?_⟩⟩
    rw [own, hx]
    rfl

/-- A housekeeping report was found in the data. -/
theorem accepted_of_housekeeping {p : Packet} {h : Housekeeping}
    (report : ofPacket p = .housekeeping h) :
    p.service = 3 ∧ Housekeeping.ofData? p.subservice p.data = some h := by
  have htyped : housekeeping h ≠ .generic := nofun
  obtain ⟨service, hservice, hread⟩ := (ofPacket_eq_iff htyped).mp report
  have hkind := service?_of_ofService? htyped hread
  obtain rfl := Option.some.inj hkind
  obtain ⟨g, hg, hsame⟩ := Option.map_eq_some_iff.mp hread
  obtain rfl := Report.housekeeping.inj hsame
  exact ⟨hservice, hg⟩

/-- Every other packet is generic. -/
theorem ofPacket_eq_generic_iff (p : Packet) : ofPacket p = .generic ↔
    ¬ ((∃ v, ofPacket p = .verification v) ∨ (∃ h, ofPacket p = .housekeeping h) ∨
      (∃ e, ofPacket p = .event e) ∨ (∃ r, ofPacket p = .parameter r) ∨
      ∃ r, ofPacket p = .mode r) := by
  cases ofPacket p <;> simp

/-- **Octets behind accepted data** extend the report, unless they may complete its values. -/
theorem ofService?_append {service : Service} {subservice : UInt8} {data : Bytes} {report : Report}
    (accepted : ofService? service subservice data = some report)
    (complete : ∀ h, report = .housekeeping h → h.isIncomplete = false) (rest : Bytes) :
    ofService? service subservice (data ++ rest) = some (report.extend rest) := by
  cases service with
  | deviceAccess | action | time | test =>
    obtain rfl := Option.some.inj accepted
    rfl
  | verification =>
    obtain ⟨v, hread, rfl⟩ := Option.map_eq_some_iff.mp accepted
    exact congrArg (Option.map _) (Verification.ofData?_append hread rest)
  | housekeeping =>
    obtain ⟨h, hread, rfl⟩ := Option.map_eq_some_iff.mp accepted
    exact congrArg (Option.map _) (Housekeeping.ofData?_append hread (complete h rfl) rest)
  | event =>
    obtain ⟨e, hread, rfl⟩ := Option.map_eq_some_iff.mp accepted
    exact congrArg (Option.map _) ((Event.reads_ofData? subservice).append_of_some hread rest)
  | parameter =>
    obtain ⟨r, hread, rfl⟩ := Option.map_eq_some_iff.mp accepted
    exact congrArg (Option.map _) (ParameterReply.ofData?_append hread rest)
  | mode =>
    obtain ⟨r, hread, rfl⟩ := Option.map_eq_some_iff.mp accepted
    exact congrArg (Option.map _) ((ModeReply.reads_ofData? subservice).append_of_some hread rest)

/-- **Octets behind the data of a packet** extend its report, unless they may complete its
values. -/
theorem ofPacket_append {p : Packet} (typed : ofPacket p ≠ .generic)
    (complete : ∀ h, ofPacket p = .housekeeping h → h.isIncomplete = false) (rest : Bytes) :
    ofPacket { p with data := p.data ++ rest } = (ofPacket p).extend rest := by
  obtain ⟨service, hservice, hread⟩ := (ofPacket_eq_iff typed).mp rfl
  have hlonger := ofService?_append hread complete rest
  have hlongerPacket : ofPacket { p with data := p.data ++ rest } =
      (ofService? service p.subservice (p.data ++ rest)).getD .generic :=
    ofPacket_of_service hservice
  rw [hlongerPacket, hlonger]
  rfl

end Report

/-- The lengths of verification reports. -/
theorem Verification.isSome_ofData?_iff (subservice : UInt8) (data : Bytes) :
    (ofData? subservice data).isSome = true ↔
      ((subservice = 1 ∨ subservice = 3 ∨ subservice = 7) ∧ 4 ≤ data.length ∨
        (subservice = 2 ∨ subservice = 4 ∨ subservice = 8) ∧ 14 ≤ data.length ∨
        subservice = 5 ∧ 5 ≤ data.length ∨ subservice = 6 ∧ 15 ≤ data.length) := by
  cases hend : Outcome.layoutEnd? subservice with
  | none =>
    rw [ofData?_eq_none hend]
    refine iff_of_false nofun ?_
    rintro (⟨rfl | rfl | rfl, -⟩ | ⟨rfl | rfl | rfl, -⟩ | ⟨rfl, -⟩ | ⟨rfl, -⟩) <;> cases hend
  | some n =>
    rw [(reads_ofData? hend).isSome_iff]
    unfold Outcome.layoutEnd? at hend
    split at hend <;> cases hend <;> simp

/-- The lengths of mode replies. -/
theorem ModeReply.isSome_ofData?_iff (subservice : UInt8) (data : Bytes) :
    (ofData? subservice data).isSome = true ↔ 4 ≤ data.length ∧
      (subservice = 7 → 6 ≤ data.length) ∧ (subservice = 6 ∨ subservice = 8 → 9 ≤ data.length) := by
  rw [(reads_ofData? subservice).isSome_iff]
  unfold layoutSize
  split
  case h_1 | h_2 =>
    constructor
    · intro hlong
      exact ⟨Nat.le_trans (by decide) hlong, fun h => absurd h (by decide), fun _ => hlong⟩
    · rintro ⟨-, -, hlong⟩
      exact hlong (by decide)
  case h_3 =>
    constructor
    · intro hlong
      exact ⟨Nat.le_trans (by decide) hlong, fun _ => hlong, fun h => absurd h (by decide)⟩
    · rintro ⟨-, hlong, -⟩
      exact hlong rfl
  case h_4 hreached hwrong hunreachable =>
    refine (and_iff_left ⟨?_, ?_⟩).symm
    · exact fun h => absurd h hunreachable
    · exact fun h => h.elim (absurd · hreached) (absurd · hwrong)

/-- The lengths of housekeeping reports. -/
theorem Housekeeping.isSome_ofData?_iff (subservice : UInt8) (data : Bytes) :
    (ofData? subservice data).isSome = true ↔ 4 ≤ data.length ∧
      (subservice = 10 ∨ subservice = 12 →
        10 ≤ data.length ∧ 10 + 4 * (data.getD 9 0).toNat ≤ data.length) := by
  rw [isSome_ofData?]
  refine and_congr_right fun _ => ?_
  simp only [isDefinition, Bool.or_eq_true, decide_eq_true_eq]
  refine forall_congr' fun _ => ⟨fun hheld => ⟨?_, hheld⟩, And.right⟩
  omega

namespace Report

/-- **The values of a housekeeping structure** are read if its layout is known and they are
complete. -/
theorem sets_of_housekeeping {p : Packet} {h : Housekeeping}
    (reported : ofPacket p = .housekeeping h) (values : p.subservice = 25 ∨ p.subservice = 26) :
    p.data.word32At? 0 = some h.sid ∧ ∃ set, h.content = .values (p.data.drop 4) set ∧
      ((∃ v, set = .navigation v) ↔
        (h.sid = 0x1F00 ∨ h.sid = 0x2F00) ∧ 72 ≤ p.data.length) ∧
      ((∃ v, set = .test v) ↔ (h.sid = 0x4300 ∨ h.sid = 0x4400) ∧ 20 ≤ p.data.length) := by
  have hvalues : Housekeeping.isValues p.subservice = true := by
    rw [Housekeeping.isValues, Bool.or_eq_true, decide_eq_true_eq, decide_eq_true_eq]
    exact values
  obtain ⟨-, haccepted⟩ := accepted_of_housekeeping reported
  have hlength : (p.data.drop 4).length = p.data.length - 4 := List.length_drop
  refine ⟨(Housekeeping.ofData?_eq_some_iff.mp haccepted).1, _,
    Housekeeping.content_of_isValues haccepted hvalues, ?_, ?_⟩
  · rw [Housekeeping.DataSet.exists_navigation_iff, hlength]
    exact and_congr_right fun _ => by omega
  · rw [Housekeeping.DataSet.exists_test_iff, hlength]
    exact and_congr_right fun _ => by omega

/-- **Octets behind accepted data** extend the report, or follow values that are incomplete for a
known layout, which are then read again. -/
theorem ofPacket_append_cases {p : Packet} (typed : ofPacket p ≠ .generic) (rest : Bytes) :
    ofPacket { p with data := p.data ++ rest } = (ofPacket p).extend rest ∨
      ∃ h, ofPacket p = .housekeeping h ∧ h.isIncomplete = true ∧
        h.content = .values (p.data.drop 4) .unknown ∧
        ofPacket { p with data := p.data ++ rest } =
          .housekeeping ⟨h.sid, .values (p.data.drop 4 ++ rest)
            (Housekeeping.DataSet.ofBytes h.sid (p.data.drop 4 ++ rest))⟩ := by
  by_cases hcomplete : ∀ h, ofPacket p = .housekeeping h → h.isIncomplete = false
  case pos => exact .inl (ofPacket_append typed hcomplete rest)
  case neg =>
    push Not at hcomplete
    obtain ⟨h, hreport, hcomplete⟩ := hcomplete
    have hincomplete : h.isIncomplete = true := Bool.eq_true_of_not_eq_false hcomplete
    obtain ⟨hservice, haccepted⟩ := accepted_of_housekeeping hreport
    obtain ⟨hcontent, hlonger⟩ :=
      Housekeeping.ofData?_append_incomplete haccepted hincomplete rest
    refine .inr ⟨h, hreport, hincomplete, hcontent, ?_⟩
    have hread : ofPacket { p with data := p.data ++ rest } =
        (ofService? .housekeeping p.subservice (p.data ++ rest)).getD .generic :=
      ofPacket_of_service hservice
    rw [hread]
    exact congrArg (fun found => (Option.map _ found).getD _) hlonger

/-- **Typed decoding accepts exactly the layouts**, and takes no part that is not there.  The
service, the subservice and the number of octets decide which report a packet gives; every other
packet is generic.  The values of a housekeeping structure are read if its layout is known and they
are complete.  Octets behind accepted data keep the report and make only its payload, its values and
their validity longer, except that values which are incomplete for a known layout may become
complete. -/
theorem ofPacket_grammar (p : Packet) :
    let s := p.subservice
    let n := p.data.length
    let isVerification := p.service = 1 ∧ ((s = 1 ∨ s = 3 ∨ s = 7) ∧ 4 ≤ n ∨
      (s = 2 ∨ s = 4 ∨ s = 8) ∧ 14 ≤ n ∨ s = 5 ∧ 5 ≤ n ∨ s = 6 ∧ 15 ≤ n)
    let isHousekeeping := p.service = 3 ∧ 4 ≤ n ∧
      (s = 10 ∨ s = 12 → 10 ≤ n ∧ 10 + 4 * (p.data.getD 9 0).toNat ≤ n)
    let isEvent := p.service = 5 ∧ 14 ≤ n
    let isParameter := p.service = 20 ∧ 4 ≤ n
    let isMode := p.service = 200 ∧ 4 ≤ n ∧ (s = 7 → 6 ≤ n) ∧ (s = 6 ∨ s = 8 → 9 ≤ n)
    ((∃ v, ofPacket p = .verification v) ↔ isVerification) ∧
      ((∃ h, ofPacket p = .housekeeping h) ↔ isHousekeeping) ∧
      ((∃ e, ofPacket p = .event e) ↔ isEvent) ∧
      ((∃ r, ofPacket p = .parameter r) ↔ isParameter) ∧
      ((∃ r, ofPacket p = .mode r) ↔ isMode) ∧
      (ofPacket p = .generic ↔
        ¬ (isVerification ∨ isHousekeeping ∨ isEvent ∨ isParameter ∨ isMode)) ∧
      (∀ h, ofPacket p = .housekeeping h → s = 25 ∨ s = 26 →
        p.data.word32At? 0 = some h.sid ∧ ∃ set, h.content = .values (p.data.drop 4) set ∧
          ((∃ v, set = .navigation v) ↔ (h.sid = 0x1F00 ∨ h.sid = 0x2F00) ∧ 72 ≤ n) ∧
          ((∃ v, set = .test v) ↔ (h.sid = 0x4300 ∨ h.sid = 0x4400) ∧ 20 ≤ n)) ∧
      ofPacketChecked? p = some (ofPacket p) ∧
      (ofPacket p ≠ .generic → ∀ rest,
        let longer := ofPacket { p with data := p.data ++ rest }
        longer = (ofPacket p).extend rest ∨
          ∃ h, ofPacket p = .housekeeping h ∧ h.isIncomplete = true ∧
            h.content = .values (p.data.drop 4) .unknown ∧
            longer = .housekeeping ⟨h.sid, .values (p.data.drop 4 ++ rest)
              (Housekeeping.DataSet.ofBytes h.sid (p.data.drop 4 ++ rest))⟩) := by
  intro s n isVerification isHousekeeping isEvent isParameter isMode
  have hverification : (∃ v, ofPacket p = .verification v) ↔ isVerification :=
    (exists_ofPacket_iff p (fun _ => rfl) rfl).trans
      (and_congr_right fun _ => Verification.isSome_ofData?_iff _ _)
  have hhousekeeping : (∃ h, ofPacket p = .housekeeping h) ↔ isHousekeeping :=
    (exists_ofPacket_iff p (fun _ => rfl) rfl).trans
      (and_congr_right fun _ => Housekeeping.isSome_ofData?_iff _ _)
  have hevent : (∃ e, ofPacket p = .event e) ↔ isEvent :=
    (exists_ofPacket_iff p (fun _ => rfl) rfl).trans
      (and_congr_right fun _ => (Event.reads_ofData? _).isSome_iff _)
  have hparameter : (∃ r, ofPacket p = .parameter r) ↔ isParameter :=
    (exists_ofPacket_iff p (fun _ => rfl) rfl).trans
      (and_congr_right fun _ => (Option.isSome_map ..).symm ▸
        ParameterReply.reads_parameter.isSome_iff _)
  have hmode : (∃ r, ofPacket p = .mode r) ↔ isMode :=
    (exists_ofPacket_iff p (fun _ => rfl) rfl).trans
      (and_congr_right fun _ => ModeReply.isSome_ofData?_iff _ _)
  refine ⟨hverification, hhousekeeping, hevent, hparameter, hmode, ?generic, ?sets,
    ofPacketChecked?_eq p, ?longer⟩
  case generic =>
    rw [ofPacket_eq_generic_iff, hverification, hhousekeeping, hevent, hparameter, hmode]
  case sets => exact fun h reported values => sets_of_housekeeping reported values
  case longer => exact fun typed rest => ofPacket_append_cases typed rest

/-- The exception does occur: telemetry holds one octet less than the values of a navigation
receiver.  With one octet more they are no longer unknown. -/
theorem ofPacket_append_completes :
    let values (n : Nat) : Telemetry := ⟨0x73, 3, 25, 1, 0, ⟨0, 0⟩, [0, 0, 0x1F, 0] ++
      List.replicate n 0⟩
    ∃ short long, (values 67).toBytes?.bind Packet.decode = .ok short ∧
      (values 68).toBytes?.bind Packet.decode = .ok long ∧
      long.service = short.service ∧ long.subservice = short.subservice ∧
      long.data = short.data ++ [0] ∧
      ofPacket short = .housekeeping ⟨0x1F00, .values (List.replicate 67 0) .unknown⟩ ∧
      ofPacket long = .housekeeping ⟨0x1F00, .values (List.replicate 68 0)
        (.navigation ⟨0, 0, 0, 0, 0, 0, 0, [0, 0, 0], [0, 0, 0], []⟩)⟩ := by
  intro values
  have hdecode (n : Nat) (fits : (values n).data.length ≤ Telemetry.maxData) :
      (values n).toBytes?.bind Packet.decode =
        Packet.decode (Checksum.close (values n).covered ++ []) := by
    rw [Telemetry.toBytes?, if_pos fits, List.append_nil]
    rfl
  have hshort : (values 67).data.length ≤ Telemetry.maxData := by decide
  have hlong : (values 68).data.length ≤ Telemetry.maxData := by decide
  refine ⟨_, _, (hdecode 67 hshort).trans (Telemetry.decode_close_append hshort []),
    (hdecode 68 hlong).trans (Telemetry.decode_close_append hlong []), rfl, rfl, ?_⟩
  decide +kernel

end Report

end GroundLink
