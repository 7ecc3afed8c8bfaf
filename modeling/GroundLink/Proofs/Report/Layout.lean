import GroundLink.Proofs.Packet.Header
import GroundLink.Report.Basic
import Mathlib.Data.List.MinMax
import Mathlib.Order.Nat

/-!
# Layouts of report data

Report data are read field by field at fixed offsets.  A reader of a layout of `n` octets
(`Bytes.Reads n`) finds its fields exactly in the strings of at least `n` octets, and does not look
at what follows these.  There is one rule for each way in which readers are put together, so that
the size of a layout is read off its definition.

* `Verification.reads_ofData?`, `Event.reads_ofData?`, `ModeReply.reads_ofData?` and
  `ParameterReply.reads_parameter` are the layouts of the reports,
* `Housekeeping.TestSet.needs_ofBytes?` and `Housekeeping.NavigationSet.needs_ofBytes?` those of
  the known sets of values, and
* `Housekeeping.isSome_readDefinition?` that of a definition, which says itself how long it is.
-/

namespace GroundLink

namespace Bytes

/-! ### Readers of a layout -/

/-- A reader that finds something exactly in the strings of at least `n` octets. -/
structure Needs {α : Type} (n : Nat) (read : Bytes → Option α) : Prop where
  isSome_iff (bs : Bytes) : (read bs).isSome = true ↔ n ≤ bs.length

/-- A reader of a layout of `n` octets: it finds its fields exactly in the strings that are long
enough, and does not look at what follows. -/
structure Reads {α : Type} (n : Nat) (read : Bytes → Option α) : Prop extends Needs n read where
  append {bs : Bytes} (long : n ≤ bs.length) (rest : Bytes) : read (bs ++ rest) = read bs

section Rules

variable {α β : Type} {n m : Nat} {read : Bytes → Option α} {next : α → Bytes → Option β}

namespace Needs

theorem eq_none_iff (h : Needs n read) (bs : Bytes) : read bs = none ↔ bs.length < n := by
  rw [← Option.not_isSome_iff_eq_none, h.isSome_iff, Nat.not_le]

/-- A string in which something was found is long enough. -/
theorem le_length (h : Needs n read) {bs : Bytes} {x : α} (found : read bs = some x) :
    n ≤ bs.length := by
  rw [← h.isSome_iff, found]
  rfl

theorem pure (f : Bytes → α) : Needs 0 fun bs => some (f bs) where
  isSome_iff _ := ⟨fun _ => Nat.zero_le _, fun _ => rfl⟩

theorem bind (first : Needs n read) (second : ∀ x, Needs m (next x)) :
    Needs (max n m) fun bs => read bs >>= fun x => next x bs where
  isSome_iff bs := by
    rw [Nat.max_le, ← first.isSome_iff]
    cases hread : read bs with
    | none => simp
    | some x => simp [(second x).isSome_iff]

end Needs

namespace Reads

theorem of_eq (h : Reads n read) (size : n = m) : Reads m read := size ▸ h

/-- What follows the fields that were found is not looked at. -/
theorem append_of_some (h : Reads n read) {bs : Bytes} {x : α} (found : read bs = some x)
    (rest : Bytes) : read (bs ++ rest) = some x :=
  (h.append (h.le_length found) rest).trans found

theorem pure (x : α) : Reads 0 fun _ => some x where
  toNeeds := .pure fun _ => x
  append _ _ := rfl

theorem map (h : Reads n read) (f : α → β) : Reads n fun bs => (read bs).map f where
  isSome_iff bs := by rw [Option.isSome_map, h.isSome_iff]
  append long rest := congrArg (Option.map f) (h.append long rest)

/-- **One field after another.**  What the second reader looks for may depend on what the first one
found, its size does not. -/
theorem bind (first : Reads n read) (second : ∀ x, Reads m (next x)) :
    Reads (max n m) fun bs => read bs >>= fun x => next x bs where
  toNeeds := first.toNeeds.bind fun x => (second x).toNeeds
  append {bs} long rest := by
    obtain ⟨hfirst, hsecond⟩ := Nat.max_le.mp long
    rw [first.append hfirst]
    exact congrArg _ (funext fun x => (second x).append hsecond rest)

/-- **A field for each member of a list.**  The layout is as long as the longest of its parts. -/
theorem mapM {γ : Type} {field : γ → Bytes → Option α} {size : γ → Nat} {parts : List γ}
    (each : ∀ i ∈ parts, Reads (size i) (field i)) :
    Reads ((parts.map size).foldr max 0) fun bs => parts.mapM fun i => field i bs := by
  induction parts with
  | nil => exact pure []
  | cons i rest ih =>
    have hrest := ih fun j hj => each j (List.mem_cons_of_mem i hj)
    have hboth := (each i List.mem_cons_self).bind fun x => hrest.bind fun xs => pure (x :: xs)
    have hcons : (fun bs => (i :: rest).mapM fun j => field j bs) = fun bs =>
        field i bs >>= fun x => (rest.mapM fun j => field j bs) >>= fun xs => some (x :: xs) :=
      funext fun bs => List.mapM_cons
    rw [hcons]
    exact hboth.of_eq (by rw [Nat.max_zero, List.map_cons, List.foldr_cons])

/-- The same layout behind the first `i` octets. -/
theorem behind (h : Reads n read) (pos : 0 < n) (i : Nat) :
    Reads (i + n) fun bs => read (bs.drop i) where
  isSome_iff bs := by
    rw [h.isSome_iff, List.length_drop]
    omega
  append {bs} long rest := by
    have hheld : i ≤ bs.length := Nat.le_trans (Nat.le_add_right i n) long
    rw [List.drop_append_of_le_length hheld]
    refine h.append ?_ rest
    rw [List.length_drop]
    omega

end Reads

end Rules

/-! ### Words -/

section Words

variable (i : Nat)

theorem reads_byteAt : Reads (i + 1) fun bs => bs.byteAt? i where
  isSome_iff bs := by
    rw [byteAt?, Option.isSome_iff_ne_none, ne_eq, List.getElem?_eq_none_iff, Nat.not_le,
      Nat.succ_le_iff]
  append long _ := List.getElem?_append_left long

theorem reads_word16At : Reads (i + 2) fun bs => bs.word16At? i := by
  have hword : Reads 2 fun bs : Bytes => bs.word16At? 0 := by
    constructor
    · constructor
      intro bs
      rcases bs with _ | ⟨a, _ | ⟨b, bs⟩⟩ <;> simp [word16At?]
    · intro bs long rest
      rcases bs with _ | ⟨a, _ | ⟨b, bs⟩⟩ <;> first | rfl | simp at long
  exact hword.behind (by decide) i

theorem reads_word32At : Reads (i + 4) fun bs => bs.word32At? i := by
  have hword : Reads 4 fun bs : Bytes => bs.word32At? 0 := by
    constructor
    · constructor
      intro bs
      rcases bs with _ | ⟨a, _ | ⟨b, _ | ⟨c, _ | ⟨d, bs⟩⟩⟩⟩ <;> simp [word32At?]
    · intro bs long rest
      rcases bs with _ | ⟨a, _ | ⟨b, _ | ⟨c, _ | ⟨d, bs⟩⟩⟩⟩ <;> first | rfl | simp at long
  exact hword.behind (by decide) i

theorem reads_word64At : Reads (i + 8) fun bs => bs.word64At? i :=
  ((reads_word32At i).bind fun _ => (reads_word32At (i + 4)).bind fun _ => Reads.pure _).of_eq
    (by omega)

end Words

end Bytes

open Bytes (Needs Reads reads_byteAt reads_word16At reads_word32At reads_word64At)

/-! ### Verification -/

namespace Verification

theorem Failure.reads_at (i : Nat) : Reads (i + 10) fun data => Failure.at? data i :=
  ((reads_word16At i).bind fun _ => (reads_word32At (i + 2)).bind fun _ =>
    (reads_word32At (i + 6)).bind fun _ => Reads.pure _).of_eq (by omega)

/-- Where what a subservice reports behind the first four octets ends, from the start of the data.
-/
def Outcome.layoutEnd? (subservice : UInt8) : Option Nat :=
  match subservice with
  | 1 | 3 | 7 => some 4
  | 2 | 4 | 8 => some 14
  | 5 => some 5
  | 6 => some 15
  | _ => none

/-- A subservice without a layout reports nothing. -/
theorem Outcome.ofData?_eq_none {subservice : UInt8} (unknown : layoutEnd? subservice = none)
    (data : Bytes) : Outcome.ofData? subservice data = none := by
  unfold layoutEnd? at unknown
  unfold ofData?
  split at unknown <;> simp_all

theorem ofData?_eq_none {subservice : UInt8}
    (unknown : Outcome.layoutEnd? subservice = none) (data : Bytes) :
    ofData? subservice data = none := by
  unfold ofData?
  simp only [Outcome.ofData?_eq_none unknown data]
  cases data.word16At? 0 <;> cases data.word16At? 2 <;> rfl

/-- **The layout of a verification report**: the two words that name the telecommand and what the
subservice reports behind them. -/
theorem reads_ofData? {subservice : UInt8} {n : Nat}
    (known : Outcome.layoutEnd? subservice = some n) :
    Reads n fun data => ofData? subservice data := by
  have hnamed {k : Nat} (houtcome : Reads k fun data => Outcome.ofData? subservice data) :
      Reads (max 4 k) fun data => ofData? subservice data :=
    ((reads_word16At 0).bind fun _ => (reads_word16At 2).bind fun _ =>
      houtcome.bind fun _ => Reads.pure _).of_eq (by omega)
  have hfailure := Failure.reads_at 4
  unfold Outcome.layoutEnd? at known
  split at known
  case h_1 | h_2 | h_3 =>
    obtain rfl := Option.some.inj known
    exact hnamed (Reads.pure _)
  case h_4 | h_5 | h_6 =>
    obtain rfl := Option.some.inj known
    exact hnamed (hfailure.map _)
  case h_7 =>
    obtain rfl := Option.some.inj known
    exact hnamed ((reads_byteAt 4).map _)
  case h_8 =>
    obtain rfl := Option.some.inj known
    exact hnamed ((reads_byteAt 4).bind fun _ => (Failure.reads_at 5).bind fun _ => Reads.pure _)
  case h_9 => cases known

end Verification

/-! ### Events, modes and parameters -/

theorem Event.reads_ofData? (subservice : UInt8) :
    Reads 14 fun data => Event.ofData? subservice data :=
  (reads_word16At 0).bind fun _ => (reads_word32At 2).bind fun _ =>
    (reads_word32At 6).bind fun _ => (reads_word32At 10).bind fun _ => Reads.pure _

namespace ModeReply

/-- Octets of the replies of a subservice. -/
def layoutSize (subservice : UInt8) : Nat :=
  match subservice with
  | 6 | 8 => 9
  | 7 => 6
  | _ => 4

/-- **The layout of a mode reply.** -/
theorem reads_ofData? (subservice : UInt8) :
    Reads (layoutSize subservice) fun data => ofData? subservice data := by
  have hobject {k : Nat} (hcontent : Reads k fun data => Content.ofData? subservice data) :
      Reads (max 4 k) fun data => ofData? subservice data :=
    ((reads_word32At 0).bind fun _ => hcontent.bind fun _ => Reads.pure _).of_eq (by omega)
  have hmode : Reads 9 fun data => readMode? data :=
    (reads_word32At 4).bind fun _ => (reads_byteAt 8).bind fun _ => Reads.pure _
  unfold layoutSize
  split
  case h_1 => exact hobject (hmode.map _)
  case h_2 => exact hobject (hmode.map _)
  case h_3 => exact hobject ((reads_word16At 4).map _)
  case h_4 reached wrong unreachable =>
    refine hobject (k := 0) ?_
    unfold Content.ofData?
    split
    case h_1 => exact absurd rfl reached
    case h_2 => exact absurd rfl unreachable
    case h_3 => exact absurd rfl wrong
    case h_4 => exact Reads.pure _

end ModeReply

/-- The payload of a parameter reply stands behind its identifier and is as long as it wants. -/
theorem ParameterReply.reads_parameter : Reads 4 fun data => data.word32At? 0 :=
  reads_word32At 0

/-! ### Housekeeping -/

namespace Housekeeping

theorem TestSet.needs_ofBytes? : Needs 16 fun bs => TestSet.ofBytes? bs :=
  (reads_byteAt 0).toNeeds.bind fun _ => (reads_byteAt 1).toNeeds.bind fun _ =>
    (reads_word16At 2).toNeeds.bind fun _ => (reads_word32At 4).toNeeds.bind fun _ =>
      (reads_word32At 8).toNeeds.bind fun _ => (reads_word32At 12).toNeeds.bind fun _ =>
        Needs.pure _

/-- Three numbers of 64 bits, one behind the other. -/
theorem reads_vector (i : Nat) :
    Reads (i + 24) fun bs => [i, i + 8, i + 16].mapM bs.word64At? :=
  (Reads.mapM fun j _ => reads_word64At j).of_eq (by
    simp only [List.map_cons, List.map_nil, List.foldr_cons, List.foldr_nil]
    omega)

theorem NavigationSet.needs_ofBytes? : Needs 68 fun bs => NavigationSet.ofBytes? bs :=
  (reads_byteAt 0).toNeeds.bind fun _ => (reads_byteAt 1).toNeeds.bind fun _ =>
    (reads_word16At 2).toNeeds.bind fun _ => (reads_word32At 4).toNeeds.bind fun _ =>
      (reads_word32At 8).toNeeds.bind fun _ => (reads_word32At 12).toNeeds.bind fun _ =>
        (reads_word32At 16).toNeeds.bind fun _ => (reads_vector 20).toNeeds.bind fun _ =>
          (reads_vector 44).toNeeds.bind fun _ => Needs.pure _

def Layout.size : Layout → Nat
  | .test => 16
  | .navigation => 68

theorem Layout.needs_read? (layout : Layout) : Needs layout.size fun bs => layout.read? bs where
  isSome_iff bs := by
    cases layout with
    | test => exact (Option.isSome_map ..).symm ▸ TestSet.needs_ofBytes?.isSome_iff bs
    | navigation => exact (Option.isSome_map ..).symm ▸ NavigationSet.needs_ofBytes?.isSome_iff bs

/-- The definition of a structure of so many parameters. -/
def readCounted? (count : UInt8) (data : Bytes) : Option Content := do
  let flag ← data.byteAt? 4
  let interval ← data.word32At? 5
  let _ ← data.byteAt? 9
  let parameters ← (List.range count.toNat).mapM fun i => data.word32At? (10 + i * 4)
  return .definition (flag = 1) interval parameters

/-- Where the last of so many parameters ends. -/
theorem foldr_max_range (count : Nat) :
    ((List.range count).map fun i => 10 + i * 4 + 4).foldr max 0 =
      if count = 0 then 0 else 10 + 4 * count := by
  cases count with
  | zero => rfl
  | succ last =>
    rw [if_neg (Nat.succ_ne_zero last)]
    have hmem : 10 + last * 4 + 4 ∈ (List.range (last + 1)).map fun i => 10 + i * 4 + 4 :=
      List.mem_map_of_mem (List.mem_range.mpr (Nat.lt_succ_self last))
    have hupper : ∀ x ∈ (List.range (last + 1)).map (fun i => 10 + i * 4 + 4),
        x ≤ 10 + 4 * (last + 1) := by
      intro x hx
      obtain ⟨i, hi, rfl⟩ := List.mem_map.mp hx
      have hlt := List.mem_range.mp hi
      omega
    have hlower : 10 + 4 * (last + 1) ≤ 10 + last * 4 + 4 := by omega
    exact Nat.le_antisymm (List.max_le_of_forall_le _ _ hupper) (List.le_max_of_le hmem hlower)

theorem reads_readCounted? (count : UInt8) :
    Reads (10 + 4 * count.toNat) fun data => readCounted? count data := by
  have hparameters : Reads _ fun data => (List.range count.toNat).mapM fun i =>
      data.word32At? (10 + i * 4) :=
    Reads.mapM fun i _ => reads_word32At (10 + i * 4)
  have hlast : max 10 (((List.range count.toNat).map fun i => 10 + i * 4 + 4).foldr max 0) =
      10 + 4 * count.toNat := by
    rw [foldr_max_range]
    split <;> omega
  exact ((reads_byteAt 4).bind fun _ => (reads_word32At 5).bind fun _ => (reads_byteAt 9).bind
    fun _ => hparameters.bind fun _ => Reads.pure _).of_eq (by omega)

/-- **A definition says how many parameters it has**, in its tenth octet. -/
theorem readDefinition?_eq (data : Bytes) :
    readDefinition? data = readCounted? (data.getD 9 0) data := by
  unfold readDefinition? readCounted?
  refine congrArg _ (funext fun flag => congrArg _ (funext fun interval => ?_))
  cases hcount : data.byteAt? 9 with
  | none => rfl
  | some count =>
    have hget : data.getD 9 0 = count := by
      rw [List.getD_eq_getElem?_getD]
      exact congrArg (Option.getD · 0) hcount
    rw [hget]
    rfl

/-- **The layout of a definition.** -/
theorem isSome_readDefinition? (data : Bytes) :
    (readDefinition? data).isSome = true ↔ 10 + 4 * (data.getD 9 0).toNat ≤ data.length := by
  rw [readDefinition?_eq]
  exact (reads_readCounted? _).isSome_iff data

/-- What follows a definition is not looked at. -/
theorem readDefinition?_append {data : Bytes} (long : 10 + 4 * (data.getD 9 0).toNat ≤ data.length)
    (rest : Bytes) : readDefinition? (data ++ rest) = readDefinition? data := by
  have hcount : (data ++ rest).getD 9 0 = data.getD 9 0 :=
    Bytes.getD_append_left (by omega) rest
  rw [readDefinition?_eq, readDefinition?_eq, hcount]
  exact (reads_readCounted? _).append long rest

/-- **The layout of a housekeeping report**: the structure identifier and, if it is a definition,
the definition. -/
theorem isSome_ofData? (subservice : UInt8) (data : Bytes) :
    (ofData? subservice data).isSome = true ↔ 4 ≤ data.length ∧
      (isDefinition subservice = true → 10 + 4 * (data.getD 9 0).toNat ≤ data.length) := by
  -- Only a definition can be too short behind the structure identifier.
  have hcontent (sid : UInt32) : (Content.ofData? subservice sid data).isSome = true ↔
      (isDefinition subservice = true → 10 + 4 * (data.getD 9 0).toNat ≤ data.length) := by
    unfold Content.ofData?
    by_cases hdefinition : isDefinition subservice = true
    case pos =>
      rw [if_pos hdefinition, isSome_readDefinition?]
      exact ⟨fun h _ => h, fun h => h hdefinition⟩
    case neg =>
      rw [if_neg hdefinition]
      refine iff_of_true ?_ fun h => absurd h hdefinition
      split <;> rfl
  have hsid : (data.word32At? 0).isSome = true ↔ 4 ≤ data.length :=
    (reads_word32At 0).isSome_iff data
  rw [← hsid]
  unfold ofData?
  cases data.word32At? 0 with
  | none => simp
  | some sid =>
    have hwhole : (some sid >>= fun sid => Content.ofData? subservice sid data >>= fun content =>
        some (Housekeeping.mk sid content)) =
          (Content.ofData? subservice sid data).map (.mk sid) := by
      rw [Option.map_eq_bind]
      rfl
    refine Iff.trans ?_ (and_iff_right rfl).symm
    rw [← hcontent sid, ← Option.isSome_map (f := Housekeeping.mk sid), ← hwhole]
    rfl

end Housekeeping

end GroundLink
