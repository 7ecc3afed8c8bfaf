import GroundLink.Listener.Basic
import GroundLink.Proofs.Activity.Run

/-!
# The docket of a listener

The docket of a run is what can be read off its deeds: the requests that the listener handled, in
order, and the mode operations that it began.  Requests are numbered from zero; a mode that was
pending before the run counts as a change of mode with which it starts.  An operation is attributed
to the change of mode that was handled last when it began.

* `Listener.record` is the docket of the deeds so far, with a look at the present state.
* `Docket.Valid` says that every operation has the mode of its change, and that operations begin in
  the order of their changes.
* `Listener.Withdrawn` says that a change was overtaken while it was pending.
-/

namespace GroundLink

/-! ### Deeds of a listener -/

/-- What a deed of the listener finds in the request channel, if it looks there. -/
def Deed.incoming? (d : Deed Listener) : Option Incoming :=
  match d with
  | ⟨_, .nextRequest, incoming⟩ => some incoming
  | ⟨_, .awaitRequest _, incoming⟩ => some incoming
  | _ => none

def Deed.handled? (d : Deed Listener) : Option Listener.Request :=
  match d.incoming? with
  | some (.request r) => some r
  | _ => none

namespace Listener

/-- Whether a request ends the operation that is running, or overtakes the one that is pending. -/
def Request.ends : Request → Bool
  | .changeMode _ => true
  | .finishOperation => true
  | .setActive active => !active
  | .shutDown => false

def Request.isChange : Request → Bool
  | .changeMode _ => true
  | _ => false

/-- A deed that overtakes the operation that is pending. -/
def Overtakes (d : Deed Listener) : Prop :=
  match d.incoming? with
  | some (.request r) => r.ends = true ∨ r = .shutDown
  | some .disconnected => True
  | _ => False

/-! ### Dockets -/

/-- An operation that began. -/
structure Operation where
  mode : Mode
  /-- The number of the change of mode that was handled last. -/
  change : Nat
  /-- The number of requests that were handled before. -/
  since : Nat

/-- What can be read off the deeds of a listener. -/
structure Docket where
  /-- The requests that were handled. -/
  requests : List Request
  /-- The number of the last change of mode among them. -/
  last : Nat
  /-- Whether an operation was running at the last deed. -/
  isBusy : Bool
  /-- The operations that began. -/
  operations : List Operation

namespace Docket

def start (l : Listener) : Docket :=
  ⟨(l.pending.map Request.changeMode).toList, 0, l.inOperation, []⟩

/-- An operation begins. -/
def begin (d : Docket) (mode : Mode) : Docket :=
  { d with
    isBusy := true
    operations := d.operations ++ [⟨mode, d.last, d.requests.length⟩] }

/-- A look at a state: if an operation is running that was not yet, it has begun. -/
def look (d : Docket) (s : Listener) : Docket :=
  if s.inOperation && !d.isBusy then d.begin s.mode else { d with isBusy := s.inOperation }

def add (d : Docket) (r : Request) : Docket :=
  { d with
    requests := d.requests ++ [r]
    last := if r.isChange then d.requests.length else d.last }

def note (d : Docket) (e : Deed Listener) : Docket :=
  match e.handled? with
  | some r => (d.look e.mark).add r
  | none => d.look e.mark

/-- The change to `mode` with the number `n` was handled last, and its operation has not begun. -/
structure Awaits (d : Docket) (n : Nat) (mode : Mode) : Prop where
  last : d.last = n
  change : d.requests[n]? = some (.changeMode mode)
  ahead : ∀ op ∈ d.operations, op.change < n

/-- Every operation has the mode of its change and began after it, operations began in the order of
their changes, and so will the operation of the mode in `slot`. -/
structure Valid (d : Docket) (slot : Option Mode) : Prop where
  increasing : d.operations.Pairwise fun a b => a.change < b.change
  faithful : ∀ op ∈ d.operations, d.requests[op.change]? = some (.changeMode op.mode) ∧
    op.change < op.since ∧ op.since ≤ d.requests.length
  waiting : ∀ m, slot = some m → d.Awaits d.last m

/-- The last operation had nothing to do, or a request was handled since it began that ends it. -/
def Concluded (d : Docket) : Prop :=
  ∃ op, d.operations.getLast? = some op ∧
    (op.mode = .listener ∨ ∃ n r, op.since ≤ n ∧ d.requests[n]? = some r ∧ r.ends = true)

variable {d : Docket} {slot : Option Mode} {s s' : Listener}

theorem look_eq_self (h : d.isBusy = s.inOperation) : d.look s = d := by
  rw [look, ← h, if_neg (by simp)]

@[simp]
theorem look_isBusy (d : Docket) (s : Listener) : (d.look s).isBusy = s.inOperation := by
  rw [look]
  split
  case isTrue h =>
    rw [Bool.and_eq_true] at h
    exact h.1.symm
  case isFalse => rfl

@[simp]
theorem look_requests (d : Docket) (s : Listener) : (d.look s).requests = d.requests := by
  rw [look]
  split <;> rfl

theorem start_valid (l : Listener) : (start l).Valid l.pending where
  increasing := .nil
  faithful := by simp [start]
  waiting m hm := ⟨rfl, by simp [start, hm], by simp [start]⟩

/-- A change of mode that has not begun may be dropped. -/
theorem Valid.drop (h : d.Valid slot) : d.Valid none :=
  { h with waiting := by simp }

/-- An operation begins for the change that waits. -/
theorem Valid.begin {m : Mode} (h : d.Valid (some m)) : (d.begin m).Valid none where
  increasing := by
    refine List.pairwise_append.mpr ⟨h.increasing, List.pairwise_singleton _ _, ?_⟩
    intro a ha b hb
    -- The operations that began before belong to earlier changes.
    obtain rfl := List.mem_singleton.mp hb
    exact (h.waiting m rfl).ahead a ha
  faithful op hop := by
    rcases List.mem_append.mp hop with hop | hop
    · exact h.faithful op hop
    · obtain rfl := List.mem_singleton.mp hop
      have hlast := (h.waiting m rfl).change
      exact ⟨hlast, (List.getElem?_eq_some_iff.mp hlast).1, Nat.le_refl _⟩
  waiting := by simp

theorem requests_add {n : Nat} {r r' : Request} (h : d.requests[n]? = some r) :
    (d.add r').requests[n]? = some r := by
  have hn : n < d.requests.length := (List.getElem?_eq_some_iff.mp h).1
  rw [add, List.getElem?_append_left hn, h]

/-- A request is handled: a change of mode waits from then on, others leave the change that waits
alone or withdraw it. -/
theorem Valid.add (h : d.Valid slot) {r : Request} {slot' : Option Mode}
    (hslot : ∀ m, slot' = some m → r = .changeMode m ∨ slot = some m ∧ ∀ m', r ≠ .changeMode m') :
    (d.add r).Valid slot' where
  increasing := h.increasing
  faithful op hop := by
    obtain ⟨hchange, hlt, hle⟩ := h.faithful op hop
    refine ⟨requests_add hchange, hlt, ?_⟩
    simp only [Docket.add, List.length_append, List.length_singleton]
    omega
  waiting m hm := by
    rcases hslot m hm with rfl | ⟨hm, hr⟩
    · refine ⟨rfl, by simp [Docket.add, Request.isChange], fun op hop => ?_⟩
      -- The new change comes after all requests that were handled before.
      obtain ⟨-, hlt, hle⟩ := h.faithful op hop
      exact Nat.lt_of_lt_of_le hlt hle
    · have hsame : (d.add r).last = d.last := by
        cases r <;> first | rfl | exact absurd rfl (hr _)
      rw [hsame]
      exact ⟨hsame, requests_add (h.waiting m hm).change, (h.waiting m hm).ahead⟩

theorem Concluded.add (h : d.Concluded) (r : Request) : (d.add r).Concluded := by
  obtain ⟨op, hlast, hcause⟩ := h
  refine ⟨op, hlast, hcause.imp_right ?_⟩
  rintro ⟨n, r', hle, hn, hr'⟩
  exact ⟨n, r', hle, requests_add hn, hr'⟩

end Docket

/-- The docket of the deeds of a listener that starts in the state `l`. -/
def docket (l : Listener) (p : Trace Listener) : Docket := p.foldl Docket.note (Docket.start l)

/-- The docket of the deeds so far, with a look at the present state. -/
def record (l : Listener) (p : Trace Listener) (s : Listener) : Docket := (docket l p).look s

/-- The change with the number `n` was overtaken while it was pending. -/
def Withdrawn (l : Listener) (p : Trace Listener) (n : Nat) : Prop :=
  ∃ before e after mode, p = before ++ e :: after ∧ e.mark.pending = some mode ∧
    (record l before e.mark).Awaits n mode ∧ Overtakes e

variable {l s s' : Listener} {p : Trace Listener} {e : Deed Listener}

theorem docket_append (l : Listener) (p : Trace Listener) (e : Deed Listener) :
    docket l (p ++ [e]) = (docket l p).note e := by
  rw [docket, List.foldl_append, List.foldl_cons, List.foldl_nil, docket]

/-- After a deed the docket knows whether an operation is running. -/
theorem docket_append_isBusy (l : Listener) (p : Trace Listener) (e : Deed Listener) :
    (docket l (p ++ [e])).isBusy = e.mark.inOperation := by
  rw [docket_append, Docket.note]
  split <;> exact Docket.look_isBusy _ _

/-- A deed that handles no request adds nothing to the record. -/
theorem record_append (quiet : e.handled? = none) (same : s.inOperation = e.mark.inOperation) :
    record l (p ++ [e]) s = record l p e.mark := by
  have hnote : docket l (p ++ [e]) = record l p e.mark := by
    rw [docket_append, Docket.note, quiet, record]
  rw [record, hnote, Docket.look_eq_self]
  rw [same, record, Docket.look_isBusy]

/-- A deed that handles a request adds it to the record. -/
theorem record_append_handled {r : Request} (handled : e.handled? = some r)
    (same : s.inOperation = e.mark.inOperation) :
    record l (p ++ [e]) s = (record l p e.mark).add r := by
  have hnote : docket l (p ++ [e]) = (record l p e.mark).add r := by
    rw [docket_append, Docket.note, handled, record]
  rw [record, hnote, Docket.look_eq_self]
  rw [same]
  exact Docket.look_isBusy _ _

theorem record_congr (operation : s'.inOperation = s.inOperation)
    (mode : s.inOperation = true → s'.mode = s.mode) : record l p s' = record l p s := by
  rw [record, record, Docket.look, Docket.look, operation]
  cases working : s.inOperation with
  | true => rw [mode working]
  | false => rfl

/-- The end of an operation adds nothing to the record. -/
theorem record_of_idle (busy : (docket l p).isBusy = s.inOperation)
    (idle : s'.inOperation = false) : record l p s' = { record l p s with isBusy := false } := by
  rw [record, record, Docket.look_eq_self busy, Docket.look, idle]
  rfl

theorem Withdrawn.append {n : Nat} (h : Withdrawn l p n) (t : Trace Listener) :
    Withdrawn l (p ++ t) n := by
  obtain ⟨before, e, after, mode, rfl, hrest⟩ := h
  exact ⟨before, e, after ++ t, mode, by simp, hrest⟩

/-- A change that is pending is withdrawn by a deed that overtakes it. -/
theorem Withdrawn.of_overtakes (valid : (record l p e.mark).Valid e.mark.pending)
    (pending : e.mark.pending.isSome = true) (overtakes : Overtakes e) :
    Withdrawn l (p ++ [e]) (record l p e.mark).last := by
  obtain ⟨mode, hmode⟩ := Option.isSome_iff_exists.mp pending
  exact ⟨p, e, [], mode, rfl, hmode, valid.waiting mode hmode, overtakes⟩

end Listener

end GroundLink
