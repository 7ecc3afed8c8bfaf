import GroundLink.Proofs.Listener.Work

/-!
# Every change of mode is accounted for

Requests go through a channel that only the listener takes from, first in, first out.  The listener
handles them in the order in which they were made.  Every change of mode starts at most one
operation, in order, and one that starts none is still pending or was overtaken while it was
pending.  An operation ends only for a reason that came after it began
(`Listener.perform_accounts`).
-/

namespace GroundLink.Listener

open Activity (Reaches)

/-! ### The request channel -/

/-- What concerns the request channel: others make requests, or the listener does something. -/
abbrev Around := Happening Request Listener

/-- What a happening does to the requests that wait in the channel, if it can happen at all: the
oldest request is received, and none is missed. -/
def deliver (waiting : List Request) : Around → Option (List Request)
  | .other r => some (waiting ++ [r])
  | .own d =>
    match d.incoming? with
    | none => some waiting
    | some (.request r) => if waiting.head? = some r then some waiting.tail else none
    | some _ => if waiting = [] then some [] else none

variable {l s : Listener} {p : Trace Listener} {h : List Around} {waiting waiting' : List Request}

/-- A deed takes at most the request that it handles, from the front. -/
theorem deliver_own {d : Deed Listener} (hd : deliver waiting (.own d) = some waiting') :
    waiting = d.handled?.toList ++ waiting' := by
  rw [deliver] at hd
  rw [Deed.handled?]
  split at hd
  case h_1 hnone =>
    rw [hnone]
    exact Option.some.inj hd
  case h_2 r hr =>
    rw [hr]
    obtain ⟨hhead, hrest⟩ := Option.ite_none_right_eq_some.mp hd
    obtain ⟨rest, rfl⟩ := List.head?_eq_some_iff.mp hhead
    rw [← Option.some.inj hrest]
    rfl
  case h_3 x hx hother =>
    obtain ⟨rfl, hrest⟩ := Option.ite_none_right_eq_some.mp hd
    rw [← Option.some.inj hrest, hother]
    cases x with
    | request r => exact absurd rfl (hx r)
    | _ => rfl

/-- **Requests are handled in the order in which they were made.** -/
theorem handled_in_order (delivered : h.foldlM deliver waiting = some waiting') :
    waiting ++ Happening.others h =
      (Happening.deeds h).filterMap Deed.handled? ++ waiting' := by
  -- The induction is on what happens, from the first happening on.
  induction h generalizing waiting with
  | nil =>
    obtain rfl : waiting = waiting' := by simpa using delivered
    simp [Happening.others, Happening.deeds]
  | cons x h ih =>
    rw [List.foldlM_cons] at delivered
    obtain ⟨next, hx, hrest⟩ := Option.bind_eq_some_iff.mp delivered
    have hnext := ih hrest
    cases x with
    | other r =>
      obtain rfl := Option.some.inj hx
      have hothers : Happening.others (.other r :: h) = r :: Happening.others h := rfl
      rw [hothers, ← List.singleton_append, ← List.append_assoc]
      exact hnext
    | own d =>
      have hdeeds : Happening.deeds (.own d :: h) = [d] ++ Happening.deeds h := rfl
      have hothers : Happening.others (.own d :: h) = Happening.others h := rfl
      have hsingle : [d].filterMap Deed.handled? = d.handled?.toList := by
        cases hd : d.handled? <;> simp [hd]
      rw [hdeeds, hothers, List.filterMap_append, hsingle, deliver_own hx, List.append_assoc, hnext,
        List.append_assoc]

/-! ### The accounts -/

/-- What can be said of a listener that started in the state `l`, after the deeds `p` and in the
state `s`.  The mode of an operation that is just about to begin is `entering`. -/
structure Accounted (l : Listener) (p : Trace Listener) (s : Listener) (entering : Mode → Prop) :
    Prop where
  /-- Requests are numbered in the order in which they were handled. -/
  requests_eq : (record l p s).requests =
    (l.pending.map Request.changeMode).toList ++ p.filterMap Deed.handled?
  /-- Operations begin in the order of their changes, and each change starts at most one. -/
  increasing : (record l p s).operations.Pairwise fun a b => a.change < b.change
  /-- An operation has the mode of its change, which was handled before it began. -/
  faithful : ∀ op ∈ (record l p s).operations,
    (record l p s).requests[op.change]? = some (.changeMode op.mode) ∧
      op.change < op.since ∧ op.since ≤ (record l p s).requests.length
  /-- The operation of a change began, or is about to begin, or the change is still pending, or it
  was overtaken while it was pending. -/
  accounted : ∀ n mode, (record l p s).requests[n]? = some (.changeMode mode) →
    (∃ op ∈ (record l p s).operations, op.change = n) ∨
      ((record l p s).Awaits n mode ∧ (s.pending = some mode ∨ entering mode)) ∨ Withdrawn l p n
  /-- An operation is told to end only by a request that was handled since it began. -/
  concluded : s.inOperation = true → s.isFinished = true → (record l p s).Concluded
  /-- An operation ends when it was told to, when its time is up or when the listener shuts down. -/
  ended : (docket l p).isBusy = true → s.inOperation = false →
    TimedOut p ∨ s.isShutDown = true ∨ (record l p s).Concluded

theorem docket_requests (d : Docket) (p : Trace Listener) :
    (p.foldl Docket.note d).requests = d.requests ++ p.filterMap Deed.handled? := by
  induction p generalizing d with
  | nil => simp
  | cons e p ih =>
    have hnote : (d.note e).requests = d.requests ++ e.handled?.toList := by
      rw [Docket.note]
      cases e.handled? with
      | none => simp
      | some r => simp [Docket.add]
    have hcons : (e :: p).filterMap Deed.handled? =
        e.handled?.toList ++ p.filterMap Deed.handled? := by
      cases he : e.handled? <;> simp [he]
    rw [List.foldl_cons, ih, hnote, hcons, List.append_assoc]

theorem record_requests (l : Listener) (p : Trace Listener) (s : Listener) :
    (record l p s).requests =
      (l.pending.map Request.changeMode).toList ++ p.filterMap Deed.handled? := by
  rw [record, Docket.look_requests, docket, docket_requests]
  rfl

/-- A listener that is sound keeps its accounts. -/
theorem Sound.isAccounted {slot : Option Mode} (h : Sound l True p s slot)
    {entering : Mode → Prop}
    (hslot : ∀ mode, slot = some mode → s.pending = some mode ∨ entering mode) :
    Accounted l p s entering where
  requests_eq := record_requests l p s
  increasing := h.valid.increasing
  faithful := h.valid.faithful
  accounted n mode hn := by
    rcases h.accounted trivial n mode hn with hbegan | ⟨hmode, rfl⟩ | hw
    · exact .inl hbegan
    · exact .inr (.inl ⟨h.valid.waiting mode hmode, hslot mode hmode⟩)
    · exact .inr (.inr hw)
  concluded := h.concluded
  ended := h.ended

/-- **The accounts of a listener.**  However requests are made between the steps of a listener, and
whatever the link and the clock answer, requests are handled in the order in which they were made,
and every change of mode is accounted for. -/
theorem perform_accounts (idle : l.inOperation = false)
    (delivered : h.foldlM deliver waiting = some waiting')
    {b : Activity Listener (Unit × Listener)}
    (run : Reaches (perform l) (Happening.deeds h) b) (stands : b.Stands s) :
    waiting ++ Happening.others h =
        (Happening.deeds h).filterMap Deed.handled? ++ waiting' ∧
      Accounted l (Happening.deeds h) s fun mode =>
        ∃ effect next, b = .act s effect next ∧ IsEntering mode effect := by
  refine ⟨handled_in_order delivered, ?_⟩
  -- Nothing is assumed about the mode that is announced at the start.
  have hstart : Steady l False True [] l :=
    { sound := .start idle
      busy := rfl
      tidied := fun htidy => htidy.elim }
  have hperform : Routine.Secures (Admits l False True) perform
      (fun _ p s => Steady l False True p s) [] l :=
    secures_perform hstart idle fun p s h _ => h
  obtain ⟨hact, hdone⟩ := hperform _ b run
  rw [List.nil_append] at hact hdone
  cases stands with
  | act _ effect next =>
    obtain ⟨⟨slot, sound, hslot⟩, -⟩ := hact s effect next rfl
    refine sound.isAccounted fun mode hmode => ?_
    rcases hslot with rfl | ⟨-, mode', rfl, hentering⟩
    · exact .inl hmode
    · obtain rfl := Option.some.inj hmode
      exact .inr ⟨effect, next, rfl, hentering⟩
  | done x => exact (hdone (x, s) rfl).sound.isAccounted fun mode hmode => .inl hmode

/-- Answers by which the listener takes two requests, first to change the mode, then to finish. -/
def finishedEarly (p : Trace Listener) : (effect : Effect) → effect.Answer
  | .nextRequest => .request (if p.length ≤ 2 then .changeMode .unitTest else .finishOperation)
  | effect => effect.calm

/-- An operation whose end was asked for before it began.  It ends nevertheless, as the request was
made after the change of mode. -/
theorem perform_accounts_once :
    ∃ h b s, h.foldlM deliver [] = some [] ∧
      Reaches (perform (make {})) (Happening.deeds h) b ∧ b.Stands s ∧
      Happening.others h = [.changeMode .unitTest, .finishOperation] ∧
      (docket (make {}) (Happening.deeds h)).isBusy = true ∧ s.inOperation = false ∧
      Accounted (make {}) (Happening.deeds h) s fun mode =>
        ∃ effect next, b = .act s effect next ∧ IsEntering mode effect := by
  have run := Activity.reaches_play finishedEarly 14 [] (perform (make {}))
  have stands : ∃ s, (Activity.play finishedEarly 14 [] (perform (make {}))).2.Stands s ∧
      s.inOperation = false := ⟨_, .act _ _ _, rfl⟩
  have busy : (docket (make {}) (Activity.play finishedEarly 14 [] (perform (make {}))).1).isBusy =
      true := rfl
  have delivered : (Happening.other (.changeMode .unitTest) :: .other .finishOperation ::
      (Activity.play finishedEarly 14 [] (perform (make {}))).1.map .own).foldlM deliver [] =
        some [] := rfl
  -- The run itself does not matter any more, only what is known of it.
  generalize Activity.play finishedEarly 14 [] (perform (make {})) = played at *
  obtain ⟨t, b⟩ := played
  obtain ⟨s, stands, ended⟩ := stands
  have hdeeds : Happening.deeds (.other (.changeMode .unitTest) :: .other .finishOperation ::
      t.map (.own : Deed Listener → Around)) = t := Happening.deeds_map_own t
  have hothers : Happening.others (.other (.changeMode .unitTest) :: .other .finishOperation ::
      t.map (.own : Deed Listener → Around)) = [.changeMode .unitTest, .finishOperation] :=
    congrArg (_ :: _ :: ·) (Happening.others_map_own t)
  rw [← hdeeds] at run busy
  exact ⟨_, b, s, delivered, run, stands, hothers, busy, ended,
    (perform_accounts rfl delivered run stands).2⟩

end GroundLink.Listener
