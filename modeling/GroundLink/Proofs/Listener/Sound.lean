import GroundLink.Proofs.Listener.Docket

/-!
# What holds throughout the work of a listener

`Listener.Sound` is the invariant of a listener: what its docket says is valid, every change of mode
is accounted for, an operation ends only for a reason that came after it began, and a listener that
is shut down stays so.  It is kept by each thing that a listener can do:

* `Sound.act` and `Sound.amend` are deeds and changes of state that concern no request,
* `Sound.handle` handles a request,
* `Sound.begin` and `Sound.conclude` are the two ends of an operation,
* `Sound.drop` gives up a change that was withdrawn.
-/

namespace GroundLink.Listener

/-! ### What a request does to the state -/

variable {s s' : Listener} {r : Request} {m : Mode}

/-- The request to finish an operation ends the one that is running, or else withdraws the one that
is pending. -/
theorem handle_finishOperation (s : Listener) :
    (s.handle .finishOperation).1 =
      if s.inOperation then { s with isFinished := true } else { s with pending := none } := by
  simp only [handle]
  by_cases working : s.inOperation = true
  · rw [if_pos working, if_pos working]
  · rw [if_neg working, if_neg working]
    obtain ⟨_, _, _, _, pending, _, _, _⟩ := s
    cases pending <;> rfl

@[simp]
theorem handle_mode (s : Listener) (r : Request) : (s.handle r).1.mode = s.mode := by
  cases r with
  | finishOperation =>
    rw [handle_finishOperation]
    split <;> rfl
  | _ => rfl

@[simp]
theorem handle_settings (s : Listener) (r : Request) :
    (s.handle r).1.settings = s.settings := by
  cases r with
  | finishOperation =>
    rw [handle_finishOperation]
    split <;> rfl
  | _ => rfl

@[simp]
theorem handle_steps (s : Listener) (r : Request) : (s.handle r).1.steps = s.steps := by
  cases r with
  | finishOperation =>
    rw [handle_finishOperation]
    split <;> rfl
  | _ => rfl

@[simp]
theorem handle_inOperation (s : Listener) (r : Request) :
    (s.handle r).1.inOperation = s.inOperation := by
  cases r with
  | finishOperation =>
    rw [handle_finishOperation]
    split <;> rfl
  | _ => rfl

/-- No request makes a listener work again that is shut down. -/
theorem handle_isShutDown (h : s.isShutDown = true) : (s.handle r).1.isShutDown = true := by
  cases r with
  | finishOperation =>
    rw [handle_finishOperation]
    split <;> exact h
  | shutDown => rfl
  | _ => exact h

/-- A mode is pending because its change was just handled, or because it was pending before. -/
theorem handle_pending (h : (s.handle r).1.pending = some m) :
    r = .changeMode m ∨ s.pending = some m ∧ ∀ m', r ≠ .changeMode m' := by
  cases r with
  | changeMode m' =>
    left
    rw [show m' = m from Option.some.inj h]
  | finishOperation =>
    rw [handle_finishOperation] at h
    split at h
    · exact .inr ⟨h, by simp⟩
    · simp at h
  | setActive | shutDown => exact .inr ⟨h, by simp⟩

/-- Outside of operations no request tells one to end. -/
theorem handle_isFinished_of_idle (idle : s.inOperation = false) :
    (s.handle r).1.isFinished = s.isFinished := by
  cases r with
  | changeMode | setActive => simp [handle, idle]
  | finishOperation =>
    rw [handle_finishOperation, if_neg (by simp [idle])]
  | shutDown => rfl

/-- A request that stops a reading activity during an operation also ends the operation, or shuts
the listener down. -/
theorem handle_stops (working : s.inOperation = true) (stops : (s.handle r).2.1 = true) :
    (s.handle r).1.isFinished = true ∨ (s.handle r).1.isShutDown = true := by
  cases r with
  | changeMode => exact .inl (by simp [handle, working])
  | finishOperation =>
    rw [handle_finishOperation, if_pos working]
    exact .inl rfl
  | setActive active =>
    cases active with
    | true => simp [handle] at stops
    | false => exact .inl (by simp [handle, working])
  | shutDown => exact .inr rfl

/-- A request that stops nothing leaves an active listener active, and does not shut it down. -/
theorem handle_goesOn (goesOn : (s.handle r).2.1 = false) (active : s.isActive = true) :
    (s.handle r).1.isActive = true ∧ (s.handle r).1.isShutDown = s.isShutDown := by
  cases r with
  | changeMode | shutDown => simp [handle] at goesOn
  | finishOperation =>
    rw [handle_finishOperation]
    split <;> exact ⟨active, rfl⟩
  | setActive active' =>
    cases active' with
    | true => exact ⟨rfl, rfl⟩
    | false => simp [handle] at goesOn

/-- A request withdraws the mode that is pending only if it overtakes it. -/
theorem handle_keeps (h : s.pending = some m) (stays : r.ends = false) :
    (s.handle r).1.pending = some m := by
  cases r with
  | changeMode | finishOperation => simp [Request.ends] at stays
  | setActive | shutDown => exact h

/-- An operation is to end because it was to end before, or because a request ends it. -/
theorem handle_isFinished (h : (s.handle r).1.isFinished = true) :
    s.isFinished = true ∨ r.ends = true := by
  cases r with
  | changeMode | finishOperation => exact .inr rfl
  | setActive active =>
    cases active with
    | true => exact .inl (by simpa [handle] using h)
    | false => exact .inr rfl
  | shutDown => exact .inl h

/-- A request that overtakes nothing neither ends an operation nor shuts the listener down. -/
theorem handle_stays (stays : ¬ (r.ends = true ∨ r = .shutDown)) :
    (s.handle r).1.isFinished = s.isFinished ∧ (s.handle r).1.isShutDown = s.isShutDown := by
  cases r with
  | changeMode | finishOperation | shutDown => simp [Request.ends] at stays
  | setActive active =>
    cases active with
    | true => exact ⟨by simp [handle], rfl⟩
    | false => simp [Request.ends] at stays

theorem Overtakes.of_handled {e : Deed Listener} (handled : e.handled? = some r)
    (h : r.ends = true ∨ r = .shutDown) : Overtakes e := by
  have hin : e.incoming? = some (.request r) := by
    unfold Deed.handled? at handled
    split at handled
    · rename_i r' hin
      rw [hin, Option.some.inj handled]
    · simp at handled
  rw [Overtakes, hin]
  exact h

theorem Docket.requests_add_cases {d : Docket} {n : Nat} {r' : Request}
    (h : (d.add r).requests[n]? = some r') :
    d.requests[n]? = some r' ∨ n = d.requests.length ∧ r' = r := by
  rw [add] at h
  by_cases hn : n < d.requests.length
  · rw [List.getElem?_append_left hn] at h
    exact .inl h
  · rw [List.getElem?_append_right (by omega), List.getElem?_singleton] at h
    split at h
    · exact .inr ⟨by omega, (Option.some.inj h).symm⟩
    · simp at h

/-! ### The invariant -/

/-- The warning about an operation that ran out of time was just logged. -/
def TimedOut (p : Trace Listener) : Prop :=
  ∃ before mark mode, p = before ++ [⟨mark, .log [Log.warn ("TM listener: mode operation " ++
    Mode.label mode ++ " timed out after " ++ mark.settings.operationTimeout.render)], ()⟩]

/-- What holds of a listener that started in the state `l`, after the deeds `p` and in the state
`s`.  The mode in `slot` is the one that is pending, or the one whose operation is about to begin.
Changes of mode are accounted for only while the listener is on `duty`. -/
structure Sound (l : Listener) (duty : Prop) (p : Trace Listener) (s : Listener)
    (slot : Option Mode) : Prop where
  valid : (record l p s).Valid slot
  accounted : duty → ∀ n m, (record l p s).requests[n]? = some (.changeMode m) →
    (∃ op ∈ (record l p s).operations, op.change = n) ∨
      (slot = some m ∧ (record l p s).last = n) ∨ Withdrawn l p n
  running : s.inOperation = true →
    ∃ op, (record l p s).operations.getLast? = some op ∧ op.mode = s.mode
  concluded : s.inOperation = true → s.isFinished = true → (record l p s).Concluded
  ended : (docket l p).isBusy = true → s.inOperation = false →
    TimedOut p ∨ s.isShutDown = true ∨ (record l p s).Concluded
  shut : ∀ e ∈ p, e.mark.isShutDown = true → s.isShutDown = true
  begun : (docket l p).isBusy = false → s.inOperation = true → s.isShutDown = false

variable {l : Listener} {duty : Prop} {p : Trace Listener} {e : Deed Listener} {slot : Option Mode}

/-- A listener that is not in an operation starts out soundly. -/
theorem Sound.start (idle : l.inOperation = false) : Sound l duty [] l l.pending := by
  have hrecord : record l [] l = Docket.start l := Docket.look_eq_self rfl
  constructor
  case valid =>
    rw [hrecord]
    exact Docket.start_valid l
  case accounted =>
    rw [hrecord]
    intro _ n m hn
    cases hpending : l.pending with
    | none => simp [Docket.start, hpending] at hn
    | some mode =>
      simp only [Docket.start, hpending, Option.map_some, Option.toList_some,
        List.getElem?_singleton, Option.ite_none_right_eq_some, Option.some.injEq,
        Request.changeMode.injEq] at hn
      exact .inr (.inl ⟨by rw [hn.2], hn.1.symm⟩)
  case running => simp [idle]
  case concluded => simp [idle]
  case ended => simp [docket, Docket.start, idle]
  case shut => simp
  case begun => simp [idle]

/-- **A deed that handles no request** changes nothing. -/
theorem Sound.act (h : Sound l duty p e.mark slot) (quiet : e.handled? = none) :
    Sound l duty (p ++ [e]) e.mark slot := by
  -- The docket only changes with requests, so that the record stays the same.
  have hrecord : record l (p ++ [e]) e.mark = record l p e.mark := record_append quiet rfl
  have hbusy := docket_append_isBusy l p e
  constructor
  case valid =>
    rw [hrecord]
    exact h.valid
  case accounted =>
    rw [hrecord]
    intro hduty n m hn
    exact (h.accounted hduty n m hn).imp_right (Or.imp_right fun hw => hw.append [e])
  case running =>
    rw [hrecord]
    exact h.running
  case concluded =>
    rw [hrecord]
    exact h.concluded
  -- The docket is busy as the mark says, and the mark is the present state.
  case ended =>
    intro busy idle
    rw [hbusy, idle] at busy
    simp at busy
  case shut =>
    intro e' he' hshut
    rcases List.mem_append.mp he' with he' | he'
    · exact h.shut e' he' hshut
    · rw [← List.mem_singleton.mp he']
      exact hshut
  case begun =>
    intro busy working
    rw [hbusy, working] at busy
    simp at busy

/-- **A change of state** that concerns neither requests nor the ends of an operation. -/
theorem Sound.amend (h : Sound l duty p s slot) (busy : (docket l p).isBusy = s.inOperation)
    (operation : s'.inOperation = s.inOperation)
    (mode : s.inOperation = true → s'.mode = s.mode)
    (finished : s.inOperation = true → s'.isFinished = true → (record l p s).Concluded)
    (shut : s.isShutDown = true → s'.isShutDown = true) : Sound l duty p s' slot := by
  -- The record reads nothing of the state but the mode of a running operation.
  have hrecord : record l p s' = record l p s := record_congr operation mode
  constructor
  case valid =>
    rw [hrecord]
    exact h.valid
  case accounted =>
    rw [hrecord]
    exact h.accounted
  case running =>
    rw [hrecord, operation]
    intro working
    rw [mode working]
    exact h.running working
  case concluded =>
    rw [hrecord, operation]
    exact finished
  case ended =>
    rw [busy, operation]
    intro working idle
    simp [working] at idle
  case shut => exact fun e he hshut => shut (h.shut e he hshut)
  case begun =>
    rw [busy, operation]
    intro idle working
    simp [working] at idle

/-- **A request is handled.** -/
theorem Sound.handle (h : Sound l duty p e.mark e.mark.pending) (handled : e.handled? = some r) :
    Sound l duty (p ++ [e]) (e.mark.handle r).1 (e.mark.handle r).1.pending := by
  have hrecord : record l (p ++ [e]) (e.mark.handle r).1 = (record l p e.mark).add r :=
    record_append_handled handled (handle_inOperation e.mark r)
  have hbusy := docket_append_isBusy l p e
  constructor
  case valid =>
    rw [hrecord]
    exact h.valid.add fun m hm => handle_pending hm
  case accounted =>
    rw [hrecord]
    intro hduty n m hn
    rcases Docket.requests_add_cases hn with hn | ⟨rfl, rfl⟩
    · rcases h.accounted hduty n m hn with hbegan | ⟨hpending, hlast⟩ | hw
      · exact .inl hbegan
      · -- The change was pending: the request overtakes it, or leaves it alone.
        right
        cases hends : r.ends with
        | true =>
          right
          rw [← hlast]
          exact .of_overtakes h.valid (by rw [hpending]; rfl) (.of_handled handled (.inl hends))
        | false =>
          left
          refine ⟨handle_keeps hpending hends, ?_⟩
          rw [← hlast]
          cases r with
          | changeMode => simp [Request.ends] at hends
          | _ => rfl
      · exact .inr (.inr (hw.append [e]))
    · exact .inr (.inl ⟨rfl, rfl⟩)
  case running =>
    rw [hrecord, handle_inOperation, handle_mode]
    exact h.running
  case concluded =>
    rw [hrecord, handle_inOperation]
    intro working finished
    -- The operation was to end before, or this request is the reason and came after the beginning.
    rcases handle_isFinished finished with finished | hends
    · exact (h.concluded working finished).add r
    · obtain ⟨op, hlast, -⟩ := h.running working
      obtain ⟨-, -, hsince⟩ := h.valid.faithful op (List.mem_of_getLast? hlast)
      refine ⟨op, hlast, .inr ⟨(record l p e.mark).requests.length, r, hsince, ?_, hends⟩⟩
      rw [Docket.add, List.getElem?_concat_length]
  case ended =>
    rw [hbusy, handle_inOperation]
    intro working idle
    simp [working] at idle
  case shut =>
    intro e' he' hshut
    refine handle_isShutDown ?_
    rcases List.mem_append.mp he' with he' | he'
    · exact h.shut e' he' hshut
    · rw [← List.mem_singleton.mp he']
      exact hshut
  case begun =>
    rw [hbusy, handle_inOperation]
    intro idle working
    simp [working] at idle

/-- **An operation begins** for the change that was taken up. -/
theorem Sound.begin (h : Sound l duty p s (some s.mode))
    (busy : (docket l p).isBusy = s.inOperation) (idle : s.inOperation = false)
    (awake : s.isShutDown = false) :
    Sound l duty p { s with inOperation := true, isFinished := false } none := by
  have hrecord : record l p { s with inOperation := true, isFinished := false } =
      (record l p s).begin s.mode := by
    rw [record, record, Docket.look_eq_self busy, Docket.look, busy, idle]
    rfl
  constructor
  case valid =>
    rw [hrecord]
    exact h.valid.begin
  case accounted =>
    rw [hrecord]
    intro hduty n m hn
    -- The change that was taken up is the one that was handled last.
    rcases h.accounted hduty n m hn with ⟨op, hop, hchange⟩ | ⟨-, hlast⟩ | hw
    · exact .inl ⟨op, List.mem_append_left _ hop, hchange⟩
    · exact .inl ⟨_, List.mem_append_right _ (List.mem_singleton_self _), hlast⟩
    · exact .inr (.inr hw)
  case running =>
    rw [hrecord]
    exact fun _ => ⟨_, List.getLast?_concat, rfl⟩
  case concluded => simp
  case ended => simp
  case shut => exact h.shut
  case begun => exact fun _ _ => awake

/-- **An operation ends**, for one of three reasons. -/
theorem Sound.conclude (h : Sound l duty p s slot) (busy : (docket l p).isBusy = s.inOperation)
    (cause : TimedOut p ∨ s.isShutDown = true ∨ (record l p s).Concluded) :
    Sound l duty p { s with inOperation := false, isFinished := false, mode := .listener }
      slot := by
  have hrecord : record l p
      { s with inOperation := false, isFinished := false, mode := .listener } =
        { record l p s with isBusy := false } := record_of_idle busy rfl
  constructor
  case valid =>
    rw [hrecord]
    refine ⟨h.valid.increasing, h.valid.faithful, fun m hm => ⟨rfl, ?_, ?_⟩⟩
    · exact (h.valid.waiting m hm).change
    · exact (h.valid.waiting m hm).ahead
  case accounted =>
    rw [hrecord]
    exact h.accounted
  case running => simp
  case concluded => simp
  case ended =>
    rw [hrecord]
    exact fun _ _ => cause
  case shut => exact h.shut
  case begun => simp

/-- **A change is dropped** only after it was withdrawn. -/
theorem Sound.drop (h : Sound l duty p s slot)
    (withdrawn : duty → slot.isSome = true → Withdrawn l p (record l p s).last) :
    Sound l duty p s none :=
  { h with
    valid := h.valid.drop
    accounted := by
      intro hduty n m hn
      rcases h.accounted hduty n m hn with hbegan | ⟨rfl, rfl⟩ | hw
      · exact .inl hbegan
      · exact .inr (.inr (withdrawn hduty rfl))
      · exact .inr (.inr hw) }

end GroundLink.Listener
