import GroundLink.Proofs.Listener.Pace
import GroundLink.Proofs.Listener.Work

/-!
# The ceiling of an operation

An operation is told to end by a request, or it ends by itself when it took as long as it may.  The
time is only looked at between two steps, so an operation overshoots its timeout, but by less than
one step takes (`Listener.runOperation_ceiling`).

* `Listener.Operates` is what holds between two rounds of an operation, and `Listener.Operated` what
  holds after the last one.
* `Listener.attains_runOperation` says that an operation comes to its end, if its steps have their
  cost and the clock has room for it.  It assumes nothing about the requests and the answers of the
  link, and it charges no sleep: a step that sleeps takes some of the time that is left.
-/

namespace GroundLink.Listener

open Activity (Follows)
open Routine (Attains Halts)

variable {world : Trace Listener → (effect : Effect) → effect.Answer} {clock : SteppingClock}
  {rate batch budget m n : Nat} {mode : Mode} {l s s' : Listener} {p t u v : Trace Listener}

/-! ### The loop of an operation -/

/-- The time that an operation stays below: the last step begins before the time is up. -/
def ceiling (l : Listener) : Nat := l.settings.operationTimeout.nanos + l.stepBound

/-- What holds between two rounds of an operation that started out in the state `l`: the listener
looked at the clock, and in what it did since, it slept for `n`. -/
structure Operates (n : Nat) (l : Listener) (t : Trace Listener) (s : Listener) : Prop where
  slept_eq : Trace.slept t = n
  settings_eq : s.settings = l.settings
  mode_eq : s.mode = l.mode
  within : n < l.ceiling
  /-- Steps are all that takes time. -/
  steps : l.steps ≤ s.steps ∧ (0 < n → l.steps < s.steps)
  /-- Without a request to, the operation does not end, and the listener does not shut down. -/
  stays : (∀ d ∈ t, ¬ Overtakes d) → s.isFinished = false ∧ s.isShutDown = l.isShutDown

/-- An operation that is over: it was interrupted, the listener was shut down before, or the time
for the operation is up. -/
structure Operated (n : Nat) (l : Listener) (t : Trace Listener) (s : Listener) : Prop
    extends Operates n l t s where
  ended : (∃ d ∈ t, Overtakes d) ∨ l.isShutDown = true ∨ l.settings.operationTimeout.nanos ≤ n

/-- What is left of an operation: the time to its ceiling, and a round unless the listener is shut
down. -/
def left (l : Listener) (t : Trace Listener) (s : Listener) : Nat :=
  l.ceiling - Trace.slept t + if s.isShutDown then 0 else 1

theorem ceiling_pos (l : Listener) : 0 < l.ceiling :=
  Nat.add_pos_right _ (Nat.add_pos_right _ (by decide))

namespace Operates

theorem start (unfinished : l.isFinished = false) (keeps : Keeps 0 l t l) : Operates 0 l t l where
  slept_eq := keeps.slept_eq
  settings_eq := rfl
  mode_eq := rfl
  within := l.ceiling_pos
  steps := ⟨Nat.le_refl _, fun h => absurd h (Nat.lt_irrefl 0)⟩
  stays _ := ⟨unfinished, rfl⟩

theorem look (h : Operates n l t s) (keeps : Keeps 0 s u s') : Operates n l (t ++ u) s' where
  slept_eq := by rw [Trace.slept_append, h.slept_eq, keeps.slept_eq, Nat.add_zero]
  settings_eq := keeps.settings_eq.trans h.settings_eq
  mode_eq := keeps.mode_eq.trans h.mode_eq
  within := h.within
  steps := by
    rw [keeps.steps_eq]
    exact h.steps
  stays quiet := by
    obtain ⟨before, after⟩ := List.forall_mem_append.mp quiet
    obtain ⟨finished, awake⟩ := keeps.stays after
    rw [finished, awake]
    exact h.stays before

theorem stepBound_eq (h : Operates n l t s) : s.stepBound = l.stepBound := by
  rw [stepBound, stepBound, firstDataTimeout, firstDataTimeout, h.settings_eq]

/-- As long as the time for the operation is not up, the clock has room for another step. -/
theorem room (h : Operates n l t s) (early : n < l.settings.operationTimeout.nanos)
    (room : clock.HasRoom l.ceiling p) : clock.HasRoom s.stepBound (p ++ t) := by
  refine room.append ?_
  rw [h.slept_eq, h.stepBound_eq, ceiling]
  omega

/-- A step begins before the time for the operation is up, so it ends within its bound. -/
theorem step (h : Operates m l t s) (early : m < l.settings.operationTimeout.nanos)
    (room : clock.HasRoom l.ceiling p) (collects : Collects clock n s (p ++ t) u s') :
    Operates (m + n) l (t ++ u) { s' with steps := s'.steps + 1 } where
  slept_eq := by rw [Trace.slept_append, h.slept_eq, collects.slept_eq]
  settings_eq := collects.settings_eq.trans h.settings_eq
  mode_eq := collects.mode_eq.trans h.mode_eq
  within := by
    have hstep := collects.within (h.room early room)
    rw [h.stepBound_eq] at hstep
    rw [ceiling]
    omega
  steps := by
    obtain ⟨hle, -⟩ := h.steps
    rw [collects.steps_eq]
    exact ⟨Nat.le_succ_of_le hle, fun _ => Nat.lt_succ_of_le hle⟩
  stays quiet := by
    obtain ⟨before, after⟩ := List.forall_mem_append.mp quiet
    obtain ⟨finished, awake⟩ := collects.stays after
    obtain ⟨finished', awake'⟩ := h.stays before
    exact ⟨finished.trans finished', awake.trans awake'⟩

/-- The loop is left because it is told to, or because the listener is shut down. -/
theorem stop (h : Operates n l t s) (stops : s.isFinished || s.isShutDown) : Operated n l t s where
  toOperates := h
  ended := by
    by_cases interrupted : ∃ d ∈ t, Overtakes d
    · exact .inl interrupted
    · obtain ⟨unfinished, same⟩ := h.stays fun d hd told => interrupted ⟨d, hd, told⟩
      rw [unfinished, same, Bool.false_or] at stops
      exact .inr (.inl stops)

/-- The clock shows how long the operation has taken. -/
theorem elapsed_eq (h : Operates n l t s) (paced : Paced clock world)
    (room : clock.HasRoom l.ceiling p) : (world (p ++ t) .now - world p .now).nanos = n := by
  have lasts : clock.Lasts (p ++ t) := room.lasts (by rw [h.slept_eq]; exact Nat.le_of_lt h.within)
  rw [paced.elapsed lasts, h.slept_eq]

/-- The loop is left when the time for the operation is up. -/
theorem timeOut (h : Operates n l t s) (due : l.settings.operationTimeout.nanos ≤ n)
    (keeps : Keeps 0 s u s') : Operated n l (t ++ u) s' where
  toOperates := h.look keeps
  ended := .inr (.inr due)

/-- A round has its cost, or else less is left after it. -/
theorem shrinks (h : Operates m l t s) (awake : s.isShutDown = false)
    (later : Operates n l (t ++ u) s')
    (spends : 0 < Trace.cost (charge rate batch) u ∨ s'.isShutDown = true ∨ m < n) :
    0 < Trace.cost (charge rate batch) u ∨ left l (t ++ u) s' < left l t s := by
  have := later.within
  have hgrows : m ≤ n := by
    rw [← h.slept_eq, ← later.slept_eq, Trace.slept_append]
    exact Nat.le_add_right _ _
  refine spends.imp_right fun spent => ?_
  rw [left, left, later.slept_eq, h.slept_eq, awake, if_neg Bool.false_ne_true]
  rcases spent with gone | slept
  · rw [if_pos gone]
    omega
  · split <;> omega

end Operates

/-- What is heard costs something, or shuts the listener down. -/
theorem Keeps.cost_of_heard (h : Keeps n l t s) (told : 0 < heard t) :
    0 < Trace.cost (charge rate batch) t ∨ s.isShutDown = true := by
  refine (h.cause told).imp_left fun handled => ?_
  rw [cost_charge]
  omega

/-- The steps of an operation have their cost: packets are scarce in the mode in which the listener
only polls, and in the others there is time to wait for data. -/
def IsCostly (batch : Nat) (l : Listener) : Prop :=
  l.mode = .unitTest ∧ 0 < batch ∨ l.mode ≠ .unitTest ∧ 0 < l.firstDataTimeout.nanos

theorem IsCostly.congr (h : IsCostly batch l) (settings : s.settings = l.settings)
    (mode : s.mode = l.mode) : IsCostly batch s := by
  rw [IsCostly, mode, firstDataTimeout, settings]
  exact h

/-- A step has its cost, shuts the listener down or takes time. -/
theorem Collects.cost_or_time (h : Collects clock n l p t s) (costly : IsCostly batch l) :
    0 < Trace.cost (charge rate batch) t ∨ s.isShutDown = true ∨ 0 < n := by
  rcases h.spends (costly.imp And.left And.right) with sleeps | told | ⟨hmode, stored⟩
  · exact .inr (.inr (Nat.lt_of_lt_of_le (by decide) sleeps))
  · exact (h.toKeeps.cost_of_heard told).imp_right .inl
  · obtain ⟨-, scarce⟩ | ⟨reporting, -⟩ := costly
    · have := Nat.mul_pos scarce stored
      refine .inl ?_
      rw [cost_charge]
      omega
    · exact absurd hmode reporting

/-- **The loop of an operation** comes to its end, because every round has its cost, or leaves less
for the others. -/
theorem attains_operationLoop (paced : Paced clock world) (room : clock.HasRoom l.ceiling p)
    (costly : IsCostly batch l) (operating : l.mode ≠ .listener)
    (unfinished : l.isFinished = false) :
    Attains world (charge rate batch) budget
      (Routine.iterate () fun _ => operationRound mode (world p .now))
      (fun _ t s => ∃ n, Operated n l ([⟨l, .now, world p .now⟩] ++ t) s)
      (p ++ [⟨l, .now, world p .now⟩]) l := by
  have hstart : Keeps 0 l [⟨l, .now, world p .now⟩] l := .of_silent rfl rfl
  refine Attains.iterate_shrinking
    (fun _ t s => ∃ n, Operates n l ([⟨l, .now, world p .now⟩] ++ t) s)
    (fun _ t s => left l ([⟨l, .now, world p .now⟩] ++ t) s) ?_ ⟨0, .start unfinished hstart⟩
  rintro _ t s ⟨n, operates⟩
  rw [List.append_assoc, operationRound]
  refine Routine.attains_get_bind ?_
  split
  case isTrue stops =>
    refine Routine.attains_pure ⟨n, ?_⟩
    rw [List.append_nil]
    exact operates.stop stops
  case isFalse goesOn =>
    rw [Bool.or_eq_true, not_or, Bool.not_eq_true, Bool.not_eq_true] at goesOn
    refine Routine.attains_elapsedSince_bind ?_
    have hnow : Keeps 0 s [⟨s, .now, world (p ++ ([⟨l, .now, world p .now⟩] ++ t)) .now⟩] s :=
      .of_silent rfl rfl
    have helapsed := operates.elapsed_eq paced room
    rw [operates.settings_eq]
    split
    -- The time is up, which is noted in the log.
    case isTrue due =>
      refine Routine.attains_perform_bind (Routine.attains_pure ⟨n, ?_⟩)
      exact operates.timeOut (helapsed ▸ due) (.of_silent rfl rfl)
    case isFalse early =>
      have early : n < l.settings.operationTimeout.nanos := helapsed ▸ Nat.lt_of_not_le early
      refine Attains.bind attains_handleRequests ?_
      rintro stops u s' ⟨keeps, told⟩
      cases stops with
      -- A request takes the place of the step.
      | true =>
        have hlooked := operates.look (keeps.after hnow)
        refine Routine.attains_pure ?_
        rw [List.append_nil]
        refine ⟨⟨n, hlooked⟩, operates.shrinks goesOn.2 hlooked ?_⟩
        exact ((keeps.after hnow).cost_of_heard (told rfl)).imp_right .inl
      | false =>
        have hmode : s'.mode = l.mode := keeps.mode_eq.trans operates.mode_eq
        have hcostly : IsCostly batch s' :=
          costly.congr (keeps.settings_eq.trans operates.settings_eq) hmode
        have hlooked := (operates.look hnow).look keeps
        have hroom := hlooked.room early room
        rw [List.append_assoc p, List.append_assoc p]
        refine Attains.bind (attains_stepOperation paced (hmode ▸ operating) (.inr hroom)) ?_
        rintro _ v _ ⟨k, s'', collects, rfl⟩
        have hstep := hlooked.step early room collects
        simp only [List.append_assoc] at hstep
        refine Routine.attains_pure ?_
        rw [List.append_nil]
        refine ⟨⟨n + k, hstep⟩, operates.shrinks goesOn.2 hstep ?_⟩
        have hspends : 0 < Trace.cost (charge rate batch) v ∨ s''.isShutDown = true ∨ 0 < k :=
          collects.cost_or_time hcostly
        refine hspends.imp (fun hcost => ?_) (Or.imp_right Nat.lt_add_of_pos_right)
        show 0 < Trace.cost _ ([_] ++ u ++ v)
        rw [Trace.cost_append]
        exact Nat.add_pos_right _ hcost

/-! ### Whole operations -/

/-- A whole operation of a listener that was in the state `l`. -/
structure Runs (l : Listener) (t : Trace Listener) (l' : Listener) : Prop where
  mode_eq : l'.mode = .listener
  announced : announcedBy t = .listener
  within : Trace.slept t < l.ceiling
  steps : 0 < Trace.slept t → l.steps < l'.steps
  ended : (∃ d ∈ t, Overtakes d) ∨ l.isShutDown = true ∨
    l.settings.operationTimeout.nanos ≤ Trace.slept t

/-- Announcements take no time. -/
theorem slept_eq_of_framed (still : Trace.slept u = 0) :
    Trace.slept (u ++ (t ++ [⟨s, .announceMode mode, ()⟩])) = Trace.slept t := by
  rw [Trace.slept_append, Trace.slept_append, still, Nat.zero_add]
  rfl

/-- The loop of an operation, between the deeds with which it begins and the announcement with which
it ends. -/
theorem Operated.runs
    (h : Operated n { l with mode, inOperation := true, isFinished := false } t s)
    (still : Trace.slept u = 0) :
    Runs l (u ++ (t ++ [⟨s', .announceMode .listener, ()⟩]))
      { s with mode := .listener, inOperation := false, isFinished := false } where
  mode_eq := rfl
  announced := by
    rw [← List.append_assoc]
    exact announcedBy_append _ _
  within := by
    rw [slept_eq_of_framed still, h.slept_eq]
    exact h.within
  steps takes := by
    rw [slept_eq_of_framed still, h.slept_eq] at takes
    exact h.steps.2 takes
  ended := by
    rw [slept_eq_of_framed still, h.slept_eq]
    refine h.ended.imp_left ?_
    rintro ⟨d, hd, told⟩
    exact ⟨d, List.mem_append_right _ (List.mem_append_left _ hd), told⟩

/-- **An operation** comes to its end. -/
theorem attains_runOperation (paced : Paced clock world) (room : clock.HasRoom l.ceiling p)
    (operating : mode ≠ .listener) (costly : IsCostly batch { l with mode }) :
    Attains world (charge rate batch) budget (runOperation mode) (fun _ t l' => Runs l t l') p
      l := by
  rw [runOperation_eq]
  refine Routine.attains_perform_bind ?_
  refine Attains.bind (Routine.attains_modify_bind (Routine.attains_perform ?_))
    (Q := fun _ t s => s = { l with mode } ∧ t = [⟨{ l with mode }, .announceMode mode, ()⟩]) ?_
  · exact ⟨rfl, rfl⟩
  rintro _ _ _ ⟨rfl, rfl⟩
  refine Routine.attains_modify_bind (Routine.attains_perform_bind ?_)
  have hcostly : IsCostly batch { l with mode, inOperation := true, isFinished := false } :=
    costly.congr rfl rfl
  -- What was done before the clock was read took no time.
  have hroom {e e' : Deed Listener} (h : Trace.slept ([e] ++ [e']) = 0) :
      clock.HasRoom l.ceiling (p ++ [e] ++ [e']) := by
    rw [List.append_assoc]
    exact room.append (Nat.le_of_eq (by rw [h, Nat.zero_add]))
  refine Attains.bind (attains_operationLoop paced (hroom rfl) hcostly operating rfl) ?_
  rintro _ t s ⟨n, operated⟩
  refine Routine.attains_modify_bind (Routine.attains_modify_bind (Routine.attains_perform ?_))
  rw [List.append_assoc p] at operated ⊢
  exact operated.runs (l := l) (u := [_, _]) rfl

theorem ceiling_eq (l : Listener) : l.ceiling = l.settings.operationTimeout.nanos +
    l.settings.tcTimeout.nanos + l.settings.tmTimeout.nanos + 1000000000 := by
  calc l.ceiling = l.settings.operationTimeout.nanos +
        (l.settings.tcTimeout.nanos + l.settings.tmTimeout.nanos + 1000000000) := rfl
    _ = _ := by omega

theorem hasRoom_ceiling (fits : clock.nanos.toNat + l.settings.operationTimeout.nanos +
    l.settings.tcTimeout.nanos + l.settings.tmTimeout.nanos + 1000000000 < 2 ^ 64) :
    clock.HasRoom l.ceiling ([] : Trace Listener) := by
  have hnothing : Trace.slept ([] : Trace Listener) = 0 := rfl
  rw [SteppingClock.HasRoom, hnothing, ceiling_eq, Nat.add_zero, ← Nat.add_assoc, ← Nat.add_assoc,
    ← Nat.add_assoc]
  exact fits

/-- The clock shows how long an operation took. -/
theorem Runs.elapsed_eq (h : Runs l t s) (room : clock.HasRoom l.ceiling ([] : Trace Listener)) :
    ((clock.after t).elapsedSince clock.now).nanos = Trace.slept t :=
  SteppingClock.elapsed_after (room.lasts (Nat.le_of_lt h.within))

/-! ### Without requests -/

/-- Nobody makes requests, and somebody still could. -/
def Unasked (world : Trace Listener → (effect : Effect) → effect.Answer) : Prop :=
  ∀ p, world p .nextRequest = .nothing ∧ ∀ limit, world p (.awaitRequest limit) = .nothing

/-- A look for requests finds nothing. -/
theorem attains_handleRequests_of_unasked {fee : Deed Listener → Nat} (unasked : Unasked world) :
    Attains world fee budget handleRequests
      (fun stops t l' => stops = false ∧ t = [⟨l, .nextRequest, .nothing⟩] ∧ l' = l) p l := by
  unfold handleRequests
  refine Attains.iterate (fun _ t s => t = [] ∧ s = l) (fun _ _ => 0) ?_ ⟨rfl, rfl⟩
  rintro _ _ s ⟨rfl, rfl⟩
  refine Routine.attains_perform_bind ?_
  rw [List.append_nil, (unasked p).1]
  exact Routine.attains_pure ⟨rfl, rfl, rfl⟩

/-- If nobody makes requests, nothing is heard. -/
theorem Unasked.incoming_eq (unasked : Unasked world) (follows : Follows world p t)
    {d : Deed Listener} (hd : d ∈ t) : d.incoming? = none ∨ d.incoming? = some .nothing := by
  obtain ⟨q, r, ht⟩ := List.append_of_mem hd
  have hanswer := follows.answer_eq ht
  obtain ⟨mark, effect, answer⟩ := d
  cases effect with
  | nextRequest => exact .inr (congrArg some (hanswer.trans (unasked _).1))
  | awaitRequest limit => exact .inr (congrArg some (hanswer.trans ((unasked _).2 limit)))
  | _ => exact .inl rfl

theorem Unasked.not_overtakes (unasked : Unasked world) (follows : Follows world p t)
    {d : Deed Listener} (hd : d ∈ t) : ¬ Overtakes d := by
  rw [Overtakes]
  rcases unasked.incoming_eq follows hd with h | h
  · rw [h]
    exact id
  · rw [h]
    exact id

theorem Unasked.requested_eq (unasked : Unasked world) (follows : Follows world p t) :
    requested t = 0 := by
  refine List.countP_eq_zero.mpr fun d hd => ?_
  rw [Deed.handled?]
  rcases unasked.incoming_eq follows hd with h | h
  · simp [h]
  · simp [h]

/-- **The ceiling of an operation** that reports replies, if nobody makes requests and a wait for
data takes any time.  Whatever the link answers, the operation ends.  It takes as long as it may,
and not longer than one more wait for data, the collection of one sequence and a pause.  Then the
default mode is announced again, and at least one step was made if there was any time for it.  The
clock only moves while the listener sleeps, and can count as long as that without starting over. -/
theorem runOperation_ceiling (reporting : mode.IsReporting) (l : Listener)
    (positive : 0 < l.settings.tcTimeout.nanos) (clock : SteppingClock)
    (fits : clock.nanos.toNat + l.settings.operationTimeout.nanos + l.settings.tcTimeout.nanos +
      l.settings.tmTimeout.nanos + 1000000000 < 2 ^ 64)
    (world : Trace Listener → (effect : Effect) → effect.Answer) (paced : Paced clock world)
    (unasked : Unasked world) :
    Halts world (runOperation mode) [] l ∧
      ∀ t l', (runOperation mode).Completes l t () l' → Follows world [] t →
        let elapsed := ((clock.after t).elapsedSince clock.now).nanos
        let timeout := l.settings.operationTimeout.nanos
        elapsed < timeout + l.settings.tcTimeout.nanos + l.settings.tmTimeout.nanos + 1000000000 ∧
          l'.mode = .listener ∧ announcedBy t = .listener ∧
          (l.isShutDown = false → timeout ≤ elapsed ∧ (0 < timeout → l.steps < l'.steps)) := by
  have hmode : mode ≠ .listener ∧ mode ≠ .unitTest := by
    cases mode <;> simp [Mode.IsReporting] at reporting ⊢
  have hcostly : IsCostly 0 { l with mode } := .inr ⟨hmode.2, positive⟩
  have hceiling := ceiling_eq l
  have hroom : clock.HasRoom l.ceiling [] := hasRoom_ceiling fits
  -- Only requests are charged, and there are none.
  have hattains : Attains world (charge 0 0) 0 (runOperation mode)
      (fun _ t l' => Runs l t l') [] l :=
    attains_runOperation paced hroom hmode.1 hcostly
  have hcost (t : Trace Listener) (follows : Follows world [] t) :
      Trace.cost (charge 0 0) ([] ++ t) ≤ 0 := by
    have hrequests := unasked.requested_eq follows
    rw [List.nil_append, cost_charge]
    omega
  constructor
  case left =>
    obtain ⟨t, x, l', run, follows, -⟩ := hattains.ends fun t _ _ follows => hcost t follows
    exact ⟨t, (x, l'), run, follows⟩
  case right =>
    intro t l' run follows elapsed timeout
    have hruns := hattains.of_completes run follows (hcost t follows)
    have helapsed : elapsed = Trace.slept t := hruns.elapsed_eq hroom
    have hwithin := hruns.within
    refine ⟨by omega, hruns.mode_eq, hruns.announced, fun awake => ?_⟩
    rcases hruns.ended with ⟨d, hd, told⟩ | gone | due
    · exact absurd told (unasked.not_overtakes follows hd)
    · rw [awake] at gone
      cases gone
    · exact ⟨by omega, fun some => hruns.steps (by omega)⟩

/-- Answers by which there is always data from 100 milliseconds on, and a stepping clock shows the
time. -/
def dataArrives (p : Trace Listener) : (effect : Effect) → effect.Answer
  | .now => (SteppingClock.start.after p).now
  | .available => .ok (100000000 ≤ Trace.slept p)
  | .poll => .ok (true, [Packet.unreadable []])
  | effect => effect.calm

/-- Two sequences are collected in two polls each.  The second one begins before the time for the
operation is up, and ends after it. -/
theorem runOperation_ceiling_two_sequences :
    ∃ l t l', l.settings.operationTimeout.nanos = 1200000000 ∧
      l.settings.tcTimeout.nanos = 150000000 ∧ l.settings.tmTimeout.nanos = 150000000 ∧
      (runOperation .singleCommand).Completes l t () l' ∧ Follows dataArrives [] t ∧
      stores t = 4 ∧ l'.mode = .listener ∧ l.steps < l'.steps ∧
      1200000000 ≤ ((SteppingClock.start.after t).elapsedSince SteppingClock.start.now).nanos ∧
      ((SteppingClock.start.after t).elapsedSince SteppingClock.start.now).nanos < 2500000000 := by
  obtain ⟨l, htimeout, hwait, hwindow, awake, hrun⟩ : ∃ l : Listener,
      l.settings.operationTimeout.nanos = 1200000000 ∧
      l.settings.tcTimeout.nanos = 150000000 ∧ l.settings.tmTimeout.nanos = 150000000 ∧
      l.isShutDown = false ∧ ∃ t l', (runOperation .singleCommand).Completes l t () l' ∧
        Follows dataArrives [] t ∧ stores t = 4 := by
    let settings : Settings := {
      tmTimeout := Span.ofMillis 150, tcTimeoutFactor := 1.0, operationTimeout := Span.ofMillis 1200 }
    let played := Activity.play dataArrives 100 [] (runOperation .singleCommand (make settings))
    have hplayed : played.2.result?.isSome = true ∧ stores played.1 = 4 ∧
        settings.tcTimeout.nanos = 150000000 := by decide +kernel
    obtain ⟨⟨⟨⟩, l'⟩, run⟩ := Activity.reaches_play_done hplayed.1
    exact ⟨make settings, rfl, hplayed.2.2, rfl, rfl, played.1, l', run,
      Activity.follows_play _ _ _ _, hplayed.2.1⟩
  have reporting : Mode.IsReporting .singleCommand := trivial
  have hpositive : 0 < l.settings.tcTimeout.nanos := by
    rw [hwait]
    decide
  have hfits : SteppingClock.start.nanos.toNat + l.settings.operationTimeout.nanos +
      l.settings.tcTimeout.nanos + l.settings.tmTimeout.nanos + 1000000000 < 2 ^ 64 := by
    rw [htimeout, hwait, hwindow]
    decide
  obtain ⟨⟨t, ⟨⟨⟩, l'⟩, run, follows⟩, hends⟩ := runOperation_ceiling reporting l hpositive .start
    hfits dataArrives (fun _ => rfl) fun _ => ⟨rfl, fun _ => rfl⟩
  obtain ⟨hhigh, hmode, -, hlow⟩ := hends t l' run follows
  obtain ⟨hdue, hsteps⟩ := hlow awake
  rw [htimeout] at hdue hsteps
  rw [htimeout, hwait, hwindow] at hhigh
  -- The operation has only one run, which is the one that was played.
  obtain ⟨u, l'', run', follows', hstores⟩ := hrun
  obtain ⟨rfl, -⟩ := run'.unique follows' run follows
  exact ⟨l, t, l', htimeout, hwait, hwindow, run, follows, hstores, hmode, hsteps (by decide), hdue,
    hhigh⟩

end GroundLink.Listener
