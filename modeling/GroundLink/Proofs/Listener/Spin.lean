import GroundLink.Proofs.Client.Precedence
import GroundLink.Proofs.Listener.Ceiling

/-!
# Operations that spin

An operation that reports replies waits for data before it collects any.  If the time to wait is
empty, a step of it is nothing but two looks at the clock.  It neither handles a request nor stores
a batch nor sleeps, so the clock stands still, and an operation that nobody interrupts never ends
(`Listener.not_halts_runOperation_of_noWait`).  Otherwise every step spends something, and an
operation ends when its time is up, or before (`Listener.runOperation_ends_or_spins`).

The time to wait is empty if the collection window is, and the client accepts that.
-/

namespace GroundLink.Listener

open Activity (Follows Reaches)
open Client (CommandLine Config ConfigFile LinkKind exists_of_bind_eq_ok)
open Routine (Attains Halts)

variable {world : Trace Listener → (effect : Effect) → effect.Answer} {clock : SteppingClock}
  {fee : Deed Listener → Nat} {budget : Nat} {mode : Mode} {l l' s s' : Listener}
  {p t u : Trace Listener}

/-! ### Settings that the client accepts -/

theorem settingsFor_operationTimeout {line : CommandLine} {kind : LinkKind}
    {file : ConfigFile.TrafficSection} {settings : Settings}
    (accepted : line.settingsFor kind file = .ok settings) :
    settings.operationTimeout = Span.ofSecs 300 := by
  unfold CommandLine.settingsFor at accepted
  obtain ⟨window, -, hwindow⟩ := exists_of_bind_eq_ok accepted
  obtain ⟨-, -, hfactor⟩ := exists_of_bind_eq_ok hwindow
  cases hfactor
  rfl

/-- Over settings that the client accepts, an operation may take five minutes. -/
theorem configure_operationTimeout {line : CommandLine} {file : ConfigFile} {config : Config}
    (accepted : line.configure file = .ok config) :
    config.operation.settings.operationTimeout = Span.ofSecs 300 := by
  unfold CommandLine.configure at accepted
  split at accepted
  case h_1 mode _ =>
    obtain ⟨service, -, hservice⟩ := exists_of_bind_eq_ok accepted
    obtain ⟨link, -, hlink⟩ := exists_of_bind_eq_ok hservice
    obtain ⟨settings, hsettings, hconfig⟩ := exists_of_bind_eq_ok hlink
    cases hconfig
    exact settingsFor_operationTimeout hsettings
  case h_2 => cases accepted

/-! ### What a step spends -/

/-- Something was used up in some deeds: a request, a batch, the connection of the request channel,
or the time of a pause. -/
def Spends (t : Trace Listener) : Prop :=
  0 < requested t ∨ 0 < stores t ∨ (∃ d ∈ t, d.incoming? = some .disconnected) ∨
    Settings.idleInterval.nanos ≤ Trace.slept t

/-- What is heard is a request, or that nobody is left to make one. -/
theorem requested_of_heard (told : 0 < heard t) :
    0 < requested t ∨ ∃ d ∈ t, d.incoming? = some .disconnected := by
  obtain ⟨d, hd, hheard⟩ := List.countP_pos_iff.mp told
  rw [Deed.isHeard] at hheard
  cases hincoming : d.incoming? with
  | none => simp [hincoming] at hheard
  | some incoming =>
    cases incoming with
    | request r =>
      refine .inl (List.countP_pos_iff.mpr ⟨d, hd, ?_⟩)
      rw [Deed.handled?, hincoming]
      rfl
    | nothing => simp [hincoming] at hheard
    | disconnected => exact .inr ⟨d, hd, hincoming⟩

/-- **A step spends something**, if the listener only polls or there is time to wait for data. -/
theorem stepOperation_spends (paced : Paced clock world) (operating : l.mode ≠ .listener)
    (waits : l.mode = .unitTest ∨ 0 < l.firstDataTimeout.nanos)
    (run : stepOperation.Completes l t () l') (follows : Follows world p t) : Spends t := by
  -- Sleep is charged, so nothing is asked of the clock: it may start over.
  have hattains (budget : Nat) : Attains world (charge 1 0) budget stepOperation
      (fun _ t l' => ∃ n s, Collects clock n l p t s ∧ l' = { s with steps := s.steps + 1 }) p l :=
    attains_stepOperation paced operating (.inl Nat.one_pos)
  obtain ⟨n, s, collects, -⟩ := (hattains _).of_completes run follows (Nat.le_refl _)
  rcases collects.spends waits with sleeps | told | ⟨-, stored⟩
  · rw [← collects.slept_eq] at sleeps
    exact .inr (.inr (.inr sleeps))
  · rcases requested_of_heard told with handled | gone
    · exact .inl handled
    · exact .inr (.inr (.inl gone))
  · exact .inr (.inl stored)

/-- Two looks at the clock, and nothing else. -/
def Glances (l : Listener) (t : Trace Listener) : Prop :=
  ∃ start reading, t = [⟨l, .now, start⟩, ⟨l, .now, reading⟩]

theorem Glances.not_spends (h : Glances l t) : ¬ Spends t := by
  obtain ⟨start, reading, rfl⟩ := h
  rintro (handled | stored | ⟨d, hd, gone⟩ | sleeps)
  · cases handled
  · cases stored
  · simp only [List.mem_cons, List.not_mem_nil, or_false] at hd
    obtain rfl | rfl := hd
    · cases gone
    · cases gone
  · have hnothing : Trace.slept [(⟨l, .now, start⟩ : Deed Listener), ⟨l, .now, reading⟩] = 0 := rfl
    rw [hnothing] at sleeps
    exact absurd sleeps (by decide)

/-- **A step that does not wait**: the listener looks at the clock twice. -/
theorem attains_stepOperation_of_noWait (reporting : l.mode.IsReporting)
    (noWait : l.firstDataTimeout.nanos = 0) :
    Attains world fee budget stepOperation
      (fun _ t l' => Glances l t ∧ l' = { l with steps := l.steps + 1 }) p l := by
  have hawait : Attains world fee budget awaitFirstData
      (fun found t l' => found = false ∧ Glances l t ∧ l' = l) p l := by
    unfold awaitFirstData
    refine Routine.attains_perform_bind ?_
    refine Attains.iterate (fun _ t s => t = [] ∧ s = l) (fun _ _ => 0) ?_ ⟨rfl, rfl⟩
    rintro _ _ s ⟨rfl, rfl⟩
    refine Routine.attains_get_bind (Routine.attains_elapsedSince_bind ?_)
    -- No time at all is already up at the first look.
    have hdue (time : Span) : s.firstDataTimeout ≤ time := by
      show s.firstDataTimeout.nanos ≤ time.nanos
      omega
    rw [if_pos (hdue _)]
    exact Routine.attains_pure ⟨rfl, ⟨_, _, rfl⟩, rfl⟩
  have hcollect : Attains world fee budget reportSequence
      (fun _ t l' => Glances l t ∧ l' = l) p l := by
    refine Attains.bind (Attains.bind hawait ?_)
      (Q := fun received t l' => received = false ∧ Glances l t ∧ l' = l) ?_
    · rintro _ t _ ⟨rfl, glances, rfl⟩
      refine Routine.attains_pure ?_
      rw [List.append_nil]
      exact ⟨rfl, glances, rfl⟩
    · rintro _ t _ ⟨rfl, glances, rfl⟩
      refine Routine.attains_pure ?_
      rw [List.append_nil]
      exact ⟨glances, rfl⟩
  unfold stepOperation
  refine Attains.bind (Q := fun _ t l' => Glances l t ∧ l' = l) ?_ ?_
  · unfold collectReplies
    refine Routine.attains_get_bind ?_
    split
    -- The default mode and the mode without reports do not look for first data.
    case h_1 hmode => simp [hmode, Mode.IsReporting] at reporting
    case h_5 hmode => simp [hmode, Mode.IsReporting] at reporting
    all_goals exact hcollect
  · rintro _ t _ ⟨glances, rfl⟩
    refine Routine.attains_modify ?_
    rw [List.append_nil]
    exact ⟨glances, rfl⟩

/-! ### Operations that never end -/

/-- A round of an operation that does not wait, long before its time is up. -/
theorem attains_round_of_noWait {start : Span} (unasked : Unasked world)
    (reporting : s.mode.IsReporting) (noWait : s.firstDataTimeout.nanos = 0)
    (goesOn : s.isFinished = false) (awake : s.isShutDown = false)
    (early : (world p .now - start).nanos < s.settings.operationTimeout.nanos) :
    Attains world fee budget (operationRound mode start)
      (fun r u s' => r = .inl () ∧ u ≠ [] ∧ Trace.slept u = 0 ∧
        s' = { s with steps := s.steps + 1 }) p s := by
  unfold operationRound
  refine Routine.attains_get_bind ?_
  rw [if_neg (by simp [goesOn, awake])]
  refine Routine.attains_elapsedSince_bind ?_
  rw [if_neg (show ¬ s.settings.operationTimeout ≤ world p .now - start from
    Nat.not_le.mpr early)]
  refine Attains.bind (attains_handleRequests_of_unasked unasked) ?_
  rintro _ _ s' ⟨rfl, rfl, rfl⟩
  refine Attains.bind (attains_stepOperation_of_noWait reporting noWait) ?_
  rintro _ v _ ⟨⟨start, reading, rfl⟩, rfl⟩
  exact Routine.attains_pure ⟨rfl, by simp, rfl, rfl⟩

theorem not_halts_operationLoop_of_noWait (paced : Paced clock world) (unasked : Unasked world)
    (reporting : l.mode.IsReporting) (noWait : l.firstDataTimeout.nanos = 0)
    (timeout : 0 < l.settings.operationTimeout.nanos) (goesOn : l.isFinished = false)
    (awake : l.isShutDown = false) :
    ¬ Halts world (Routine.iterate () fun _ => operationRound mode (world p .now))
      (p ++ [⟨l, .now, world p .now⟩]) l := by
  refine Routine.not_halts_iterate (fun _ t s => Trace.slept t = 0 ∧ s.settings = l.settings ∧
    s.mode = l.mode ∧ s.isFinished = false ∧ s.isShutDown = false) ?_
    ⟨rfl, rfl, rfl, goesOn, awake⟩
  rintro _ t s ⟨still, settings, mode, goesOn, awake⟩
  -- Nobody slept since the operation began, so its time is not up.
  have hnothing : (world (p ++ [⟨l, .now, world p .now⟩] ++ t) .now - world p .now).nanos = 0 := by
    rw [List.append_assoc]
    exact paced.elapsed_of_still ((Nat.zero_add _).trans still)
  rw [← mode] at reporting
  rw [firstDataTimeout, ← settings] at noWait
  rw [← settings, ← hnothing] at timeout
  obtain ⟨u, _, _, run, follows, rfl, busy, still', rfl⟩ :=
    (attains_round_of_noWait unasked reporting noWait goesOn awake timeout).ends_free
  refine ⟨u, (), _, run, follows, busy, ?_, settings, mode, goesOn, awake⟩
  rw [Trace.slept_append, still, still']

/-- **An operation that does not wait never ends**, if nobody asks for anything: however often the
listener looks at the clock, it stands still. -/
theorem not_halts_runOperation_of_noWait (paced : Paced clock world) (unasked : Unasked world)
    (reporting : mode.IsReporting) (noWait : l.settings.tcTimeout.nanos = 0)
    (timeout : 0 < l.settings.operationTimeout.nanos) (awake : l.isShutDown = false) :
    ¬ Halts world (runOperation mode) p l := by
  rw [runOperation_eq]
  -- The operation begins: its mode is announced, and the clock is read.
  refine Routine.not_halts_of_second (.act () (.refl _)) ⟨rfl, trivial⟩ ?_
  refine Routine.not_halts_of_second (.act () (.refl _)) ⟨rfl, trivial⟩ ?_
  refine Routine.not_halts_of_second (.refl _) trivial ?_
  refine Routine.not_halts_of_second (.act (world _ .now) (.refl _)) ⟨rfl, trivial⟩ ?_
  refine Routine.not_halts_of_first ?_
  exact not_halts_operationLoop_of_noWait paced unasked reporting noWait timeout rfl awake

/-! ### Operations that end, or spin -/

/-- Whether there is anything to wait for in the operation of a mode: the listener only polls in it,
or the time to wait for data is not empty. -/
def Waiting (mode : Mode) (settings : Settings) : Prop :=
  mode = .unitTest ∨ 0 < settings.tcTimeout.nanos

theorem not_waiting_iff (operating : mode ≠ .listener) (settings : Settings) :
    ¬ Waiting mode settings ↔ mode.IsReporting ∧ settings.tcTimeout.nanos = 0 := by
  rw [Waiting, not_or, Nat.not_lt, Nat.le_zero]
  refine and_congr_left fun _ => ?_
  cases mode <;> simp [Mode.IsReporting] at operating ⊢

/-- Whatever was done of an operation so far, no more requests and no more batches than `limit`
arrived. -/
def Limited (world : Trace Listener → (effect : Effect) → effect.Answer) (mode : Mode)
    (l : Listener) (limit : Nat) : Prop :=
  ∀ t b, Reaches (runOperation mode l) t b → Follows world [] t →
    requested t ≤ limit ∧ stores t ≤ limit

theorem Waiting.isCostly (waits : Waiting mode l.settings) : IsCostly 1 { l with mode } := by
  by_cases hmode : mode = .unitTest
  · exact .inl ⟨hmode, Nat.one_pos⟩
  · exact .inr ⟨hmode, waits.resolve_left hmode⟩

/-- **An operation ends** if there is anything to wait for, and if requests and packets do not keep
it busy forever. -/
theorem halts_runOperation (paced : Paced clock world)
    (room : clock.HasRoom l.ceiling ([] : Trace Listener)) (operating : mode ≠ .listener)
    (waits : Waiting mode l.settings) {limit : Nat} (limited : Limited world mode l limit) :
    Halts world (runOperation mode) [] l := by
  have hattains : Attains world (charge 0 1) (2 * limit) (runOperation mode)
      (fun _ t l' => Runs l t l') [] l :=
    attains_runOperation paced room operating waits.isCostly
  obtain ⟨t, x, l', run, follows, -⟩ := hattains.ends fun t b part follows => by
    obtain ⟨requests, packets⟩ := limited t b part follows
    rw [List.nil_append, cost_charge]
    omega
  exact ⟨t, (x, l'), run, follows⟩

/-- An operation that no request ended took as long as it may. -/
theorem runOperation_reaches_timeout (paced : Paced clock world)
    (room : clock.HasRoom l.ceiling ([] : Trace Listener)) (operating : mode ≠ .listener)
    (waits : Waiting mode l.settings) (run : (runOperation mode).Completes l t () l')
    (follows : Follows world [] t) :
    l.settings.operationTimeout.nanos ≤ ((clock.after t).elapsedSince clock.now).nanos ∨
      (∃ d ∈ t, Overtakes d) ∨ l.isShutDown = true := by
  have hattains (budget : Nat) : Attains world (charge 0 1) budget (runOperation mode)
      (fun _ t l' => Runs l t l') [] l :=
    attains_runOperation paced room operating waits.isCostly
  have hruns := (hattains _).of_completes run follows (Nat.le_refl _)
  rw [hruns.elapsed_eq room]
  rcases hruns.ended with told | gone | due
  · exact .inr (.inl told)
  · exact .inr (.inr gone)
  · exact .inl due

/-- **When an operation spins.**  In every mode but the default one, each step of an operation
spends something, unless the listener neither only polls nor has any time to wait for data: then a
step is two looks at the clock.  So in the first case an operation with finitely many requests and
packets ends, if the clock can count as long as it takes, and if it was not interrupted, it reached
its timeout.  In the second case, if nobody asks for anything, it never ends. -/
theorem runOperation_ends_or_spins (operating : mode ≠ .listener) (l : Listener)
    (clock : SteppingClock) (world : Trace Listener → (effect : Effect) → effect.Answer)
    (paced : Paced clock world) :
    (∀ s p t s', s.mode = mode → s.settings = l.settings → stepOperation.Completes s t () s' →
      Follows world p t →
      (Waiting mode l.settings → Spends t) ∧
        (¬ Waiting mode l.settings → Glances s t ∧ s' = { s with steps := s.steps + 1 })) ∧
    (Waiting mode l.settings → clock.nanos.toNat + l.settings.operationTimeout.nanos +
        l.settings.tcTimeout.nanos + l.settings.tmTimeout.nanos + 1000000000 < 2 ^ 64 →
      ∀ limit, Limited world mode l limit → Halts world (runOperation mode) [] l ∧
        ∀ t l', (runOperation mode).Completes l t () l' → Follows world [] t →
          l.settings.operationTimeout.nanos ≤ ((clock.after t).elapsedSince clock.now).nanos ∨
            (∃ d ∈ t, Overtakes d) ∨ l.isShutDown = true) ∧
    (¬ Waiting mode l.settings → Unasked world → l.isShutDown = false →
      0 < l.settings.operationTimeout.nanos → ¬ Halts world (runOperation mode) [] l) := by
  refine ⟨?steps, ?ends, ?spins⟩
  case steps =>
    rintro s p t s' rfl settings run follows
    rw [← settings]
    refine ⟨fun waits => stepOperation_spends paced operating waits run follows, fun idles => ?_⟩
    obtain ⟨reporting, noWait⟩ := (not_waiting_iff operating s.settings).mp idles
    have hstep : Attains world (fun _ => 0) 0 stepOperation
        (fun _ t l' => Glances s t ∧ l' = { s with steps := s.steps + 1 }) p s :=
      attains_stepOperation_of_noWait reporting noWait
    exact hstep.of_completes run follows (Nat.le_of_eq (Trace.cost_zero _))
  case ends =>
    intro waits fits limit limited
    have room := hasRoom_ceiling fits
    refine ⟨halts_runOperation paced room operating waits limited, fun t l' run follows => ?_⟩
    exact runOperation_reaches_timeout paced room operating waits run follows
  case spins =>
    intro idles unasked awake timeout
    obtain ⟨reporting, noWait⟩ := (not_waiting_iff operating l.settings).mp idles
    exact not_halts_runOperation_of_noWait paced unasked reporting noWait timeout awake

/-- Answers by which nothing happens, and a stepping clock shows the time. -/
def nothingGoesOn (clock : SteppingClock) (p : Trace Listener) : (effect : Effect) → effect.Answer
  | .now => (clock.after p).now
  | effect => effect.calm

/-- The client accepts an empty collection window, and then every operation that reports replies
spins. -/
theorem runOperation_ends_or_spins_empty_window :
    ∃ (line : CommandLine) (config : Config) (l : Listener), line.configure {} = .ok config ∧
      config.operation.settings.tmTimeout = 0 ∧ l.settings = config.operation.settings ∧
      ¬ Halts (nothingGoesOn .start) (runOperation .singleCommand) [] l ∧
      ∃ s t s', s.mode = .singleCommand ∧ s.settings = l.settings ∧
        stepOperation.Completes s t () s' ∧ Follows (nothingGoesOn .start) [] t ∧
        ¬ Spends t := by
  obtain ⟨line, config, accepted, window⟩ : ∃ (line : CommandLine) (config : Config),
      line.configure {} = .ok config ∧ config.operation.settings.tmTimeout = 0 := by
    -- An option of the command line is enough to get there.
    have hchecked : (match CommandLine.configure { tmTimeout := some 0.0 } {} with
        | .ok config => decide (config.operation.settings.tmTimeout = 0)
        | .error _ => false) = true := by decide +kernel
    split at hchecked
    case h_1 config accepted => exact ⟨_, config, accepted, of_decide_eq_true hchecked⟩
    case h_2 => cases hchecked
  have noWait : config.operation.settings.tcTimeout.nanos = 0 := by
    rw [Settings.tcTimeout, window, Span.scale_zero]
    rfl
  have operating : Mode.singleCommand ≠ .listener := by decide
  have idles : ¬ Waiting .singleCommand config.operation.settings :=
    (not_waiting_iff operating _).mpr ⟨trivial, noWait⟩
  obtain ⟨hsteps, -, hspins⟩ := runOperation_ends_or_spins operating
    (make config.operation.settings) .start (nothingGoesOn .start) fun _ => rfl
  have timeout : 0 < config.operation.settings.operationTimeout.nanos := by
    rw [configure_operationTimeout accepted]
    decide
  refine ⟨line, config, make config.operation.settings, accepted, window, rfl,
    hspins idles (fun _ => ⟨rfl, fun _ => rfl⟩) rfl timeout, ?_⟩
  obtain ⟨s, hmode, settings⟩ : ∃ s : Listener, s.mode = .singleCommand ∧
      s.settings = config.operation.settings :=
    ⟨{ make config.operation.settings with mode := .singleCommand }, rfl, rfl⟩
  have reporting : s.mode.IsReporting := by
    rw [hmode]
    trivial
  rw [← settings] at noWait
  have hstep : Attains (nothingGoesOn .start) (fun _ => 0) 0 stepOperation
      (fun _ t l' => Glances s t ∧ l' = { s with steps := s.steps + 1 }) [] s :=
    attains_stepOperation_of_noWait reporting noWait
  obtain ⟨t, ⟨⟩, s', run, follows, -⟩ := hstep.ends_free
  obtain ⟨glances, -⟩ := (hsteps s [] t s' hmode settings run follows).2 idles
  exact ⟨s, t, s', hmode, settings, run, follows, glances.not_spends⟩

end GroundLink.Listener
