import GroundLink.Proofs.Activity.Attains
import GroundLink.Proofs.Activity.Clock
import GroundLink.Proofs.Listener.Reports
import GroundLink.Proofs.Listener.Sound
import GroundLink.Proofs.Time.Span

/-!
# The pace of a listener

What the routines of a listener attain in a world whose clock moves only while the listener sleeps.
Nothing is assumed about the other answers: the link may have data or not, receive packets, receive
nothing or fail, and requests may be made at any time.

* `Listener.Keeps` is what all the routines keep, together with the time that they take.
* `Listener.Waited` is what can be said of a wait for a limited time: it is as long as its limit,
  and not longer than one pause more, unless a request cuts it short.
* `Listener.Collects` is what can be said of a step of collecting replies: how long it takes at
  most, and what it spends at least.

Every deed has a charge: for what is slept, for what is handled and for what is stored.  A loop that
waits ends for one of two reasons.  If sleep is charged, each of its rounds has its cost, also if
the clock starts over.  If sleep is free, the clock must have room for the wait (`Listener.Bounds`),
and then each round takes some of the time that is left.
-/

namespace GroundLink

/-- Whether a deed of the listener finds a request, or finds that nobody is left to make one. -/
def Deed.isHeard (d : Deed Listener) : Bool :=
  match d.incoming? with
  | some (.request _) | some .disconnected => true
  | _ => false

namespace Listener

open Routine (Attains)

def heard (t : Trace Listener) : Nat := t.countP Deed.isHeard

def requested (t : Trace Listener) : Nat := t.countP fun d => d.handled?.isSome

/-- The charge of a deed: the time that it takes at a rate, one for a request, and so much for a
batch. -/
def charge (rate batch : Nat) (d : Deed Listener) : Nat :=
  rate * d.slept + (if d.handled?.isSome then 1 else 0) + if d.isStore then batch else 0

variable {world : Trace Listener → (effect : Effect) → effect.Answer} {clock : SteppingClock}
  {rate batch budget limit pause m n : Nat} {l l' l'' : Listener} {p t u : Trace Listener}

/-! ### Counting -/

theorem heard_append (t u : Trace Listener) : heard (t ++ u) = heard t + heard u :=
  List.countP_append

theorem requested_append (t u : Trace Listener) :
    requested (t ++ u) = requested t + requested u :=
  List.countP_append

theorem cost_charge (rate batch : Nat) (t : Trace Listener) :
    Trace.cost (charge rate batch) t = rate * Trace.slept t + requested t + batch * stores t := by
  induction t with
  | nil => rfl
  | cons d t ih =>
    have hcost : Trace.cost (charge rate batch) (d :: t) =
        charge rate batch d + Trace.cost (charge rate batch) t := List.sum_cons
    have hrequested : requested (d :: t) = requested t + if d.handled?.isSome then 1 else 0 :=
      List.countP_cons
    have hstores : stores (d :: t) = stores t + if d.isStore then 1 else 0 := List.countP_cons
    have hbatch : batch * (stores t + if d.isStore then 1 else 0) =
        batch * stores t + if d.isStore then batch else 0 := by
      split <;> simp [Nat.mul_add]
    rw [hcost, ih, Trace.slept_cons, Nat.mul_add, hrequested, hstores, hbatch, charge]
    omega

/-! ### What a listener keeps -/

/-- What the routines of a listener keep of its state, except those that begin, count or end
operations, and the time that they take. -/
structure Keeps (n : Nat) (l : Listener) (t : Trace Listener) (l' : Listener) : Prop where
  slept_eq : Trace.slept t = n
  settings_eq : l'.settings = l.settings
  mode_eq : l'.mode = l.mode
  steps_eq : l'.steps = l.steps
  /-- Without a request to, the listener neither ends an operation nor shuts down. -/
  stays : (∀ d ∈ t, ¬ Overtakes d) →
    l'.isFinished = l.isFinished ∧ l'.isShutDown = l.isShutDown
  shut : l.isShutDown = true → l'.isShutDown = true
  /-- What is heard is a request, or else the listener shuts down. -/
  cause : 0 < heard t → 0 < requested t ∨ l'.isShutDown = true

namespace Keeps

/-- If nothing is heard, nothing changes. -/
theorem of_silent (time : Trace.slept t = n) (silent : heard t = 0) : Keeps n l t l where
  slept_eq := time
  settings_eq := rfl
  mode_eq := rfl
  steps_eq := rfl
  stays _ := ⟨rfl, rfl⟩
  shut := id
  cause h := by omega

theorem trans (first : Keeps m l t l') (second : Keeps n l' u l'') :
    Keeps (m + n) l (t ++ u) l'' where
  slept_eq := by rw [Trace.slept_append, first.slept_eq, second.slept_eq]
  settings_eq := second.settings_eq.trans first.settings_eq
  mode_eq := second.mode_eq.trans first.mode_eq
  steps_eq := second.steps_eq.trans first.steps_eq
  stays h := by
    obtain ⟨before, after⟩ := List.forall_mem_append.mp h
    obtain ⟨finished, awake⟩ := first.stays before
    obtain ⟨finished', awake'⟩ := second.stays after
    exact ⟨finished'.trans finished, awake'.trans awake⟩
  shut h := second.shut (first.shut h)
  cause h := by
    rw [heard_append] at h
    rw [requested_append]
    by_cases later : heard u = 0
    · exact (first.cause (by omega)).imp (fun handled => by omega) second.shut
    · exact (second.cause (by omega)).imp_left fun handled => by omega

/-- What takes no time may come before. -/
theorem after (second : Keeps n l' u l'') (first : Keeps 0 l t l') : Keeps n l (t ++ u) l'' := by
  have h := first.trans second
  rw [Nat.zero_add] at h
  exact h

theorem sleep (l : Listener) (time : Span) : Keeps time.nanos l [⟨l, .sleep time, ()⟩] l :=
  of_silent rfl rfl

theorem handle (l : Listener) (r : Request) :
    Keeps 0 l [⟨l, .nextRequest, .request r⟩] (l.handle r).1 where
  slept_eq := rfl
  settings_eq := handle_settings l r
  mode_eq := handle_mode l r
  steps_eq := handle_steps l r
  stays h := handle_stays (h _ (List.mem_singleton_self _))
  shut := handle_isShutDown
  cause _ := .inl Nat.one_pos

/-- Nobody is left to make requests. -/
theorem disconnect (l : Listener) :
    Keeps 0 l [⟨l, .nextRequest, .disconnected⟩] { l with isShutDown := true } where
  slept_eq := rfl
  settings_eq := rfl
  mode_eq := rfl
  steps_eq := rfl
  stays h := absurd trivial (h _ (List.mem_singleton_self _))
  shut _ := rfl
  cause _ := .inr rfl

end Keeps

/-! ### Routines that take no time -/

theorem attains_log (entries : List Log.Entry) :
    Attains world (charge rate batch) budget (Routine.log entries)
      (fun _ t l' => l' = l ∧ Trace.slept t = 0 ∧ heard t = 0) p l := by
  unfold Routine.log
  split
  · exact Routine.attains_pure ⟨rfl, rfl, rfl⟩
  · exact Routine.attains_perform ⟨rfl, rfl, rfl⟩

/-- A request that was received is handled. -/
theorem attains_accept (r : Request) :
    Attains world (charge rate batch) budget (accept r)
      (fun _ t l' => Keeps 0 l ([⟨l, .nextRequest, .request r⟩] ++ t) l') p l := by
  refine Routine.attains_get_bind (Routine.attains_set_bind ?_)
  refine Attains.bind (attains_log _) ?_
  rintro _ t _ ⟨rfl, still, silent⟩
  refine Routine.attains_pure ?_
  rw [List.append_nil]
  exact (Keeps.handle l r).trans (.of_silent still silent)

/-- **Handling requests** takes no time, and only stops a reading activity for what is heard. -/
theorem attains_handleRequests :
    Attains world (charge rate batch) budget handleRequests
      (fun stops t l' => Keeps 0 l t l' ∧ (stops = true → 0 < heard t)) p l := by
  unfold handleRequests
  refine Attains.iterate (fun _ t s => Keeps 0 l t s) (fun _ _ => 0) ?_ (.of_silent rfl rfl)
  intro _ t s keeps
  refine Routine.attains_perform_bind ?_
  cases world (p ++ t) .nextRequest with
  -- A request was heard, which counts in any case and pays for one more round.
  | request r =>
    have hone (u : Trace Listener) : 0 < requested ([⟨s, .nextRequest, .request r⟩] ++ u) := by
      rw [requested_append]
      exact Nat.add_pos_left Nat.one_pos _
    have hheard (u : Trace Listener) :
        0 < heard (t ++ ([⟨s, .nextRequest, .request r⟩] ++ u)) := by
      rw [heard_append, heard_append]
      exact Nat.add_pos_right _ (Nat.add_pos_left Nat.one_pos _)
    refine Attains.bind (attains_accept r) ?_
    intro stops u s' hkeeps
    cases stops with
    | true =>
      refine Routine.attains_pure ?_
      rw [List.append_nil]
      exact ⟨keeps.trans hkeeps, fun _ => hheard u⟩
    | false =>
      refine Routine.attains_pure ?_
      rw [List.append_nil]
      refine ⟨keeps.trans hkeeps, .inl ?_⟩
      rw [cost_charge]
      have := hone u
      exact Nat.add_pos_left (Nat.add_pos_right _ this) _
  | nothing =>
    have hnothing : Keeps 0 s [⟨s, .nextRequest, .nothing⟩] s := .of_silent rfl rfl
    exact Routine.attains_pure ⟨keeps.trans hnothing, nofun⟩
  -- Nobody is left to make requests, which is heard as well.
  | disconnected =>
    refine Routine.attains_modify_bind (Routine.attains_pure ⟨keeps.trans (.disconnect s), ?_⟩)
    intro _
    rw [heard_append]
    exact Nat.add_pos_right _ Nat.one_pos

/-- **A poll** takes no time, and what it receives is stored. -/
theorem attains_pollOnce :
    Attains world (charge rate batch) budget pollOnce
      (fun received t l' => Keeps 0 l t l' ∧ heard t = 0 ∧ (received = true → 0 < stores t))
      p l := by
  unfold pollOnce
  refine Routine.attains_perform_bind ?_
  cases world p .poll with
  | error cause =>
    refine Routine.attains_perform_bind (Routine.attains_pure ?_)
    exact ⟨.of_silent rfl rfl, rfl, nofun⟩
  | ok polled =>
    obtain ⟨received, packets⟩ := polled
    show Attains _ _ _ (if (received && !packets.isEmpty) = true then _ else _) _ _ _
    split
    · refine Routine.attains_perform_bind (Routine.attains_pure ?_)
      exact ⟨.of_silent rfl rfl, rfl, fun _ => Nat.one_pos⟩
    · exact Routine.attains_pure ⟨.of_silent rfl rfl, rfl, nofun⟩

theorem attains_isDataAvailable :
    Attains world (charge rate batch) budget isDataAvailable (fun _ t l' => Keeps 0 l t l') p l := by
  unfold isDataAvailable
  refine Routine.attains_perform_bind ?_
  cases world p .available with
  | error cause =>
    exact Routine.attains_perform_bind (Routine.attains_pure (.of_silent rfl rfl))
  | ok available => exact Routine.attains_pure (.of_silent rfl rfl)

/-! ### Waiting for a limited time -/

/-- The clock of a world only moves while the listener sleeps. -/
def Paced (clock : SteppingClock)
    (world : Trace Listener → (effect : Effect) → effect.Answer) : Prop :=
  ∀ p, world p .now = (clock.after p).now

theorem Paced.elapsed (paced : Paced clock world) (lasts : clock.Lasts (p ++ t)) :
    (world (p ++ t) .now - world p .now).nanos = Trace.slept t := by
  rw [paced, paced]
  exact SteppingClock.elapsed_after lasts

theorem Paced.elapsed_of_still (paced : Paced clock world) (still : Trace.slept t = 0) :
    (world (p ++ t) .now - world p .now).nanos = 0 := by
  rw [paced, paced]
  exact SteppingClock.elapsed_after_still still

/-- A wait of at most so long is bounded: sleep is charged, or the clock has room for all of it. -/
def Bounds (rate : Nat) (clock : SteppingClock) (time : Nat) (p : Trace Listener) : Prop :=
  0 < rate ∨ clock.HasRoom time p

/-- What holds while a listener waits, in pauses, for no longer than a limit: it looked at the clock
after the deeds `p`, and in what it did since, it slept for `n`. -/
structure Waits (clock : SteppingClock) (limit pause n : Nat) (l : Listener) (p t : Trace Listener)
    (l' : Listener) : Prop extends Keeps n l t l' where
  within : clock.HasRoom (limit + pause) p → n < limit + pause
  pauses : n = 0 ∨ pause ≤ n

/-- A wait that has not reached its limit. -/
structure Early (clock : SteppingClock) (limit pause n : Nat) (l : Listener) (p t : Trace Listener)
    (l' : Listener) : Prop extends Waits clock limit pause n l p t l' where
  early : clock.HasRoom (limit + pause) p → n < limit

/-- A wait that is over: it was as long as its limit, or something was heard.  If there was anything
to wait for, it had a pause, also if the clock started over. -/
structure Waited (clock : SteppingClock) (limit pause n : Nat) (l : Listener) (p t : Trace Listener)
    (l' : Listener) : Prop extends Waits clock limit pause n l p t l' where
  ended : 0 < heard t ∨
    (clock.HasRoom (limit + pause) p → limit ≤ n) ∧ (0 < limit → pause ≤ n)

namespace Waits

theorem start (positive : 0 < pause) (keeps : Keeps 0 l t l') :
    Waits clock limit pause 0 l p t l' where
  toKeeps := keeps
  within _ := by omega
  pauses := .inl rfl

theorem look (h : Waits clock limit pause n l p t l') (keeps : Keeps 0 l' u l'') :
    Waits clock limit pause n l p (t ++ u) l'' where
  toKeeps := h.toKeeps.trans keeps
  within := h.within
  pauses := h.pauses

/-- A clock that has room for the wait does not start over before its end. -/
theorem lasts (h : Waits clock limit pause n l p t l') (room : clock.HasRoom (limit + pause) p) :
    clock.Lasts (p ++ t) := by
  refine room.lasts ?_
  rw [h.slept_eq]
  exact Nat.le_of_lt (h.within room)

/-- A wait ends when something is heard. -/
theorem interrupt (h : Waits clock limit pause n l p t l') (keeps : Keeps 0 l' u l'')
    (told : 0 < heard u) : Waited clock limit pause n l p (t ++ u) l'' where
  toWaits := h.look keeps
  ended := by
    rw [heard_append]
    exact .inl (by omega)

/-- When the clock shows the limit, the wait is over. -/
theorem timeOut (h : Waits clock limit pause n l p t l') (paced : Paced clock world)
    (due : limit ≤ (world (p ++ t) .now - world p .now).nanos) (keeps : Keeps 0 l' u l'') :
    Waited clock limit pause n l p (t ++ u) l'' where
  toWaits := h.look keeps
  ended := by
    refine .inr ⟨fun room => ?_, fun positive => ?_⟩
    · rw [paced.elapsed (h.lasts room), h.slept_eq] at due
      exact due
    -- Without a pause the clock would stand still, and so it would not show the limit.
    · rcases h.pauses with hnone | hsome
      · rw [paced.elapsed_of_still (h.slept_eq.trans hnone)] at due
        omega
      · exact hsome

/-- As long as the clock does not show the limit, it is not reached. -/
theorem goOn (h : Waits clock limit pause n l p t l') (paced : Paced clock world)
    (early : ¬ limit ≤ (world (p ++ t) .now - world p .now).nanos) (keeps : Keeps 0 l' u l'') :
    Early clock limit pause n l p (t ++ u) l'' where
  toWaits := h.look keeps
  early room := by
    rw [paced.elapsed (h.lasts room), h.slept_eq] at early
    omega

/-- **A round with a pause** has its cost, or takes some of the time that is left. -/
theorem shrinks (h : Waits clock limit pause n l p t l') (positive : 0 < pause)
    (bounds : Bounds rate clock (limit + pause) p)
    (later : Waits clock limit pause (n + pause) l p (t ++ u) l'') :
    0 < Trace.cost (charge rate batch) u ∨
      limit + pause - Trace.slept (t ++ u) < limit + pause - Trace.slept t := by
  have hround : Trace.slept u = pause := by
    have hall := later.slept_eq
    rw [Trace.slept_append, h.slept_eq] at hall
    omega
  rcases bounds with charged | room
  · have := Nat.mul_pos charged positive
    refine .inl ?_
    rw [cost_charge, hround]
    omega
  · have := h.within room
    refine .inr ?_
    rw [later.slept_eq, h.slept_eq]
    omega

end Waits

/-- Before the limit is reached, there is time for a pause. -/
theorem Early.sleep (h : Early clock limit pause n l p t l') (keeps : Keeps pause l' u l'') :
    Waits clock limit pause (n + pause) l p (t ++ u) l'' where
  toKeeps := h.toKeeps.trans keeps
  within room := Nat.add_lt_add_right (h.early room) pause
  pauses := .inr (Nat.le_add_left pause n)

/-- **Waiting for the first packet**: either it comes before the time is up, or the wait is over. -/
theorem attains_awaitFirstData (paced : Paced clock world) (bounds : Bounds rate clock
    (l.firstDataTimeout.nanos + Settings.firstDataInterval.nanos) p) :
    Attains world (charge rate batch) budget awaitFirstData
      (fun found t l' => ∃ n,
        (found = true → Early clock l.firstDataTimeout.nanos Settings.firstDataInterval.nanos n l p
          t l') ∧
        (found = false → Waited clock l.firstDataTimeout.nanos Settings.firstDataInterval.nanos n
          l p t l')) p l := by
  unfold awaitFirstData
  refine Routine.attains_perform_bind ?_
  have hstart : Keeps 0 l [⟨l, .now, world p .now⟩] l := .of_silent rfl rfl
  refine Attains.iterate_shrinking
    (fun _ t s => ∃ n, Waits clock l.firstDataTimeout.nanos Settings.firstDataInterval.nanos n l p
      ([⟨l, .now, world p .now⟩] ++ t) s)
    (fun _ t _ => l.firstDataTimeout.nanos + Settings.firstDataInterval.nanos -
      Trace.slept ([⟨l, .now, world p .now⟩] ++ t)) ?_ ⟨0, .start (by decide) hstart⟩
  rintro _ t s ⟨n, waits⟩
  have htimeout : s.firstDataTimeout = l.firstDataTimeout := by
    rw [firstDataTimeout, firstDataTimeout, waits.settings_eq]
  rw [List.append_assoc]
  refine Routine.attains_get_bind (Routine.attains_elapsedSince_bind ?_)
  have hnow : Keeps 0 s [⟨s, .now, world (p ++ ([⟨l, .now, world p .now⟩] ++ t)) .now⟩] s :=
    .of_silent rfl rfl
  rw [htimeout]
  split
  -- The time is up, and there was no packet.
  case isTrue due =>
    exact Routine.attains_pure ⟨n, nofun, fun _ => waits.timeOut paced due hnow⟩
  case isFalse early =>
    refine Attains.bind attains_handleRequests ?_
    rintro stops u s' ⟨keeps, told⟩
    cases stops with
    -- A request cuts the wait short.
    | true =>
      have hover := (waits.goOn paced early hnow).interrupt keeps (told rfl)
      simp only [List.append_assoc] at hover
      refine Routine.attains_pure ?_
      rw [List.append_nil]
      exact ⟨n, nofun, fun _ => hover⟩
    | false =>
      refine Attains.bind attains_isDataAvailable ?_
      intro available v s'' keeps'
      have hearly := waits.goOn paced early ((keeps'.after keeps).after hnow)
      cases available with
      | true =>
        refine Routine.attains_pure ?_
        rw [List.append_nil]
        exact ⟨n, fun _ => hearly, nofun⟩
      -- Only here the listener pauses, and the loop goes on.
      | false =>
        refine Routine.attains_perform_bind (Routine.attains_pure ?_)
        have hslept := hearly.sleep (Keeps.sleep s'' Settings.firstDataInterval)
        simp only [List.append_assoc] at hslept
        exact ⟨⟨_, hslept⟩, waits.shrinks (by decide) bounds hslept⟩

/-- **Reading a sequence** takes the whole time for it, unless something is heard. -/
theorem attains_readSequence (paced : Paced clock world) (bounds : Bounds rate clock
    (l.settings.tmTimeout.nanos + Settings.sequenceInterval.nanos) p) :
    Attains world (charge rate batch) budget readSequence
      (fun _ t l' => ∃ n, Waited clock l.settings.tmTimeout.nanos Settings.sequenceInterval.nanos n
        l p t l') p l := by
  unfold readSequence
  refine Routine.attains_perform_bind ?_
  have hstart : Keeps 0 l [⟨l, .now, world p .now⟩] l := .of_silent rfl rfl
  refine Attains.iterate_shrinking
    (fun _ t s => ∃ n, Waits clock l.settings.tmTimeout.nanos Settings.sequenceInterval.nanos n l p
      ([⟨l, .now, world p .now⟩] ++ t) s)
    (fun _ t _ => l.settings.tmTimeout.nanos + Settings.sequenceInterval.nanos -
      Trace.slept ([⟨l, .now, world p .now⟩] ++ t)) ?_ ⟨0, .start (by decide) hstart⟩
  rintro received t s ⟨n, waits⟩
  refine Attains.bind attains_pollOnce ?_
  rintro polled v s' ⟨keeps, -, -⟩
  have hpolled := waits.look keeps
  rw [List.append_assoc p, List.append_assoc p]
  refine Routine.attains_get_bind (Routine.attains_elapsedSince_bind ?_)
  have hnow : Keeps 0 s' [⟨s', .now, world (p ++ ([⟨l, .now, world p .now⟩] ++ t ++ v)) .now⟩] s' :=
    .of_silent rfl rfl
  rw [hpolled.settings_eq]
  split
  -- The poll was the last one, since the clock is read after it.
  case isTrue due =>
    have hover := hpolled.timeOut paced due hnow
    simp only [List.append_assoc] at hover
    exact Routine.attains_pure ⟨n, hover⟩
  case isFalse early =>
    refine Attains.bind attains_handleRequests ?_
    rintro stops u s'' ⟨keeps', told⟩
    cases stops with
    -- A request cuts the sequence short.
    | true =>
      have hover := (hpolled.goOn paced early hnow).interrupt keeps' (told rfl)
      simp only [List.append_assoc] at hover
      refine Routine.attains_pure ?_
      rw [List.append_nil]
      exact ⟨n, hover⟩
    -- Whatever the poll received, there is a pause before the next one.
    | false =>
      have hearly := hpolled.goOn paced early (keeps'.after hnow)
      have hslept := hearly.sleep (Keeps.sleep s'' Settings.sequenceInterval)
      simp only [List.append_assoc] at hslept
      refine Routine.attains_perform_bind (Routine.attains_pure ?_)
      exact ⟨⟨_, hslept⟩, waits.shrinks (by decide) bounds hslept⟩

/-! ### Steps of collecting replies -/

def Mode.IsReporting : Mode → Prop
  | .singleCommand | .serviceTest | .softwareTest => True
  | .listener | .unitTest => False

/-- How long a step of collecting replies takes at most. -/
def stepBound (l : Listener) : Nat :=
  l.firstDataTimeout.nanos + l.settings.tmTimeout.nanos + Settings.sequenceInterval.nanos

/-- A step of collecting replies, which takes the time `n`.  If there is any time to wait for data,
it takes a pause, unless something is heard. -/
structure Collects (clock : SteppingClock) (n : Nat) (l : Listener) (p t : Trace Listener)
    (l' : Listener) : Prop extends Keeps n l t l' where
  within : clock.HasRoom l.stepBound p → n < l.stepBound
  spends : l.mode = .unitTest ∨ 0 < l.firstDataTimeout.nanos →
    Settings.idleInterval.nanos ≤ n ∨ 0 < heard t ∨ l.mode = .unitTest ∧ 0 < stores t

/-- If there is any time to wait for data, there is time to collect it. -/
theorem tmTimeout_pos (h : 0 < l.firstDataTimeout.nanos) : 0 < l.settings.tmTimeout.nanos :=
  Span.pos_of_scale h

theorem idleInterval_le : Settings.idleInterval.nanos ≤ Settings.firstDataInterval.nanos ∧
    Settings.firstDataInterval.nanos ≤ Settings.sequenceInterval.nanos := by
  decide

theorem awaitBound_le (l : Listener) :
    l.firstDataTimeout.nanos + Settings.firstDataInterval.nanos ≤ l.stepBound := by
  have := idleInterval_le
  rw [stepBound]
  omega

/-- A wait for data that is over, with nothing to read. -/
theorem Waited.collects (h : Waited clock l.firstDataTimeout.nanos
    Settings.firstDataInterval.nanos n l p t l') (reporting : l.mode ≠ .unitTest) :
    Collects clock n l p t l' where
  toKeeps := h.toKeeps
  within room := Nat.lt_of_lt_of_le (h.within (room.mono l.awaitBound_le)) l.awaitBound_le
  spends hany := by
    have positive := hany.resolve_left reporting
    have := idleInterval_le
    rcases h.ended with told | ⟨-, paused⟩
    · exact .inr (.inl told)
    · have := paused positive
      exact .inl (by omega)

/-- A wait for data that was successful leaves room for the reading of a sequence. -/
theorem Early.room (h : Early clock l.firstDataTimeout.nanos Settings.firstDataInterval.nanos m l p
    t l') (room : clock.HasRoom l.stepBound p) :
    clock.HasRoom (l'.settings.tmTimeout.nanos + Settings.sequenceInterval.nanos) (p ++ t) := by
  have hearly := h.early (room.mono l.awaitBound_le)
  refine room.append ?_
  rw [h.slept_eq, h.settings_eq, stepBound]
  omega

/-- A wait for data that was successful, and the reading of a sequence. -/
theorem Early.collects (h : Early clock l.firstDataTimeout.nanos
    Settings.firstDataInterval.nanos m l p t l') (reporting : l.mode ≠ .unitTest)
    (reads : Waited clock l'.settings.tmTimeout.nanos Settings.sequenceInterval.nanos n l' (p ++ t)
      u l'') : Collects clock (m + n) l p (t ++ u) l'' where
  toKeeps := h.toKeeps.trans reads.toKeeps
  within room := by
    have hfirst := h.early (room.mono l.awaitBound_le)
    have hread := reads.within (h.room room)
    rw [h.settings_eq] at hread
    rw [stepBound]
    omega
  spends hany := by
    have positive := tmTimeout_pos (hany.resolve_left reporting)
    have := idleInterval_le
    rw [heard_append]
    rcases reads.ended with told | ⟨-, paused⟩
    · exact .inr (.inl (by omega))
    · rw [h.settings_eq] at paused
      have := paused positive
      exact .inl (by omega)

/-- What follows without taking time or hearing anything belongs to the step. -/
theorem Collects.look (h : Collects clock n l p t l') (still : Trace.slept u = 0)
    (silent : heard u = 0) : Collects clock n l p (t ++ u) l' where
  toKeeps := h.toKeeps.trans (.of_silent still silent)
  within := h.within
  spends hany := by
    rw [heard_append, stores_append]
    exact (h.spends hany).imp_right
      (Or.imp (fun told => by omega) (And.imp_right fun stored => by omega))

theorem attains_checkForSequence (paced : Paced clock world) (reporting : l.mode ≠ .unitTest)
    (bounds : Bounds rate clock l.stepBound p) :
    Attains world (charge rate batch) budget checkForSequence
      (fun _ t l' => ∃ n, Collects clock n l p t l') p l := by
  unfold checkForSequence
  have hawait := bounds.imp_right fun room => room.mono l.awaitBound_le
  refine Attains.bind (attains_awaitFirstData paced hawait) ?_
  rintro found t l' ⟨m, early, waited⟩
  cases found with
  | true =>
    have hread := bounds.imp_right (early rfl).room
    refine Attains.mono (attains_readSequence paced hread) ?_
    rintro received u l'' ⟨n, reads⟩
    exact ⟨m + n, (early rfl).collects reporting reads⟩
  | false =>
    refine Routine.attains_pure ⟨m, ?_⟩
    rw [List.append_nil]
    exact (waited rfl).collects reporting

/-- **Collecting replies**, in any mode but the default one. -/
theorem attains_collectReplies (paced : Paced clock world) (operating : l.mode ≠ .listener)
    (bounds : Bounds rate clock l.stepBound p) :
    Attains world (charge rate batch) budget collectReplies
      (fun _ t l' => ∃ n, Collects clock n l p t l') p l := by
  -- The modes that report replies do the same, and what follows the sequence takes no time.
  have reports (reporting : l.mode ≠ .unitTest) : Attains world (charge rate batch) budget
      reportSequence (fun _ t l' => ∃ n, Collects clock n l p t l') p l := by
    refine Attains.bind (attains_checkForSequence paced reporting bounds) ?_
    rintro received t l' ⟨n, collects⟩
    cases received with
    | false =>
      refine Routine.attains_pure ⟨n, ?_⟩
      rw [List.append_nil]
      exact collects
    | true =>
      refine Routine.attains_perform_bind ?_
      split
      · exact Routine.attains_perform ⟨n, collects.look rfl rfl⟩
      · exact Routine.attains_pure ⟨n, collects.look rfl rfl⟩
  unfold collectReplies
  refine Routine.attains_get_bind ?_
  split
  case h_1 hmode => exact absurd hmode operating
  -- A unit test polls once, and pauses only if that received nothing.
  case h_5 hmode =>
    refine Attains.bind attains_pollOnce ?_
    rintro received t l' ⟨keeps, silent, stored⟩
    cases received with
    | true =>
      refine Routine.attains_pure ⟨0, ?_⟩
      rw [List.append_nil]
      exact
        { toKeeps := keeps
          within := fun _ => Nat.add_pos_right _ (by decide)
          spends := fun _ => .inr (.inr ⟨hmode, stored rfl⟩) }
    | false =>
      refine Routine.attains_perform ⟨Settings.idleInterval.nanos, ?_⟩
      exact
        { toKeeps := (Keeps.sleep l' Settings.idleInterval).after keeps
          within := fun _ => Nat.lt_add_left _ (by decide)
          spends := fun _ => .inl (Nat.le_refl _) }
  case h_2 hmode => exact reports (by rw [hmode]; decide)
  case h_3 hmode => exact reports (by rw [hmode]; decide)
  case h_4 hmode => exact reports (by rw [hmode]; decide)

/-- **A step of an operation** collects replies and is counted. -/
theorem attains_stepOperation (paced : Paced clock world) (operating : l.mode ≠ .listener)
    (bounds : Bounds rate clock l.stepBound p) :
    Attains world (charge rate batch) budget stepOperation
      (fun _ t l' => ∃ n s, Collects clock n l p t s ∧ l' = { s with steps := s.steps + 1 })
      p l := by
  unfold stepOperation
  refine Attains.bind (attains_collectReplies paced operating bounds) ?_
  rintro _ t s ⟨n, collects⟩
  refine Routine.attains_modify ⟨n, s, ?_, rfl⟩
  rw [List.append_nil]
  exact collects

end Listener

end GroundLink
