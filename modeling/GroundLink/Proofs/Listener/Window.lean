import GroundLink.Proofs.Listener.Batches
import GroundLink.Proofs.Listener.Ceiling

/-!
# The collection window

Packets arrive at the link over time, and a poll takes all that have arrived since the last one.
Nobody makes requests, and time passes only while the listener sleeps.  Then the arrivals decide
all that a listener does while it collects a sequence (`Listener.checkForSequence_window`):

* It looks for the first packet on a grid of 100 milliseconds, as long as the time for that is not
  up.  If there is none, it never polls.
* From the first look that finds data, it polls on a grid of one second, and stores one batch for
  each poll that receives anything.
* The last poll takes place at the end of the call, at the first point of the grid at which the
  collection window is over.  So whatever arrived within the window is stored, in order.
-/

namespace GroundLink

/-- The packets that have arrived by a time, in order. -/
structure Arrivals where
  arrived : Nat → List Packet
  grows {m n : Nat} : m ≤ n → arrived m <+: arrived n

namespace Arrivals

theorem takeWhile_le_grows (packets : List (Nat × Packet)) {m n : Nat} (hmn : m ≤ n) :
    packets.takeWhile (·.1 ≤ m) <+: packets.takeWhile (·.1 ≤ n) := by
  induction packets with
  | nil => exact List.nil_prefix
  | cons x packets ih =>
    by_cases hx : x.1 ≤ m
    · have hxn : x.1 ≤ n := Nat.le_trans hx hmn
      rw [List.takeWhile_cons_of_pos (by simpa using hx),
        List.takeWhile_cons_of_pos (by simpa using hxn)]
      exact (List.prefix_cons_inj x).mpr ih
    · rw [List.takeWhile_cons_of_neg (by simpa using hx)]
      exact List.nil_prefix

/-- Packets in order, with the times of their arrival.  None of them overtakes another one. -/
def ofTimes (packets : List (Nat × Packet)) : Arrivals where
  arrived time := (packets.takeWhile (·.1 ≤ time)).map Prod.snd
  grows hmn := (takeWhile_le_grows packets hmn).map Prod.snd

variable {a : Arrivals} {k n d limit : Nat}

def lookTime (k : Nat) : Nat := k * Settings.firstDataInterval.nanos

def pollTime (n : Nat) : Nat := n * Settings.sequenceInterval.nanos

/-- The first look that finds data is the one after `k` pauses, before the time for it is up. -/
structure FirstFound (a : Arrivals) (limit k : Nat) : Prop where
  inTime : lookTime k < limit
  found : a.arrived (lookTime k) ≠ []
  missed : ∀ j < k, a.arrived (lookTime j) = []

/-- The packets that `n` polls from the time `d` on have taken. -/
def taken (a : Arrivals) (d : Nat) : Nat → List Packet
  | 0 => []
  | n + 1 => a.arrived (d + pollTime n)

/-- The packets that the poll after `n` others takes. -/
def fresh (a : Arrivals) (d n : Nat) : Packet.Batch :=
  (a.arrived (d + pollTime n)).drop (a.taken d n).length

theorem lookTime_succ (k : Nat) :
    lookTime (k + 1) = lookTime k + Settings.firstDataInterval.nanos :=
  Nat.succ_mul _ _

theorem pollTime_succ (n : Nat) :
    pollTime (n + 1) = pollTime n + Settings.sequenceInterval.nanos :=
  Nat.succ_mul _ _

theorem taken_grows (a : Arrivals) (d n : Nat) : a.taken d n <+: a.arrived (d + pollTime n) := by
  cases n with
  | zero => exact List.nil_prefix
  | succ n =>
    refine a.grows ?_
    rw [pollTime_succ]
    omega

/-- A poll takes all that is left. -/
theorem taken_append_fresh (a : Arrivals) (d n : Nat) :
    a.taken d n ++ a.fresh d n = a.taken d (n + 1) :=
  List.prefix_iff_eq_append.mp (a.taken_grows d n)

/-- **The polls take what arrived**, in order and once. -/
theorem flatten_fresh (a : Arrivals) (d n : Nat) :
    ((List.range n).map (a.fresh d)).flatten = a.taken d n := by
  induction n with
  | zero => rfl
  | succ n ih =>
    rw [List.range_succ, List.map_append, List.flatten_append, ih, List.map_singleton,
      List.flatten_singleton, taken_append_fresh]

/-- There is only one first look that finds data. -/
theorem FirstFound.eq {j : Nat} (h : a.FirstFound limit k) (found : a.arrived (lookTime j) ≠ [])
    (missed : ∀ i < j, a.arrived (lookTime i) = []) : k = j := by
  rcases Nat.lt_trichotomy k j with hless | heq | hmore
  · exact absurd (missed k hless) h.found
  · exact heq
  · exact absurd (h.missed j hmore) found

end Arrivals

/-! ### What a listener learns and stores -/

/-- A look for data, a poll, or the storing of a batch. -/
inductive Listener.Occurrence where
  | look (answer : Except Link.Error Bool)
  | poll (answer : Except Link.Error Link.Polled)
  | store (batch : Packet.Batch)

def Listener.Occurrence.stored? : Listener.Occurrence → Option Packet.Batch
  | .store batch => some batch
  | _ => none

/-- What a deed learns or stores. -/
def Deed.occurrence? (d : Deed Listener) : Option Listener.Occurrence :=
  match d with
  | ⟨_, .available, answer⟩ => some (.look answer)
  | ⟨_, .poll, answer⟩ => some (.poll answer)
  | ⟨_, .store batch, _⟩ => some (.store batch)
  | _ => none

def Deed.stored? (d : Deed Listener) : Option Packet.Batch :=
  match d.effect with
  | .store batch => some batch
  | _ => none

namespace Listener

open Activity (Follows)
open Arrivals (lookTime pollTime)
open Routine (Attains)

/-- What the listener learns and stores, in order, each with the time at which that takes place, if
it was `time` at the start. -/
def timeline (time : Nat) : Trace Listener → List (Nat × Occurrence)
  | [] => []
  | d :: t => (d.occurrence?.map fun r => (time, r)).toList ++ timeline (time + d.slept) t

def stored (t : Trace Listener) : List Packet.Batch := t.filterMap Deed.stored?

def receivedIn (t : Trace Listener) : List Packet := t.flatMap Deed.received

/-- A poll at some time, and what is stored of it. -/
def sweep (time : Nat) (batch : Packet.Batch) : List (Nat × Occurrence) :=
  (time, .poll (.ok (!batch.isEmpty, batch))) ::
    if batch.isEmpty then [] else [(time, .store batch)]

/-- Looks for the first packet that find nothing. -/
def missedLooks (k : Nat) : List (Nat × Occurrence) :=
  (List.range k).map fun j => (lookTime j, .look (.ok false))

/-- Polls from the time `d` on. -/
def sweeps (a : Arrivals) (d n : Nat) : List (Nat × Occurrence) :=
  (List.range n).flatMap fun i => sweep (d + pollTime i) (a.fresh d i)

/-! ### Worlds in which packets arrive -/

/-- The packets that have arrived after the deeds `p` and were not received. -/
def waiting (a : Arrivals) (p : Trace Listener) : List Packet :=
  (a.arrived (Trace.slept p)).drop (receivedIn p).length

/-- A link at which packets arrive, and whose polls take all that are waiting. -/
structure Serves (a : Arrivals) (world : Trace Listener → (effect : Effect) → effect.Answer) :
    Prop where
  look p : world p .available = .ok (!(waiting a p).isEmpty)
  poll p : world p .poll = .ok (!(waiting a p).isEmpty, waiting a p)

/-- A clock that nobody but the listener moves, and that counts up to a capacity. -/
def Counts (capacity : Nat) (world : Trace Listener → (effect : Effect) → effect.Answer) : Prop :=
  ∃ origin, ∀ p, Trace.slept p ≤ capacity → (world p .now).nanos = origin + Trace.slept p

/-- A stepping clock counts until it starts over. -/
theorem Paced.counts {world : Trace Listener → (effect : Effect) → effect.Answer}
    {clock : SteppingClock} (paced : Paced clock world) {capacity : Nat}
    (fits : clock.nanos.toNat + capacity < 2 ^ 64) : Counts capacity world := by
  refine ⟨clock.nanos.toNat, fun p hp => ?_⟩
  rw [paced]
  refine SteppingClock.now_after ?_
  rw [SteppingClock.Lasts]
  omega

variable {world : Trace Listener → (effect : Effect) → effect.Answer}
  {fee : Deed Listener → Nat} {budget capacity limit time d k m n : Nat} {a : Arrivals}
  {events events' : List (Nat × Occurrence)} {packets packets' : List Packet} {l : Listener}
  {e : Deed Listener} {p t u : Trace Listener}

theorem Counts.elapsed (counts : Counts capacity world) (fits : Trace.slept (p ++ t) ≤ capacity) :
    (world (p ++ t) .now - world p .now).nanos = Trace.slept t := by
  obtain ⟨origin, hnow⟩ := counts
  have hlater := hnow (p ++ t) fits
  -- What fits in the end fits at the beginning as well.
  rw [Trace.slept_append] at fits hlater
  have hbefore := hnow p (by omega)
  have hdifference : (world (p ++ t) .now - world p .now).nanos =
      (world (p ++ t) .now).nanos - (world p .now).nanos := rfl
  omega

/-! ### Laws of the timeline -/

theorem timeline_append (time : Nat) (t u : Trace Listener) :
    timeline time (t ++ u) = timeline time t ++ timeline (time + Trace.slept t) u := by
  induction t generalizing time with
  | nil => rfl
  | cons d t ih =>
    rw [List.cons_append, timeline, timeline, ih, List.append_assoc, Trace.slept_cons,
      Nat.add_assoc]

theorem receivedIn_append (t u : Trace Listener) :
    receivedIn (t ++ u) = receivedIn t ++ receivedIn u :=
  List.flatMap_append

/-- What is stored is a part of the timeline. -/
theorem stored_eq_timeline (time : Nat) (t : Trace Listener) :
    stored t = (timeline time t).filterMap fun r => r.2.stored? := by
  induction t generalizing time with
  | nil => rfl
  | cons d t ih =>
    have hrest := ih (time + d.slept)
    rw [timeline, List.filterMap_append, ← hrest, stored, List.filterMap_cons]
    obtain ⟨mark, effect, answer⟩ := d
    cases effect with
    | _ => rfl

/-- No poll is made if there is none in the timeline. -/
theorem not_poll_of_timeline (time : Nat) (t : Trace Listener)
    (h : ∀ r ∈ timeline time t, ∀ answer, r.2 ≠ .poll answer) : ∀ d ∈ t, d.effect ≠ .poll := by
  induction t generalizing time with
  | nil => simp
  | cons d t ih =>
    rw [timeline] at h
    obtain ⟨hfirst, hrest⟩ := List.forall_mem_append.mp h
    refine List.forall_mem_cons.mpr ⟨?_, ih _ hrest⟩
    obtain ⟨mark, effect, answer⟩ := d
    rintro ⟨⟩
    exact hfirst (time, .poll answer) (by simp [Deed.occurrence?]) answer rfl

/-! ### Stretches of time -/

/-- Some deeds that begin at `time`: how long they take, what the listener learns and stores in
them, and the packets that it receives. -/
structure Passes (time n : Nat) (events : List (Nat × Occurrence)) (packets : List Packet)
    (t : Trace Listener) : Prop where
  slept_eq : Trace.slept t = n
  timeline_eq : timeline time t = events
  receivedIn_eq : receivedIn t = packets

namespace Passes

theorem trans (first : Passes time m events packets t)
    (second : Passes (time + m) n events' packets' u) :
    Passes time (m + n) (events ++ events') (packets ++ packets') (t ++ u) where
  slept_eq := by rw [Trace.slept_append, first.slept_eq, second.slept_eq]
  timeline_eq := by
    rw [timeline_append, first.timeline_eq, first.slept_eq, second.timeline_eq]
  receivedIn_eq := by rw [receivedIn_append, first.receivedIn_eq, second.receivedIn_eq]

/-- The listener sleeps. -/
theorem sleep (h : Passes time m events packets t) (l : Listener) (pause : Span) :
    Passes time (m + pause.nanos) events packets (t ++ [⟨l, .sleep pause, ()⟩]) := by
  have hpause : Passes (time + m) pause.nanos [] [] [⟨l, .sleep pause, ()⟩] := ⟨rfl, rfl, rfl⟩
  have hboth := h.trans hpause
  rw [List.append_nil, List.append_nil] at hboth
  exact hboth

/-- What takes no time happens at the end. -/
theorem instant {events' : Nat → List (Nat × Occurrence)} (h : Passes time m events packets t)
    (instant : ∀ time, Passes time 0 (events' time) packets' u) :
    Passes time m (events ++ events' (time + m)) (packets ++ packets') (t ++ u) :=
  h.trans (instant _)

/-- By a deed the listener learns nothing of its link, and spends no time. -/
theorem idle (h : Passes time m events packets t)
    (idle : ∀ time, Passes time 0 [] [] [e]) : Passes time m events packets (t ++ [e]) := by
  have hboth := h.instant idle
  rw [List.append_nil, List.append_nil] at hboth
  exact hboth

theorem now (l : Listener) (reading : Span) (time : Nat) :
    Passes time 0 [] [] [⟨l, .now, reading⟩] :=
  ⟨rfl, rfl, rfl⟩

/-- Nobody asks for anything. -/
theorem ask (l : Listener) (time : Nat) : Passes time 0 [] [] [⟨l, .nextRequest, .nothing⟩] :=
  ⟨rfl, rfl, rfl⟩

/-- The listener looks for data. -/
theorem look (l : Listener) (found : Bool) (time : Nat) :
    Passes time 0 [(time, .look (.ok found))] [] [⟨l, .available, .ok found⟩] :=
  ⟨rfl, rfl, rfl⟩

/-- What is waiting is what arrived and was not received meanwhile. -/
theorem waiting_eq (h : Passes time n events packets t) (began : Trace.slept p = time)
    (nothing : receivedIn p = []) :
    waiting a (p ++ t) = (a.arrived (time + n)).drop packets.length := by
  rw [waiting, Trace.slept_append, began, h.slept_eq, receivedIn_append, nothing, h.receivedIn_eq]
  rfl

end Passes

/-! ### Routines that take no time -/

/-- **A poll** takes all that are waiting, and stores them if there are any. -/
theorem attains_pollOnce_sweep (serves : Serves a world) :
    Attains world fee budget pollOnce
      (fun received t l' => received = !(waiting a p).isEmpty ∧ l' = l ∧
        ∀ time, Passes time 0 (sweep time (waiting a p)) (waiting a p) t) p l := by
  unfold pollOnce
  refine Routine.attains_perform_bind ?_
  rw [serves.poll]
  generalize waiting a p = batch
  cases batch with
  | nil => exact Routine.attains_pure ⟨rfl, rfl, fun _ => ⟨rfl, rfl, rfl⟩⟩
  | cons packet rest =>
    refine Routine.attains_perform_bind (Routine.attains_pure ⟨rfl, rfl, fun _ => ⟨rfl, rfl, ?_⟩⟩)
    exact List.append_nil _

theorem attains_isDataAvailable_look (serves : Serves a world) :
    Attains world fee budget isDataAvailable
      (fun available t l' => available = !(waiting a p).isEmpty ∧ l' = l ∧
        t = [⟨l, .available, .ok available⟩]) p l := by
  unfold isDataAvailable
  refine Routine.attains_perform_bind ?_
  rw [serves.look]
  exact Routine.attains_pure ⟨rfl, rfl, rfl⟩

/-! ### Waiting for the first packet -/

/-- The listener looked `k` times for the first packet and found nothing. -/
structure Watches (a : Arrivals) (limit k : Nat) (t : Trace Listener) : Prop
    extends Passes 0 (lookTime k) (missedLooks k) [] t where
  missed : ∀ j < k, a.arrived (lookTime j) = []
  within : lookTime k < limit + Settings.firstDataInterval.nanos

namespace Watches

theorem start (idle : Passes 0 0 [] [] t) : Watches a limit 0 t where
  toPasses := by
    rw [lookTime, Nat.zero_mul]
    exact idle
  missed := nofun
  within := by
    rw [lookTime, Nat.zero_mul]
    exact Nat.lt_add_left _ (by decide)

theorem idle (h : Watches a limit k t) (idle : ∀ time, Passes time 0 [] [] [e]) :
    Watches a limit k (t ++ [e]) where
  toPasses := h.toPasses.idle idle
  missed := h.missed
  within := h.within

/-- What is waiting is all that has arrived. -/
theorem waiting_eq (h : Watches a limit k t) : waiting a t = a.arrived (lookTime k) := by
  have hwaiting := h.toPasses.waiting_eq (p := []) (a := a) rfl rfl
  rw [Nat.zero_add] at hwaiting
  exact hwaiting

/-- The next look finds nothing, and the listener pauses. -/
theorem pause (h : Watches a limit k t) (nothing : a.arrived (lookTime k) = [])
    (early : lookTime k < limit) (l : Listener) : Watches a limit (k + 1)
      (t ++ [⟨l, .available, .ok false⟩] ++ [⟨l, .sleep Settings.firstDataInterval, ()⟩]) where
  toPasses := by
    have hlooks : missedLooks (k + 1) = missedLooks k ++ [(0 + lookTime k, .look (.ok false))] := by
      rw [missedLooks, List.range_succ, List.map_append, Nat.zero_add]
      rfl
    rw [Arrivals.lookTime_succ, hlooks]
    exact (h.toPasses.instant (.look l false)).sleep l Settings.firstDataInterval
  missed j hj := by
    rcases Nat.lt_succ_iff_lt_or_eq.mp hj with hless | rfl
    · exact h.missed j hless
    · exact nothing
  within := by
    rw [Arrivals.lookTime_succ]
    omega

/-- Every pause leaves less time to wait. -/
theorem less (h : Watches a limit k t) (later : Watches a limit (k + 1) u)
    (early : lookTime k < limit) : limit - Trace.slept u < limit - Trace.slept t := by
  have hpositive : 0 < Settings.firstDataInterval.nanos := by decide
  rw [h.slept_eq, later.slept_eq, Arrivals.lookTime_succ]
  omega

end Watches

/-- **Waiting for the first packet**: the first look that finds data ends it, or the time for it. -/
theorem attains_awaitFirstData_first (unasked : Unasked world) (serves : Serves a world)
    (counts : Counts capacity world)
    (fits : l.firstDataTimeout.nanos + Settings.firstDataInterval.nanos ≤ capacity) :
    Attains world fee budget awaitFirstData
      (fun found t l' => l' = l ∧ ∃ k,
        (found = true → ∃ w, t = w ++ [⟨l, .available, .ok true⟩] ∧
          Watches a l.firstDataTimeout.nanos k w ∧ a.FirstFound l.firstDataTimeout.nanos k) ∧
        (found = false → Watches a l.firstDataTimeout.nanos k t ∧
          l.firstDataTimeout.nanos ≤ lookTime k)) [] l := by
  unfold awaitFirstData
  refine Routine.attains_perform_bind ?_
  -- Every round is a look in vain, and leaves less time to wait.
  refine Attains.iterate_shrinking
    (fun _ t s => s = l ∧ ∃ k,
      Watches a l.firstDataTimeout.nanos k ([⟨l, .now, world [] .now⟩] ++ t))
    (fun _ t _ => l.firstDataTimeout.nanos - Trace.slept ([⟨l, .now, world [] .now⟩] ++ t)) ?_
    ⟨rfl, 0, .start (.now _ _ _)⟩
  rintro _ t s ⟨rfl, k, watches⟩
  have helapsed : (world ([⟨s, .now, world [] .now⟩] ++ t) .now - world [] .now).nanos =
      lookTime k := by
    have hfits : Trace.slept ([⟨s, .now, world [] .now⟩] ++ t) ≤ capacity := by
      have := watches.within
      rw [watches.slept_eq]
      omega
    exact (counts.elapsed (p := []) hfits).trans watches.slept_eq
  refine Routine.attains_get_bind (Routine.attains_elapsedSince_bind ?_)
  have hlooked := watches.idle (.now s (world ([⟨s, .now, world [] .now⟩] ++ t) .now))
  split
  case isTrue due =>
    have hdue : s.firstDataTimeout.nanos ≤ lookTime k := Nat.le_trans due (Nat.le_of_eq helapsed)
    exact Routine.attains_pure ⟨rfl, k, nofun, fun _ => ⟨hlooked, hdue⟩⟩
  case isFalse early =>
    have hearly : lookTime k < s.firstDataTimeout.nanos :=
      Nat.lt_of_not_le fun h => early (Nat.le_trans h (Nat.le_of_eq helapsed.symm))
    refine Attains.bind (attains_handleRequests_of_unasked unasked) ?_
    rintro _ _ s ⟨rfl, rfl, rfl⟩
    have hasked := hlooked.idle (.ask s)
    refine Attains.bind (attains_isDataAvailable_look serves) ?_
    rintro available v s ⟨havailable, rfl, rfl⟩
    replace havailable : available = !(a.arrived (lookTime k)).isEmpty := by
      rw [← hasked.waiting_eq]
      exact havailable
    by_cases hnothing : a.arrived (lookTime k) = []
    · obtain rfl : available = false := by rw [havailable, hnothing]; rfl
      have hpaused := hasked.pause hnothing hearly s
      simp only [List.append_assoc] at hpaused
      refine Routine.attains_perform_bind (Routine.attains_pure ⟨⟨rfl, k + 1, hpaused⟩, .inr ?_⟩)
      exact watches.less hpaused hearly
    · obtain rfl : available = true := by rw [havailable]; simp [hnothing]
      have hfirst : a.FirstFound s.firstDataTimeout.nanos k := ⟨hearly, hnothing, hasked.missed⟩
      refine Routine.attains_pure ⟨rfl, k, fun _ => ⟨_, ?_, hasked, hfirst⟩, nofun⟩
      simp

/-! ### Reading a sequence -/

/-- The listener polled `n` times, the first time at `d`, and pauses after each poll. -/
structure Polls (a : Arrivals) (limit d n : Nat) (t : Trace Listener) : Prop
    extends Passes d (pollTime n) (sweeps a d n) (a.taken d n) t where
  within : pollTime n < limit + Settings.sequenceInterval.nanos

/-- The listener polled once more, and did not pause yet. -/
abbrev Polled (a : Arrivals) (d n : Nat) : Trace Listener → Prop :=
  Passes d (pollTime n) (sweeps a d (n + 1)) (a.taken d (n + 1))

namespace Polls

theorem start (idle : Passes d 0 [] [] t) : Polls a limit d 0 t where
  toPasses := by
    rw [pollTime, Nat.zero_mul]
    exact idle
  within := by
    rw [pollTime, Nat.zero_mul]
    exact Nat.lt_add_left _ (by decide)

/-- The next poll takes what is fresh. -/
theorem poll (h : Polls a limit d n t)
    (poll : ∀ time, Passes time 0 (sweep time (a.fresh d n)) (a.fresh d n) u) :
    Polled a d n (t ++ u) := by
  have hsweeps : sweeps a d (n + 1) = sweeps a d n ++ sweep (d + pollTime n) (a.fresh d n) := by
    rw [sweeps, List.range_succ, List.flatMap_append, List.flatMap_singleton]
    rfl
  rw [Polled, hsweeps, ← Arrivals.taken_append_fresh]
  exact h.toPasses.instant poll

/-- The window is not over yet, and the listener pauses before it polls again. -/
theorem pause (h : Polled a d n t) (early : pollTime n < limit) (l : Listener) :
    Polls a limit d (n + 1) (t ++ [⟨l, .sleep Settings.sequenceInterval, ()⟩]) where
  toPasses := by
    rw [Arrivals.pollTime_succ]
    exact h.sleep l Settings.sequenceInterval
  within := by
    rw [Arrivals.pollTime_succ]
    omega

/-- Every poll leaves less time to read. -/
theorem less (h : Polls a limit d n t) (later : Polls a limit d (n + 1) u)
    (early : pollTime n < limit) : limit - Trace.slept u < limit - Trace.slept t := by
  have hpositive : 0 < Settings.sequenceInterval.nanos := by decide
  rw [h.slept_eq, later.slept_eq, Arrivals.pollTime_succ]
  omega

end Polls

/-- **Reading a sequence**: the first poll at which the window is over is the last one. -/
theorem attains_readSequence_polls (unasked : Unasked world) (serves : Serves a world)
    (counts : Counts capacity world) (began : Trace.slept p = d) (nothing : receivedIn p = [])
    (fits : d + (l.settings.tmTimeout.nanos + Settings.sequenceInterval.nanos) ≤ capacity) :
    Attains world fee budget readSequence
      (fun received t l' => l' = l ∧ ∃ n, received = !(a.taken d (n + 1)).isEmpty ∧
        Polled a d n t ∧ l.settings.tmTimeout.nanos ≤ pollTime n ∧
        pollTime n < l.settings.tmTimeout.nanos + Settings.sequenceInterval.nanos) p l := by
  unfold readSequence
  refine Routine.attains_perform_bind ?_
  -- Every round is a poll and a pause.  Anything was received if the polls have taken anything.
  refine Attains.iterate_shrinking
    (fun received t s => s = l ∧ ∃ n, received = !(a.taken d n).isEmpty ∧
      Polls a l.settings.tmTimeout.nanos d n ([⟨l, .now, world p .now⟩] ++ t))
    (fun _ t _ => l.settings.tmTimeout.nanos - Trace.slept ([⟨l, .now, world p .now⟩] ++ t)) ?_
    ⟨rfl, 0, rfl, .start (.now _ _ _)⟩
  rintro received t s ⟨rfl, n, hreceived, polls⟩
  rw [List.append_assoc]
  refine Attains.bind (attains_pollOnce_sweep serves) ?_
  have hfresh : waiting a (p ++ ([⟨s, .now, world p .now⟩] ++ t)) = a.fresh d n :=
    polls.toPasses.waiting_eq began nothing
  rw [hfresh]
  rintro polled v s ⟨hpolled, rfl, sweeps⟩
  have hafter := polls.poll sweeps
  have hany : (polled || received) = !(a.taken d (n + 1)).isEmpty := by
    rw [hpolled, hreceived, ← Arrivals.taken_append_fresh]
    cases a.taken d n <;> cases a.fresh d n <;> rfl
  have helapsed : (world (p ++ ([⟨s, .now, world p .now⟩] ++ t ++ v)) .now -
      world p .now).nanos = pollTime n := by
    rw [← hafter.slept_eq]
    refine counts.elapsed ?_
    have := polls.within
    rw [Trace.slept_append, began, hafter.slept_eq]
    omega
  have hnext := hafter.idle (.now s (world (p ++ ([⟨s, .now, world p .now⟩] ++ t ++ v)) .now))
  rw [List.append_assoc p]
  refine Routine.attains_get_bind (Routine.attains_elapsedSince_bind ?_)
  rw [hany]
  split
  case isTrue due =>
    have hdue : s.settings.tmTimeout.nanos ≤ pollTime n := Nat.le_trans due (Nat.le_of_eq helapsed)
    simp only [List.append_assoc] at hnext
    exact Routine.attains_pure ⟨rfl, n, rfl, hnext, hdue, polls.within⟩
  case isFalse early =>
    have hearly : pollTime n < s.settings.tmTimeout.nanos :=
      Nat.lt_of_not_le fun h => early (Nat.le_trans h (Nat.le_of_eq helapsed.symm))
    refine Attains.bind (attains_handleRequests_of_unasked unasked) ?_
    rintro _ _ s ⟨rfl, rfl, rfl⟩
    have hpaused := Polls.pause (hnext.idle (.ask s)) hearly s
    simp only [List.append_assoc] at hpaused
    refine Routine.attains_perform_bind (Routine.attains_pure ?_)
    exact ⟨⟨rfl, n + 1, rfl, hpaused⟩, .inr (polls.less hpaused hearly)⟩

/-! ### Collecting a sequence -/

/-- The listener found data at the look after `k` pauses, and its last poll was the one after `n`
others. -/
structure Gathers (a : Arrivals) (l : Listener) (k n : Nat) (t : Trace Listener) : Prop
    extends Passes 0 (lookTime k + pollTime n)
      (missedLooks k ++ (lookTime k, .look (.ok true)) :: sweeps a (lookTime k) (n + 1))
      (a.arrived (lookTime k + pollTime n)) t where
  first : a.FirstFound l.firstDataTimeout.nanos k
  due : l.settings.tmTimeout.nanos ≤ pollTime n
  within : pollTime n < l.settings.tmTimeout.nanos + Settings.sequenceInterval.nanos

/-- **One sequence of telemetry** is collected, or waited for in vain. -/
theorem attains_checkForSequence_gathers (unasked : Unasked world) (serves : Serves a world)
    (counts : Counts capacity world)
    (fits : l.firstDataTimeout.nanos + l.settings.tmTimeout.nanos +
      Settings.sequenceInterval.nanos ≤ capacity) :
    Attains world fee budget checkForSequence
      (fun found t l' => l' = l ∧
        ((∃ k n, found = true ∧ Gathers a l k n t) ∨
          ∃ k, found = false ∧ Watches a l.firstDataTimeout.nanos k t ∧
            l.firstDataTimeout.nanos ≤ lookTime k)) [] l := by
  have hshorter := idleInterval_le.2
  unfold checkForSequence
  refine Attains.bind (attains_awaitFirstData_first unasked serves counts (by omega)) ?_
  rintro found t s ⟨rfl, k, hfound, hmissed⟩
  cases found with
  | false =>
    refine Routine.attains_pure ⟨rfl, .inr ⟨k, rfl, ?_⟩⟩
    rw [List.append_nil]
    exact hmissed rfl
  | true =>
    -- The sequence is read from the look on that found data.
    obtain ⟨w, rfl, watches, first⟩ := hfound rfl
    have hinTime := first.inTime
    have hlooks := watches.toPasses.instant (.look s true)
    refine Attains.mono (attains_readSequence_polls unasked serves counts hlooks.slept_eq
      hlooks.receivedIn_eq (by omega)) ?_
    rintro received u s' ⟨rfl, n, rfl, polled, due, within⟩
    have hsome : a.taken (lookTime k) (n + 1) ≠ [] := by
      have hprefix : a.arrived (lookTime k) <+: a.taken (lookTime k) (n + 1) :=
        a.grows (Nat.le_add_right _ _)
      intro hnone
      rw [hnone, List.prefix_nil] at hprefix
      exact first.found hprefix
    rw [← Nat.zero_add (lookTime k)] at polled
    have hwhole := hlooks.trans polled
    rw [Nat.zero_add, List.append_assoc] at hwhole
    exact ⟨rfl, .inl ⟨k, n, by simp [hsome], hwhole, first, due, within⟩⟩

/-! ### What is stored -/

theorem filterMap_missedLooks (k : Nat) :
    (missedLooks k).filterMap (fun r => r.2.stored?) = [] := by
  rw [missedLooks, List.filterMap_map]
  exact List.filterMap_eq_nil_iff.mpr fun _ _ => rfl

/-- Of every poll that receives anything, one batch is stored. -/
theorem filterMap_sweeps (a : Arrivals) (d n : Nat) :
    (sweeps a d n).filterMap (fun r => r.2.stored?) =
      ((List.range n).map (a.fresh d)).filter (!·.isEmpty) := by
  rw [sweeps]
  induction n with
  | zero => rfl
  | succ n ih =>
    rw [List.range_succ, List.flatMap_append, List.filterMap_append, ih, List.map_append,
      List.filter_append, List.flatMap_singleton, List.map_singleton]
    congr 1
    cases a.fresh d n with
    | nil => rfl
    | cons packet rest => rfl

namespace Watches

theorem stored_eq (h : Watches a limit k t) : stored t = [] := by
  rw [stored_eq_timeline 0, h.timeline_eq, filterMap_missedLooks]

/-- As long as the listener only looked, it did not poll. -/
theorem not_poll (h : Watches a limit k t) : ∀ d ∈ t, d.effect ≠ .poll := by
  refine not_poll_of_timeline 0 t fun r hr answer => ?_
  rw [h.timeline_eq] at hr
  obtain ⟨j, -, rfl⟩ := List.mem_map.mp hr
  exact nofun

/-- When the time is up, no look could have found data. -/
theorem not_firstFound (h : Watches a limit k t) (due : limit ≤ lookTime k) (j : Nat) :
    ¬ a.FirstFound limit j := by
  intro first
  -- It would be one of the looks that were made in vain.
  have hearlier : j * Settings.firstDataInterval.nanos < k * Settings.firstDataInterval.nanos :=
    Nat.lt_of_lt_of_le first.inTime due
  exact first.found (h.missed j (Nat.lt_of_mul_lt_mul_right hearlier))

end Watches

namespace Gathers

theorem stored_eq (h : Gathers a l k n t) :
    stored t = ((List.range (n + 1)).map (a.fresh (lookTime k))).filter (!·.isEmpty) := by
  have hlook : ((lookTime k, .look (.ok true)) :: sweeps a (lookTime k) (n + 1)).filterMap
      (fun r => r.2.stored?) =
      (sweeps a (lookTime k) (n + 1)).filterMap fun r => r.2.stored? := rfl
  rw [stored_eq_timeline 0, h.timeline_eq, List.filterMap_append, filterMap_missedLooks,
    List.nil_append, hlook, filterMap_sweeps]

/-- All that has arrived by the end of the call is stored. -/
theorem flatten_stored (h : Gathers a l k n t) :
    (stored t).flatten = a.arrived (Trace.slept t) := by
  rw [h.stored_eq, List.flatten_filter_not_isEmpty, Arrivals.flatten_fresh, h.slept_eq]
  rfl

theorem stored_ne_nil (h : Gathers a l k n t) : stored t ≠ [] := by
  intro hnone
  have hprefix : a.arrived (lookTime k) <+: a.arrived (Trace.slept t) := by
    rw [h.slept_eq]
    exact a.grows (Nat.le_add_right _ _)
  rw [← h.flatten_stored, hnone, List.flatten_nil, List.prefix_nil] at hprefix
  exact h.first.found hprefix

end Gathers

/-- **The collection window.**  Packets arrive at a link whose polls take all that is there, nobody
makes requests, and the clock is moved by the listener only and counts for as long as the call may
take.  Then a call that collects one sequence of telemetry comes to its end, and leaves the listener
as it was.  It tells whether it stored a batch.

* If there is a first look that finds data, the listener made all looks before it in vain, and it
  polls from then on, one interval after the other, and stores a batch for each poll that receives
  anything.  It ends with the first poll at which the window is over, which is less than an interval
  later.  By then it stored all that arrived within the window, and even all that arrived by the
  end, in order.
* If there is none, the listener does not poll at all. -/
theorem checkForSequence_window (a : Arrivals) (l : Listener) (unasked : Unasked world)
    (serves : Serves a world) (counts : Counts capacity world)
    (fits : l.firstDataTimeout.nanos + l.settings.tmTimeout.nanos +
      Settings.sequenceInterval.nanos ≤ capacity) :
    Routine.Halts world checkForSequence [] l ∧
    ∀ t found l', checkForSequence.Completes l t found l' → Follows world [] t →
      l' = l ∧ (found = true ↔ stored t ≠ []) ∧
      (∀ k, a.FirstFound l.firstDataTimeout.nanos k → ∃ n,
        timeline 0 t =
          missedLooks k ++ (lookTime k, .look (.ok true)) :: sweeps a (lookTime k) (n + 1) ∧
        Trace.slept t = lookTime k + pollTime n ∧
        lookTime k + l.settings.tmTimeout.nanos ≤ Trace.slept t ∧
        Trace.slept t <
          lookTime k + l.settings.tmTimeout.nanos + Settings.sequenceInterval.nanos ∧
        stored t = ((List.range (n + 1)).map (a.fresh (lookTime k))).filter (!·.isEmpty) ∧
        (stored t).flatten = a.arrived (Trace.slept t) ∧
        a.arrived (lookTime k + l.settings.tmTimeout.nanos) <+: (stored t).flatten) ∧
      ((∀ k, ¬ a.FirstFound l.firstDataTimeout.nanos k) →
        found = false ∧ ∀ d ∈ t, d.effect ≠ .poll) := by
  have hattains : Attains world (fun _ => 0) 0 checkForSequence _ [] l :=
    attains_checkForSequence_gathers unasked serves counts fits
  constructor
  · obtain ⟨t, found, l', run, follows, -⟩ := hattains.ends_free
    exact ⟨t, (found, l'), run, follows⟩
  · intro t found l' run follows
    obtain ⟨rfl, ⟨k, n, rfl, gathers⟩ | ⟨k, rfl, watches, due⟩⟩ :=
      hattains.of_completes run follows (Nat.le_of_eq (Trace.cost_zero _))
    · refine ⟨rfl, iff_of_true rfl gathers.stored_ne_nil, fun j first => ?_, fun none => ?_⟩
      · -- The window begins at the first look that could find data.
        obtain rfl : j = k := first.eq gathers.first.found gathers.first.missed
        have hslept := gathers.slept_eq
        have hdue := gathers.due
        have hwithin := gathers.within
        refine ⟨n, gathers.timeline_eq, hslept, by omega, by omega, gathers.stored_eq,
          gathers.flatten_stored, ?_⟩
        rw [gathers.flatten_stored]
        exact a.grows (by omega)
      · exact absurd gathers.first (none k)
    · have hnothing : stored t = [] := watches.stored_eq
      refine ⟨rfl, iff_of_false Bool.false_ne_true (absurd hnothing), fun j first => ?_,
        fun _ => ⟨rfl, watches.not_poll⟩⟩
      exact absurd first (watches.not_firstFound due j)

/-- Packets arrive, nobody asks for anything, and a stepping clock shows the time. -/
def arriving (a : Arrivals) (p : Trace Listener) : (effect : Effect) → effect.Answer
  | .now => (SteppingClock.start.after p).now
  | .available => .ok (!(waiting a p).isEmpty)
  | .poll => .ok (!(waiting a p).isEmpty, waiting a p)
  | effect => effect.calm

/-- One packet arrives before the second look, one within the window, and one long after it. -/
theorem checkForSequence_window_two_batches :
    ∃ l t, checkForSequence.Completes l t true l ∧ Trace.slept t = 2200000000 ∧
      stored t = [[Packet.unreadable [1]], [Packet.unreadable [2]]] := by
  let a : Arrivals := .ofTimes [(150000000, Packet.unreadable [1]),
    (1000000000, Packet.unreadable [2]), (9000000000, Packet.unreadable [3])]
  let settings : Settings := { tmTimeout := Span.ofMillis 1500, tcTimeoutFactor := 1.0 }
  have htimeout : (make settings).firstDataTimeout.nanos = 1500000000 := by decide +kernel
  have hwindow : (make settings).settings.tmTimeout.nanos = 1500000000 := rfl
  have hinterval : Settings.sequenceInterval.nanos = 1000000000 := rfl
  have paced : Paced .start (arriving a) := fun _ => rfl
  have counts : Counts 4000000000 (arriving a) := paced.counts (by decide)
  -- The first packet comes at 150 ms, which the look at 200 ms finds.
  have first : a.FirstFound (make settings).firstDataTimeout.nanos 2 := by
    rw [htimeout]
    exact ⟨by decide, by decide, by decide⟩
  obtain ⟨⟨t, ⟨found, l'⟩, run, follows⟩, hruns⟩ := checkForSequence_window a (make settings)
    (fun _ => ⟨rfl, fun _ => rfl⟩) ⟨fun _ => rfl, fun _ => rfl⟩
    counts (by omega)
  obtain ⟨rfl, hfound, hfirst, -⟩ := hruns t found l' run follows
  obtain ⟨n, -, hslept, hdue, hwithin, hstored, -, -⟩ := hfirst 2 first
  -- One packet at once and one a second later; after two seconds the window is over.
  have hpolls : pollTime n = n * 1000000000 := rfl
  have hlook : lookTime 2 = 200000000 := rfl
  obtain rfl : n = 2 := by omega
  have hbatches : ((List.range (2 + 1)).map (a.fresh (lookTime 2))).filter (!·.isEmpty) =
      [[Packet.unreadable [1]], [Packet.unreadable [2]]] := by decide +kernel
  rw [hbatches] at hstored
  obtain rfl : found = true := hfound.mpr (by simp [hstored])
  exact ⟨make settings, t, run, by omega, hstored⟩

end Listener

end GroundLink
