import GroundLink.Proofs.Sender.Dispatch
import GroundLink.Proofs.Sender.Plain
import GroundLink.Proofs.Sender.Timing
import Mathlib.Control.Monad.Basic

/-!
# Bursts in time

The burst sender goes through its queue once.  `Sender.Burst.Sends` says what it does to an entry: a
directive is carried out, a telecommand is sent once and followed by the pause of its number
(`Sender.Burst.pauseTime`).  It waits for nothing else, so the time that a burst takes is known from
the queue and the listed pauses (`Sender.Burst.duration`), whatever the link and the listener
answer.

The main statement is `Sender.sendBurst_sends_once`.
-/

namespace GroundLink

/-! ### Directives -/

namespace Queue

def Entry.waited : Entry → Span
  | .wait time => time
  | _ => 0

/-- The collection window for replies after an entry. -/
def Entry.window (window : Span) : Entry → Span
  | .wait time => window + time
  | .timeout time => time
  | _ => window

/-- The time that the directives of a queue let pass. -/
def waited (q : Queue) : Nat := (q.map (·.waited.nanos)).sum

/-- The collection window for replies after the directives of a queue. -/
def window (start : Span) (q : Queue) : Span := q.foldl Entry.window start

theorem waited_concat (q : Queue) (e : Entry) : waited (q ++ [e]) = q.waited + e.waited.nanos := by
  rw [waited, waited, List.map_append, List.sum_append, List.map_singleton, List.sum_singleton]

theorem window_concat (start : Span) (q : Queue) (e : Entry) :
    window start (q ++ [e]) = e.window (window start q) :=
  List.foldl_append

theorem telecommands_cons_directive {e : Entry} (isDirective : e.isTelecommand = false)
    (q : Queue) : telecommands (e :: q) = q.telecommands := by
  rw [Entry.isTelecommand, Option.isSome_eq_false_iff, Option.isNone_iff_eq_none] at isDirective
  exact List.filterMap_cons_none isDirective

theorem telecommands_concat_directive {e : Entry} (isDirective : e.isTelecommand = false)
    (q : Queue) : telecommands (q ++ [e]) = q.telecommands := by
  have hnone : telecommands [e] = [] := telecommands_cons_directive isDirective []
  rw [telecommands, List.filterMap_append]
  exact (congrArg _ hnone).trans (List.append_nil _)

theorem telecommands_concat_telecommand (q : Queue) (tc : Telecommand.Packed) :
    telecommands (q ++ [.telecommand tc]) = q.telecommands ++ [tc] :=
  List.filterMap_append

end Queue

/-- The telecommand that a deed sends, with the outcome. -/
def Deed.transmission? (d : Deed Sender) : Option (Telecommand.Packed × Except Link.Error Unit) :=
  match d with
  | ⟨_, .send tc, sent⟩ => some (tc, sent)
  | _ => none

namespace Sender

open Activity (Follows)
open Queue (delivered)
open Routine (Secures Plain)
open Trace (slept slept_append slept_cons slept_sleep)

variable {R : Trace Sender → Sender → Prop} {b : Burst} {tc : Telecommand.Packed} {k : Nat}
  {p t u w : Trace Sender} {s s' : Sender} {queue rest : Queue} {e : Queue.Entry}

/-! ### Transmissions -/

/-- All transmissions among some deeds, in order and with their outcomes. -/
def transmissions (t : Trace Sender) : List (Telecommand.Packed × Except Link.Error Unit) :=
  t.filterMap Deed.transmission?

theorem transmissions_append (t u : Trace Sender) :
    transmissions (t ++ u) = transmissions t ++ transmissions u :=
  List.filterMap_append

theorem map_fst_transmissions (t : Trace Sender) : (transmissions t).map (·.1) = sentBy t := by
  rw [transmissions, List.map_filterMap, sentBy]
  congr 1
  funext d
  obtain ⟨mark, effect, answer⟩ := d
  cases effect <;> rfl

theorem Aside.transmissions_eq (h : Aside t) : transmissions t = [] := by
  have hnone := map_fst_transmissions t
  rw [h.sentBy_eq] at hnone
  exact List.map_eq_nil_iff.mp hnone

theorem Transmits.transmissions_eq {start : Span} {sent : Except Link.Error Unit}
    (h : Transmits tc s start sent t s') : transmissions t = [(tc, sent)] := by
  cases h with
  | intro printer printed hprinted =>
    rw [transmissions_append, ← List.singleton_append, transmissions_append,
      hprinted.aside.transmissions_eq]
    rfl

theorem ok_of_mem_delivered {x : Telecommand.Packed × Except Link.Error Unit}
    (h : x ∈ delivered queue) : x.2 = .ok () := by
  obtain ⟨tc, -, rfl⟩ := List.mem_map.mp h
  rfl

theorem map_fst_delivered (q : Queue) : (delivered q).map (·.1) = q.telecommands := by
  rw [delivered, List.map_map]
  exact List.map_id' _

/-! ### Directives in time -/

def IsInstant : Effect → Prop
  | .sleep _ => False
  | _ => True

theorem still_of_instant {α : Type} {m : Routine Sender α} (instant : Plain IsInstant m) {x : α}
    (run : m.Completes s t x s') : Still t := by
  intro d hd
  have hused : IsInstant d.effect := instant.uses.of_reaches run d hd
  obtain ⟨mark, effect, answer⟩ := d
  cases effect with
  | sleep time => exact absurd hused id
  | _ => rfl

theorem instant_print (f : Printer → Printer × List Log.Entry) : Plain IsInstant (print f) := by
  refine Routine.plain_bind Routine.plain_get fun s => ?_
  exact Routine.plain_bind (Routine.plain_set _) fun _ => Routine.plain_log trivial

theorem instant_exportBuffer (path : Path) : Plain IsInstant (exportBuffer path) := by
  refine Routine.plain_bind (instant_print _) fun _ => ?_
  refine Routine.plain_bind Routine.plain_get fun s => ?_
  refine Routine.plain_bind (Routine.plain_perform trivial) fun written => ?_
  split
  · exact instant_print _
  · exact Routine.plain_perform trivial

/-- **A directive in time**: only one that waits takes any, and only that and a new window change
the window. -/
theorem secures_carryOut_timed : Secures (Looks R) (carryOut e)
    (fun _ t s' => slept t = e.waited.nanos ∧ s'.tmTimeout = e.window s.tmTimeout) [] s := by
  cases e with
  | telecommand tc =>
    exact Secures.bind_iff.mpr (Secures.modify_iff.mpr (Secures.pure_iff.mpr ⟨rfl, rfl⟩))
  | wait time =>
    simp only [carryOut, Secures.bind_iff, Secures.modify_iff]
    exact secures_sleep (Secures.pure_iff.mpr ⟨slept_sleep _ time, rfl⟩)
  | print text =>
    simp only [carryOut, Secures.bind_iff]
    refine secures_print fun printer printed hprinted => Secures.pure_iff.mpr ?_
    exact ⟨hprinted.prints.still.slept_eq, rfl⟩
  | printPlain text =>
    simp only [carryOut, Secures.bind_iff]
    refine secures_print fun printer printed hprinted => Secures.pure_iff.mpr ?_
    exact ⟨hprinted.prints.still.slept_eq, rfl⟩
  | «export» path =>
    simp only [carryOut, Secures.bind_iff]
    refine Secures.mono_completes (P := fun _ _ s' => s'.tmTimeout = s.tmTimeout) ?_ ?_
    · exact secures_exportBuffer fun printer t _ => ⟨t, rfl, rfl⟩
    · intro x t s' run htimeout
      exact Secures.pure_iff.mpr
        ⟨(still_of_instant (instant_exportBuffer path) run).slept_eq, htimeout⟩
  | timeout time =>
    exact Secures.bind_iff.mpr (Secures.modify_iff.mpr (Secures.pure_iff.mpr ⟨rfl, rfl⟩))

/-- What a run of a directive does besides. -/
theorem carryOut_completes {x : Bool} (run : (carryOut e).Completes s t x s') :
    Aside t ∧ slept t = e.waited.nanos ∧ s'.tmTimeout = e.window s.tmTimeout := by
  have haside : Secures (Looks fun _ _ => True) (carryOut e) (fun _ t _ => Aside t) [] s :=
    secures_carryOut fun t _ aside _ _ => aside
  exact ⟨haside.of_completes run,
    (secures_carryOut_timed (R := fun _ _ => True)).of_completes run⟩

/-! ### Pauses -/

/-- The pause after a number of telecommands: the time at the first position where the number is
listed, and none if it is not listed or has no time. -/
def Burst.pauseTime (b : Burst) (count : Nat) : Span :=
  if count ∈ b.intervals then
    match b.waitTime with
    | .uniform time => time
    | .perInterval times => times.getD (b.intervals.idxOf count) 0
  else 0

/-- The pauses after each of the first telecommands. -/
def Burst.paused (b : Burst) (count : Nat) : Nat :=
  ((List.range count).map fun i => (b.pauseTime (i + 1)).nanos).sum

theorem Burst.paused_succ (b : Burst) (count : Nat) :
    b.paused (count + 1) = b.paused count + (b.pauseTime (count + 1)).nanos := by
  rw [paused, paused, List.range_succ, List.map_append, List.sum_append, List.map_singleton,
    List.sum_singleton]

/-- A listed number is found where it stands first. -/
theorem findIdx?_of_mem {l : List Nat} (listed : k ∈ l) :
    l.findIdx? (· = k) = some (l.idxOf k) := by
  have hfirst : l.findIdx (· = k) = l.idxOf k := rfl
  exact List.findIdx?_eq_some_iff_findIdx_eq.mpr ⟨List.idxOf_lt_length_iff.mpr listed, hfirst⟩

theorem findIdx?_of_not_mem {l : List Nat} (unlisted : k ∉ l) : l.findIdx? (· = k) = none :=
  List.findIdx?_eq_none_iff.mpr fun _ hn => decide_eq_false fun hnk => unlisted (hnk ▸ hn)

/-- **The pause after a telecommand** takes exactly its time. -/
theorem secures_pause_timed : Secures (Looks R) (b.pause k)
    (fun _ t s' => s' = s ∧ Aside t ∧ slept t = (b.pauseTime k).nanos) [] s := by
  unfold Burst.pause Burst.pauseTime
  by_cases hlisted : k ∈ b.intervals
  case neg =>
    rw [findIdx?_of_not_mem hlisted, if_neg hlisted]
    exact Secures.pure_iff.mpr ⟨rfl, Aside.nil, rfl⟩
  rw [findIdx?_of_mem hlisted, if_pos hlisted]
  have hsleeps (time : Span) : Secures (Looks R) (Routine.sleep time)
      (fun _ t s' => s' = s ∧ Aside t ∧ slept t = time.nanos) [] s :=
    secures_sleep ⟨rfl, List.forall_mem_singleton.mpr trivial, slept_sleep s time⟩
  cases htimes : b.waitTime with
  | uniform time => exact hsleeps time
  | perInterval times =>
    dsimp only [WaitTime.at?]
    rw [List.getD_eq_getElem?_getD]
    cases times[b.intervals.idxOf k]? with
    | some time => exact hsleeps time
    | none => exact secures_note ⟨rfl, List.forall_mem_singleton.mpr trivial, rfl⟩

theorem pause_completes (run : (b.pause k).Completes s t () s') :
    s' = s ∧ Aside t ∧ slept t = (b.pauseTime k).nanos :=
  (secures_pause_timed (R := fun _ _ => True)).of_completes run

/-! ### Queues -/

/-- From the state `s`, the entries of a queue are processed in order: a directive is carried out, a
telecommand is sent and followed by the pause of its number. -/
inductive Burst.Sends (b : Burst) (s : Sender) : Queue → Trace Sender → Sender → Prop
  | nil : Burst.Sends b s [] [] s
  | directive {queue : Queue} {e : Queue.Entry} {t u : Trace Sender} {s₁ s₂ : Sender}
      (before : Burst.Sends b s queue t s₁) (isDirective : e.isTelecommand = false)
      (done : (carryOut e).Completes s₁ u false s₂) :
      Burst.Sends b s (queue ++ [e]) (t ++ u) s₂
  | telecommand {queue : Queue} {tc : Telecommand.Packed} {start : Span} {t u v : Trace Sender}
      {s₁ s₂ s₃ : Sender} (before : Burst.Sends b s queue t s₁)
      (sent : Transmits tc s₁ start (.ok ()) u s₂)
      (paused : (b.pause (queue.telecommands.length + 1)).Completes s₂ v () s₃) :
      Burst.Sends b s (queue ++ [.telecommand tc]) (t ++ u ++ v) s₃

namespace Burst.Sends

/-- **Every telecommand is sent once**, in the order of the queue. -/
theorem transmissions_eq (h : b.Sends s queue t s') : transmissions t = delivered queue := by
  induction h with
  | nil => rfl
  | @directive queue e t u s₁ s₂ before isDirective done ih =>
    obtain ⟨haside, -, -⟩ := carryOut_completes done
    rw [transmissions_append, ih, haside.transmissions_eq, Queue.delivered_append,
      Queue.delivered_directive isDirective]
    rfl
  | @telecommand queue tc start t u v s₁ s₂ s₃ before sent paused ih =>
    obtain ⟨-, haside, -⟩ := pause_completes paused
    rw [transmissions_append, transmissions_append, ih, sent.transmissions_eq,
      haside.transmissions_eq, List.append_nil, Queue.delivered_append]
    rfl

/-- **The time of the work on a queue** is that of its directives and of the pauses. -/
theorem slept_eq (h : b.Sends s queue t s') :
    slept t = queue.waited + b.paused queue.telecommands.length := by
  induction h with
  | nil => rfl
  | @directive queue e t u s₁ s₂ before isDirective done ih =>
    obtain ⟨-, hslept, -⟩ := carryOut_completes done
    rw [slept_append, ih, hslept, Queue.waited_concat,
      Queue.telecommands_concat_directive isDirective]
    omega
  | @telecommand queue tc start t u v s₁ s₂ s₃ before sent paused ih =>
    obtain ⟨-, -, hslept⟩ := pause_completes paused
    have hnothing : (Queue.Entry.telecommand tc).waited.nanos = 0 := rfl
    rw [slept_append, slept_append, ih, sent.still.slept_eq, hslept, Queue.waited_concat, hnothing,
      Queue.telecommands_concat_telecommand, List.length_append, List.length_singleton,
      Burst.paused_succ]
    omega

/-- The window after the work on a queue is the one that its directives leave behind. -/
theorem tmTimeout_eq (h : b.Sends s queue t s') :
    s'.tmTimeout = Queue.window s.tmTimeout queue := by
  induction h with
  | nil => rfl
  | @directive queue e t u s₁ s₂ before isDirective done ih =>
    obtain ⟨-, -, hwindow⟩ := carryOut_completes done
    rw [hwindow, ih, Queue.window_concat]
  | @telecommand queue tc start t u v s₁ s₂ s₃ before sent paused ih =>
    obtain ⟨rfl, -, -⟩ := pause_completes paused
    have hkeeps : s₃.tmTimeout = s₁.tmTimeout := by
      cases sent
      rfl
    rw [hkeeps, ih, Queue.window_concat]
    rfl

end Burst.Sends

/-- **The burst sender goes through its queue**: it processes all entries, or those before a
telecommand that cannot be sent. -/
theorem secures_sendAll_sends (queue : Queue) {r : Sender} {before : Queue}
    (sends : b.Sends r before t s)
    {Q : Except Link.Error (List Telecommand.Info) × Queue → Trace Sender → Sender → Prop}
    (all : ∀ u s', b.Sends r (before ++ queue) u s' →
      Q (.ok (queue.telecommands.map (·.info)), []) (p ++ u) s')
    (stopped : ∀ front tc rest u s₁ start cause v s₂, queue = front ++ .telecommand tc :: rest →
      b.Sends r (before ++ front) u s₁ → Transmits tc s₁ start (.error cause) v s₂ →
      Q (.error cause, rest) (p ++ (u ++ v)) s₂) :
    Secures (Looks R) (b.sendAll before.telecommands.length queue) Q (p ++ t) s := by
  -- The induction is on the queue; every entry goes over to those that are processed.
  induction queue generalizing before t s Q with
  | nil =>
    rw [List.append_nil] at all
    exact Secures.pure_iff.mpr (all t s sends)
  | cons e rest ih =>
    unfold Burst.sendAll
    rw [Secures.bind_iff]
    refine Secures.mono_completes (P := fun x u s' => x = e.isTelecommand ∧
      ∀ tc, e = .telecommand tc → u = [] ∧ s' = { s with last := some tc })
      (secures_carryOut fun u s' _ _ htelecommand => ⟨u, rfl, rfl, htelecommand⟩) ?_
    rintro _ u s' run ⟨rfl, htelecommand⟩
    cases he : e.isTelecommand with
    | false =>
      rw [he] at run
      rw [if_neg Bool.false_ne_true, List.append_assoc,
        ← Queue.telecommands_concat_directive he before]
      refine ih (sends.directive he run) (fun v s'' hsends => ?_) ?_
      · rw [List.append_assoc, List.singleton_append] at hsends
        have hall := all v s'' hsends
        rw [Queue.telecommands_cons_directive he] at hall
        exact hall
      · intro front tc others v s₁ start cause x s₂ hrest hsends hfailed
        rw [List.append_assoc, List.singleton_append] at hsends
        exact stopped (e :: front) tc others v s₁ start cause x s₂ (congrArg (e :: ·) hrest) hsends
          hfailed
    | true =>
      rw [if_pos rfl, Secures.bind_iff]
      obtain ⟨tc, rfl⟩ := Queue.Entry.exists_of_isTelecommand he
      obtain ⟨rfl, rfl⟩ := htelecommand tc rfl
      rw [List.append_nil]
      refine secures_sendLast fun start outcome u s₁ htransmits => ?_
      rw [List.append_assoc]
      rcases outcome with cause | ⟨⟩
      · refine Secures.pure_iff.mpr (stopped [] tc rest t s start cause u s₁ rfl ?_ htransmits)
        rw [List.append_nil]
        exact sends
      · simp only [Secures.bind_iff]
        refine Secures.mono_completes (P := fun _ _ _ => True)
          ((secures_pause (Q := fun _ q _ => ∃ v, q = p ++ (t ++ u) ++ v ∧ True)
            fun v _ => ⟨v, rfl, trivial⟩)) ?_
        rintro ⟨⟩ v s₂ paused -
        have hsends : b.Sends r (before ++ [.telecommand tc]) (t ++ u ++ v) s₂ :=
          sends.telecommand htransmits paused
        have hcount : before.telecommands.length + 1 =
            (Queue.telecommands (before ++ [.telecommand tc])).length := by
          rw [Queue.telecommands_concat_telecommand, List.length_append, List.length_singleton]
        rw [Secures.bind_iff, List.append_assoc, hcount]
        refine ih hsends (fun w s₃ hall => Secures.pure_iff.mpr ?_) ?_
        · rw [List.append_assoc, List.singleton_append] at hall
          exact all w s₃ hall
        · intro front tc' others w s₃ start' cause x s₄ hrest hall hfailed
          rw [List.append_assoc, List.singleton_append] at hall
          exact Secures.pure_iff.mpr (stopped (.telecommand tc :: front) tc' others w s₃ start'
            cause x s₄ (congrArg (Queue.Entry.telecommand tc :: ·) hrest) hall hfailed)

/-! ### Whole bursts -/

/-- The deeds with which a burst enters the mode of the listener. -/
def enteringBurst (s : Sender) : Trace Sender :=
  [⟨s, .clearReplies, ()⟩, ⟨s, .request (.changeMode .unitTest), true⟩,
    ⟨s, .sleep Settings.modeChangeDelay, ()⟩]

/-- The time of a burst that sends everything: the change of mode, the directives that wait, the
pauses after the telecommands, and the part of the collection window that is waited for at the end.
-/
def Burst.duration (b : Burst) (queue : Queue) (window : Span) : Nat :=
  Settings.modeChangeDelay.nanos + queue.waited + b.paused queue.telecommands.length +
    ((Queue.window window queue).divide Settings.burstDivisor).nanos

/-- A burst from the state `s`, and how it ends. -/
inductive SendsBurst (b : Burst) (queue : Queue) (s : Sender) :
    Except Error (List Telecommand.Info × List Packet.Batch) → Queue → Trace Sender → Prop
  /-- The listener does not take the request for its mode. -/
  | refused : SendsBurst b queue s (.error .listenerGone) queue
      [⟨s, .clearReplies, ()⟩, ⟨s, .request (.changeMode .unitTest), false⟩]
  /-- The whole queue is processed. -/
  | all {work closing : Trace Sender} {s₁ s₂ : Sender} (batches : List Packet.Batch) (told : Bool)
      (sends : b.Sends s queue work s₁) (prints : Prints closing) :
      SendsBurst b queue s
        (if told then .ok (queue.telecommands.map (·.info), batches) else .error .listenerGone) []
        (enteringBurst s ++ work ++
          [⟨s₁, .sleep (s₁.tmTimeout.divide Settings.burstDivisor), ()⟩] ++ closing ++
          [⟨s₂, .request .finishOperation, told⟩])
  /-- A telecommand cannot be sent. -/
  | stopped {front rest : Queue} {tc : Telecommand.Packed} {start : Span} {cause : Link.Error}
      {work last closing : Trace Sender} {s₁ s₂ s₃ : Sender} (told : Bool)
      (split : queue = front ++ .telecommand tc :: rest) (sends : b.Sends s front work s₁)
      (failed : Transmits tc s₁ start (.error cause) last s₂) (prints : Prints closing) :
      SendsBurst b queue s (if told then .error (.link cause) else .error .listenerGone) rest
        (enteringBurst s ++ work ++ last ++ closing ++ [⟨s₃, .request .finishOperation, told⟩])

theorem secures_sendBurst_sends : Secures (Looks R) (sendBurst b queue)
    (fun r t _ => SendsBurst b queue s r.1 r.2 t) [] s := by
  unfold sendBurst
  rw [Secures.bind_iff]
  refine secures_enterMode (Secures.pure_iff.mpr .refused) ?_
  rw [Bool.not_true, if_neg Bool.false_ne_true, Secures.bind_iff]
  have hnone : b.Sends s [] [] s := .nil
  refine secures_sendAll_sends (p := enteringBurst s) queue hnone (fun work s₁ sends => ?_) ?_
  · simp only [Except.isOk, Except.toBool, if_true]
    rw [Secures.bind_iff, Secures.get_iff, Secures.bind_iff]
    refine secures_sleep ?_
    refine secures_concludeBurst _ _ fun batches closing told s₂ prints => ?_
    have hall := @SendsBurst.all b queue s work closing s₁ s₂ batches told sends prints
    cases told with
    | true => exact hall
    | false => exact hall
  · intro front tc rest work s₁ start cause last s₂ split sends failed
    refine secures_concludeBurst _ _ fun batches closing told s₃ prints => ?_
    have hstopped := @SendsBurst.stopped b queue s front rest tc start cause work last closing
      s₁ s₂ s₃ told split sends failed prints
    rw [List.append_assoc (enteringBurst s)] at hstopped
    cases told with
    | true => exact hstopped
    | false => exact hstopped

namespace SendsBurst

variable {result : Except Error (List Telecommand.Info × List Packet.Batch)}

theorem slept_entering (s : Sender) : slept (enteringBurst s) = Settings.modeChangeDelay.nanos := by
  rw [enteringBurst, slept_cons, slept_cons, slept_sleep]
  exact (Nat.zero_add _).trans (Nat.zero_add _)

theorem transmissions_entering (s : Sender) : transmissions (enteringBurst s) = [] := rfl

theorem transmissions_sleep (s : Sender) (time : Span) :
    transmissions [⟨s, .sleep time, ()⟩] = [] := rfl

theorem transmissions_finish (s : Sender) (told : Bool) :
    transmissions [⟨s, .request .finishOperation, told⟩] = [] := rfl

/-- **What is sent** in a burst: the telecommands of the queue, or those up to one that cannot be
sent. -/
theorem transmissions_eq (h : SendsBurst b queue s result rest t) :
    transmissions t = [] ∨ transmissions t = delivered queue ∨
      ∃ front tc cause, queue = front ++ .telecommand tc :: rest ∧
        transmissions t = delivered front ++ [(tc, .error cause)] ∧ ∃ e, result = .error e := by
  cases h with
  | refused => exact .inl rfl
  | all batches told sends prints =>
    refine .inr (.inl ?_)
    rw [transmissions_append, transmissions_append, transmissions_append, transmissions_append,
      transmissions_entering, sends.transmissions_eq, transmissions_sleep,
      prints.aside.transmissions_eq, transmissions_finish]
    simp only [List.append_nil, List.nil_append]
  | @stopped front _ tc start cause work last closing s₁ s₂ s₃ told split sends failed prints =>
    refine .inr (.inr ⟨front, tc, cause, split, ?_, ?_⟩)
    · rw [transmissions_append, transmissions_append, transmissions_append, transmissions_append,
        transmissions_entering, sends.transmissions_eq, failed.transmissions_eq,
        prints.aside.transmissions_eq, transmissions_finish]
      simp only [List.append_nil, List.nil_append]
    · cases told with
      | true => exact ⟨_, rfl⟩
      | false => exact ⟨_, rfl⟩

/-- **A burst that is not disturbed** goes through the whole queue. -/
theorem undisturbed (h : SendsBurst b queue s result rest t)
    (delivered : ∀ m request, ⟨m, .request request, false⟩ ∉ t)
    (accepted : ∀ x ∈ transmissions t, x.2 = .ok ()) :
    rest = [] ∧ (∃ batches, result = .ok (queue.telecommands.map (·.info), batches)) ∧
      slept t = b.duration queue s.tmTimeout ∧
      ∃ work closing s₁, t = enteringBurst s ++ work ++ closing ∧ b.Sends s queue work s₁ ∧
        sentBy closing = [] := by
  cases h with
  | refused => exact absurd (List.mem_cons_of_mem _ List.mem_cons_self) (delivered _ _)
  | @all work closing s₁ s₂ batches told sends prints =>
    have htold : told = true := by
      cases told with
      | true => rfl
      | false =>
        exact absurd (List.mem_append_right _ List.mem_cons_self) (delivered s₂ .finishOperation)
    subst htold
    refine ⟨rfl, ⟨batches, rfl⟩, ?_, work,
      [⟨s₁, .sleep (s₁.tmTimeout.divide Settings.burstDivisor), ()⟩] ++ closing ++
        [⟨s₂, .request .finishOperation, true⟩], s₁, ?_, sends, ?_⟩
    · have hfinish : slept [(⟨s₂, .request .finishOperation, true⟩ : Deed Sender)] = 0 := rfl
      rw [slept_append, slept_append, slept_append, slept_append, slept_entering, sends.slept_eq,
        slept_sleep, prints.still.slept_eq, hfinish, sends.tmTimeout_eq, Burst.duration]
      omega
    · simp only [List.append_assoc]
    · rw [sentBy_append, sentBy_append, prints.aside.sentBy_eq]
      rfl
  | @stopped front _ tc start cause work last closing s₁ s₂ s₃ told split sends failed prints =>
    -- A burst that stopped has a failed transmission, but all were accepted.
    have hfailed : (tc, .error cause) ∈ transmissions last := by
      rw [failed.transmissions_eq]
      exact List.mem_singleton_self _
    have hmem : (tc, .error cause) ∈ transmissions
        (enteringBurst s ++ work ++ last ++ closing ++
          [⟨s₃, .request .finishOperation, told⟩]) := by
      simp only [transmissions_append, List.mem_append]
      exact .inl (.inl (.inr hfailed))
    exact nomatch accepted _ hmem

/-- **A transmission that fails** is the last one. -/
theorem failing {cause : Link.Error} (h : SendsBurst b queue s result rest t)
    (failed : (transmissions t)[k]? = some (tc, .error cause)) :
    sentBy t = queue.telecommands.take (k + 1) ∧ ∃ e, result = .error e := by
  have hmem := List.mem_of_getElem? failed
  rcases h.transmissions_eq with hnone | hall | ⟨front, tc', cause', hsplit, hstopped, herror⟩
  · rw [hnone] at hmem
    exact absurd hmem List.not_mem_nil
  · rw [hall] at hmem
    exact nomatch ok_of_mem_delivered hmem
  · refine ⟨?_, herror⟩
    have hlength : (delivered front).length = front.telecommands.length := List.length_map _
    rw [hstopped] at failed
    -- The transmissions before the last one were all accepted.
    have hk : k = front.telecommands.length := by
      rcases Nat.lt_trichotomy k (delivered front).length with hbefore | hlast | hbehind
      · rw [List.getElem?_append_left hbefore] at failed
        exact nomatch ok_of_mem_delivered (List.mem_of_getElem? failed)
      · rw [hlast, hlength]
      · have hend : (delivered front ++ [(tc', Except.error cause')]).length ≤ k := by
          rw [List.length_append, List.length_singleton]
          omega
        rw [List.getElem?_eq_none hend] at failed
        exact nomatch failed
    have htelecommands : queue.telecommands =
        front.telecommands ++ tc' :: Queue.telecommands rest := by
      rw [hsplit]
      exact List.filterMap_append
    rw [← map_fst_transmissions, hstopped, List.map_append, map_fst_delivered, htelecommands, hk,
      List.take_length_add_append]
    rfl

end SendsBurst

/-- **A burst sends every telecommand once.**  In every world it ends.  If the listener takes the
requests and the link accepts what is sent, then the telecommands of the queue are sent once each
and in order, and their records are returned; the directives are carried out between them, in the
order of the queue.  The burst takes the time of the change of mode and of the waiting directives,
for each number of telecommands that is listed the time at its first position, and at the end the
part of the collection window that the directives leave behind; a clock that nobody else moves is
ahead by that time.  If the `k`-th transmission fails, the first `k` telecommands were sent, and no
more. -/
theorem sendBurst_sends_once (b : Burst) (queue : Queue) (s : Sender) :
    (∀ world, ∃ t r s', (sendBurst b queue).Completes s t r s' ∧ Follows world [] t) ∧
    ∀ t result rest s', (sendBurst b queue).Completes s t (result, rest) s' →
      ((∀ m request, ⟨m, .request request, false⟩ ∉ t) →
        (∀ x ∈ transmissions t, x.2 = .ok ()) →
        sentBy t = queue.telecommands ∧
        (∃ batches, result = .ok (queue.telecommands.map (·.info), batches)) ∧ rest = [] ∧
        (∃ work closing s₁, t = enteringBurst s ++ work ++ closing ∧ b.Sends s queue work s₁ ∧
          sentBy closing = []) ∧
        slept t = b.duration queue s.tmTimeout ∧
        ∀ clock : SteppingClock, (clock.after t).nanos =
          clock.nanos + UInt64.ofNat (b.duration queue s.tmTimeout)) ∧
      ∀ k tc cause, (transmissions t)[k]? = some (tc, .error cause) →
        sentBy t = queue.telecommands.take (k + 1) ∧ ∃ e, result = .error e := by
  constructor
  case left =>
    intro world
    have halts : Routine.Halts world (sendBurst b queue) [] s :=
      (plain_sendBurst b queue s).halts []
    obtain ⟨t, ⟨result, s'⟩, run, follows⟩ := halts
    exact ⟨t, result, s', run, follows⟩
  case right =>
    intro t result rest s' run
    have hburst : SendsBurst b queue s result rest t :=
      (secures_sendBurst_sends (R := fun _ _ => True)).of_completes run
    refine ⟨fun hdelivered haccepted => ?_, fun k tc cause hfailed => hburst.failing hfailed⟩
    obtain ⟨hrest, hresult, hslept, work, closing, s₁, ht, hsends, hclosing⟩ :=
      hburst.undisturbed hdelivered haccepted
    refine ⟨?_, hresult, hrest, ⟨work, closing, s₁, ht, hsends, hclosing⟩, hslept,
      fun clock => ?_⟩
    · have hentering : sentBy (enteringBurst s) = [] := rfl
      -- The transmissions are those of the queue; entering and closing send nothing.
      have hwork : sentBy work = queue.telecommands := by
        rw [← map_fst_transmissions, hsends.transmissions_eq, map_fst_delivered]
      rw [ht, sentBy_append, sentBy_append, hentering, hwork, hclosing, List.append_nil,
        List.nil_append]
    · rw [SteppingClock.nanos_after, hslept]

/-- Answers by which the link fails from the second transmission on. -/
def linkBreaks (p : Trace Sender) : (effect : Effect) → effect.Answer
  | .send _ => if (sentBy p).isEmpty then .ok () else .error .closed
  | effect => effect.calm

/-- Two telecommands with a directive between and one behind them.  The first is listed behind the
second, and only the second has a time: the burst takes 0.1 s, 1 s, 3 s and 7 s by 1.4.  If the link
breaks, the second one fails. -/
theorem sendBurst_sends_once_unordered :
    let b : Burst := ⟨[2, 1, 2], .perInterval [Span.ofSecs 3], false⟩
    let queue : Queue := [.telecommand default, .wait (Span.ofSecs 1), .telecommand default,
      .timeout (Span.ofSecs 7)]
    let s := make {} (Printer.make .short false false)
    (∃ t batches s', (sendBurst b queue).Completes s t
        (.ok ([default, default], batches), []) s' ∧
      sentBy t = [default, default] ∧ slept t = 9100000000) ∧
    ∃ t r s', (sendBurst b queue).Completes s t r s' ∧
      (transmissions t)[1]? = some (default, .error .closed) ∧
      sentBy t = queue.telecommands.take 2 := by
  intro b queue s
  obtain ⟨hends, hruns⟩ := sendBurst_sends_once b queue s
  constructor
  · obtain ⟨t, ⟨result, rest⟩, s', run, follows⟩ := hends fun _ effect => effect.calm
    have hdelivered : ∀ m request, (⟨m, .request request, false⟩ : Deed Sender) ∉ t := by
      intro m request hmem
      obtain ⟨p, q, ht⟩ := List.append_of_mem hmem
      exact nomatch (follows.answer_eq ht : false = true)
    have haccepted : ∀ x ∈ transmissions t, x.2 = .ok () := by
      intro x hx
      obtain ⟨⟨m, effect, answer⟩, hmem, hsome⟩ := List.mem_filterMap.mp hx
      obtain ⟨p, q, ht⟩ := List.append_of_mem hmem
      have hanswer := follows.answer_eq ht
      cases effect <;> cases hsome
      exact hanswer
    obtain ⟨hsent, ⟨batches, rfl⟩, rfl, -, hslept, -⟩ :=
      (hruns t result rest s' run).1 hdelivered haccepted
    have hduration : b.duration queue s.tmTimeout = 9100000000 := by decide +kernel
    exact ⟨t, batches, s', run, hsent, hslept.trans hduration⟩
  · let played := Activity.play linkBreaks 40 [] (sendBurst b queue s)
    have hdone : played.2.result?.isSome = true := by decide +kernel
    have hfailed : (transmissions played.1)[1]? = some (default, .error .closed) := by
      decide +kernel
    obtain ⟨⟨r, s'⟩, run⟩ := Activity.reaches_play_done hdone
    obtain ⟨hsent, -⟩ := (hruns played.1 r.1 r.2 s' run).2 1 default .closed hfailed
    exact ⟨played.1, r, s', run, hfailed, hsent⟩

end Sender

end GroundLink
