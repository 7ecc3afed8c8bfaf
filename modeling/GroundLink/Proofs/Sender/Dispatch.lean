import GroundLink.Proofs.Sender.Firsts
import GroundLink.Proofs.Sender.Order
import GroundLink.Sender.Burst

/-!
# Dispatching a queue

A sender makes one first transmission for each telecommand of its queue, in order.  If one of them
fails, it sends nothing more and leaves the entries behind the failed telecommand.  This holds of
the sender that waits for replies (`Sender.secures_sendQueue_dispatches`) as well as of the one that
sends in bursts (`Sender.secures_sendAll`), and `Sender.Dispatches` is what they have in common.
-/

namespace GroundLink

/-- The successful transmissions of all telecommands in a queue. -/
def Queue.delivered (q : Queue) : List (Telecommand.Packed × Except Link.Error Unit) :=
  q.telecommands.map fun tc => (tc, .ok ())

namespace Queue

@[simp]
theorem delivered_nil : delivered [] = [] := rfl

@[simp]
theorem delivered_append (q q' : Queue) : delivered (q ++ q') = delivered q ++ delivered q' := by
  unfold delivered telecommands
  rw [List.filterMap_append, List.map_append]

@[simp]
theorem delivered_telecommand (tc : Telecommand.Packed) (q : Queue) :
    delivered (.telecommand tc :: q) = (tc, .ok ()) :: delivered q := rfl

theorem delivered_directive {e : Entry} (isDirective : e.isTelecommand = false) (q : Queue) :
    delivered (e :: q) = delivered q := by
  have hnone : e.telecommand? = none := by
    rw [Entry.isTelecommand, Option.isSome_eq_false_iff, Option.isNone_iff_eq_none] at isDirective
    exact isDirective
  unfold delivered telecommands
  rw [List.filterMap_cons_none hnone]

end Queue

namespace Sender

open Queue (delivered)
open Routine (Secures)

variable {R : Trace Sender → Sender → Prop} {tc : Telecommand.Packed} {p t u w : Trace Sender}
  {r s s' : Sender} {queue rest : Queue} {sent : Except Link.Error Unit}

/-! ### How a queue is dispatched -/

/-- **How the work on a queue comes out.** -/
inductive Dispatches (queue : Queue) : Except Link.Error Unit → Queue → Trace Sender → Prop
  /-- Every telecommand was sent. -/
  | all {w : Trace Sender} {waiting : Bool} (ledger : Ledger false w (delivered queue) waiting) :
      Dispatches queue (.ok ()) [] w
  /-- A first transmission failed, after which nothing was sent. -/
  | stopped {before rest : Queue} {tc : Telecommand.Packed} {m : Sender} {cause : Link.Error}
      {w tail : Trace Sender} (split : queue = before ++ .telecommand tc :: rest)
      (ledger : Ledger false w (delivered before) false) (aside : Aside tail) :
      Dispatches queue (.error cause) rest (w ++ ⟨m, .send tc, .error cause⟩ :: tail)

/-- The telecommand is sent by the last deed of its transmission. -/
theorem Transmits.eq_concat {start : Span} (h : Transmits tc s start sent u r) :
    ∃ v, u = v ++ [⟨r, .send tc, sent⟩] ∧ ∀ d ∈ v, d.IsNeutral false := by
  cases h with
  | intro printer printed hprinted =>
    refine ⟨_, rfl, fun d hd => ?_⟩
    rcases List.mem_cons.mp hd with rfl | hd
    · exact ⟨nofun, rfl, rfl⟩
    · exact hprinted.neutral false d hd

/-- Deeds that concern neither telecommands nor replies at most end a wait. -/
theorem Aside.ledger (h : Aside t) (waiting : Bool) : ∃ after, Ledger waiting t [] after := by
  induction t generalizing waiting with
  | nil => exact ⟨waiting, .of_neutral fun d hd => absurd hd List.not_mem_nil⟩
  | cons d t ih =>
    obtain ⟨hd, hrest⟩ := List.forall_mem_cons.mp h
    have hfirst : Ledger waiting [d] [] (d.waitsAfter waiting) := by
      obtain ⟨mark, effect, answer⟩ := d
      cases effect <;> first
        | exact absurd hd id
        | exact ⟨by simp, rfl, rfl⟩
    obtain ⟨after, hledger⟩ := ih hrest (d.waitsAfter waiting)
    exact ⟨after, hfirst.append hledger⟩

namespace Dispatches

/-- Deeds after the work on a queue. -/
theorem then_aside (h : Dispatches queue sent rest w) (aside : Aside t) :
    Dispatches queue sent rest (w ++ t) := by
  cases h with
  | @all _ waiting ledger =>
    obtain ⟨after, hledger⟩ := aside.ledger waiting
    have hboth := ledger.append hledger
    rw [List.append_nil] at hboth
    exact .all hboth
  | stopped split ledger before =>
    rw [List.append_assoc]
    exact .stopped split ledger (before.append aside)

/-- Entries that are processed before the work on a queue. -/
theorem of_append {front : Queue} (first : Ledger false t (delivered front) false)
    (h : Dispatches queue sent rest w) : Dispatches (front ++ queue) sent rest (t ++ w) := by
  cases h with
  | all ledger =>
    have hboth := first.append ledger
    rw [← Queue.delivered_append] at hboth
    exact .all hboth
  | stopped split ledger aside =>
    have hboth := first.append ledger
    rw [← Queue.delivered_append] at hboth
    rw [← List.append_assoc]
    exact .stopped (by rw [split, List.append_assoc]) hboth aside

/-- The first transmission of the first entry fails. -/
theorem of_failed {start : Span} {cause : Link.Error}
    (failed : Transmits tc s start (.error cause) u r) :
    Dispatches (.telecommand tc :: rest) (.error cause) rest u := by
  obtain ⟨v, rfl, neutral⟩ := failed.eq_concat
  have hfirst : (.telecommand tc :: rest : Queue) = [] ++ .telecommand tc :: rest := rfl
  exact .stopped hfirst (.of_neutral neutral) Aside.nil

end Dispatches

/-! ### The sequential sender -/

/-- **Up to the next telecommand** there are only directives, which send nothing. -/
theorem secures_sendNext_split (queue : Queue)
    {Q : Except Link.Error Bool × Queue → Trace Sender → Sender → Prop}
    (all : ∀ t s', delivered queue = [] → Aside t → Q (.ok false, []) (p ++ t) s')
    (next : ∀ directives tc rest t s₁ start sent u s₂,
      queue = directives ++ .telecommand tc :: rest → delivered directives = [] → Aside t →
      Transmits tc s₁ start sent u s₂ → Q (sent.map fun _ => true, rest) (p ++ (t ++ u)) s₂) :
    Secures (Looks R) (sendNext queue) Q p s := by
  -- Directives are carried out until a telecommand is met or the queue is empty.
  induction queue generalizing p s with
  | nil =>
    have hall := all [] s rfl Aside.nil
    rw [List.append_nil] at hall
    exact Secures.pure_iff.mpr hall
  | cons e rest ih =>
    unfold sendNext
    rw [Secures.bind_iff]
    refine secures_carryOut fun t s' aside _ htelecommand => ?_
    cases he : e.isTelecommand with
    | false =>
      rw [if_neg Bool.false_ne_true]
      have hsame (q : Queue) : delivered (e :: q) = delivered q := Queue.delivered_directive he q
      refine ih (fun u s'' hnone hu => ?_) ?_
      · rw [List.append_assoc]
        exact all _ s'' (by rw [hsame, hnone]) (aside.append hu)
      · intro directives tc rest' u s₁ start sent v s₂ hrest hnone hu htransmits
        have hnext := next (e :: directives) tc rest' (t ++ u) s₁ start sent v s₂
          (by rw [hrest, List.cons_append]) (by rw [hsame, hnone]) (aside.append hu) htransmits
        rw [List.append_assoc, ← List.append_assoc t]
        exact hnext
    | true =>
      rw [if_pos rfl, Secures.bind_iff]
      obtain ⟨tc, rfl⟩ := Queue.Entry.exists_of_isTelecommand he
      obtain ⟨rfl, rfl⟩ := htelecommand tc rfl
      refine secures_sendLast fun start sent u s₂ htransmits => ?_
      rw [Secures.pure_iff, List.append_nil]
      exact next [] tc rest [] s start sent u s₂ rfl rfl Aside.nil htransmits

/-- In the middle of the work on a queue: the telecommands before `rest` were sent, and one of them
waits for its reply. -/
inductive Underway (queue rest : Queue) (w : Trace Sender) (s : Sender) : Prop
  | intro {before : Queue} {waiting : Bool} {tc : Telecommand.Packed} {start : Span}
      (split : queue = before ++ rest) (ledger : Ledger false w (delivered before) waiting)
      (last : s.last = some tc) (started : s.started = some start)

/-- The next telecommand is sent, if there is one. -/
theorem secures_sendNext_underway {before : Queue} (split : queue = before ++ rest)
    (ledger : Ledger false w (delivered before) false)
    {Q : Except Link.Error Bool × Queue → Trace Sender → Sender → Prop}
    (all : ∀ t s', Dispatches queue (.ok ()) [] (w ++ t) → Q (.ok false, []) (p ++ t) s')
    (failed : ∀ cause rest t s', Dispatches queue (.error cause) rest (w ++ t) →
      Q (.error cause, rest) (p ++ t) s')
    (sent : ∀ rest t s', Underway queue rest (w ++ t) s' → Q (.ok true, rest) (p ++ t) s') :
    Secures (Looks R) (sendNext rest) Q p s := by
  subst split
  refine secures_sendNext_split rest (fun t s' hnone aside => all t s' ?_) ?_
  · have hledger := ledger.then_neutral aside.neutral
    rw [← List.append_nil (delivered before), ← hnone, ← Queue.delivered_append] at hledger
    exact .all hledger
  · intro directives tc rest' t s₁ start outcome u s₂ hrest hnone aside htransmits
    have hledger := ledger.then_neutral aside.neutral
    rw [← List.append_nil (delivered before), ← hnone, ← Queue.delivered_append] at hledger
    have hsplit : before ++ rest = (before ++ directives) ++ .telecommand tc :: rest' := by
      rw [hrest, List.append_assoc]
    rcases outcome with cause | ⟨⟩
    · refine failed cause rest' (t ++ u) s₂ ?_
      rw [hsplit, ← List.append_assoc]
      exact .of_append hledger (.of_failed htransmits)
    · refine sent rest' (t ++ u) s₂ ?_
      obtain ⟨last, started, -⟩ := htransmits.ready
      have hsent := hledger.append htransmits.ledger
      have hdelivered : delivered (before ++ directives) ++ [(tc, .ok ())] =
          delivered ((before ++ directives) ++ [.telecommand tc]) :=
        (Queue.delivered_append (before ++ directives) [.telecommand tc]).symm
      rw [hdelivered, List.append_assoc] at hsent
      exact .intro (by rw [hsplit, List.append_cons]) hsent last started

/-- After the wait for a telecommand, the telemetry is printed and the next one is sent. -/
theorem secures_moveOn_underway {before : Queue} {waiting : Bool} (split : queue = before ++ rest)
    (ledger : Ledger false w (delivered before) waiting)
    {Q : Except Link.Error Unit × Queue → Trace Sender → Sender → Prop}
    (h : ∀ sent rest t s', Dispatches queue sent rest t → Q (sent, rest) (p ++ t) s') :
    Secures (Looks R) (moveOn rest)
      (Sum.elim (fun rest q s => ∃ w, q = p ++ w ∧ Underway queue rest w s) Q) (p ++ w) s := by
  unfold moveOn
  rw [Secures.bind_iff]
  refine secures_printTelemetry fun batches printer printed hprinted => ?_
  rw [Secures.bind_iff, List.append_assoc]
  have hledger := ledger.append (ledger_take waiting s batches hprinted)
  rw [List.append_nil] at hledger
  refine secures_sendNext_underway split hledger (fun t s' done => ?_)
    (fun cause rest t s' stopped => ?_) fun rest t s' underway => ?_
  · simp only [Secures.bind_iff]
    refine secures_note (Secures.pure_iff.mpr ?_)
    rw [List.append_assoc, List.append_assoc]
    refine h _ _ _ _ ?_
    rw [← List.append_assoc]
    exact done.then_aside (Logs.single s' _).aside
  · rw [List.append_assoc]
    exact Secures.pure_iff.mpr (h _ _ _ _ stopped)
  · rw [List.append_assoc]
    exact Secures.pure_iff.mpr ⟨_, rfl, underway⟩

/-- **The loop of the sequential sender** dispatches the rest of its queue. -/
theorem secures_sendOthers_dispatches (underway : Underway queue rest w s)
    {Q : Except Link.Error Unit × Queue → Trace Sender → Sender → Prop}
    (h : ∀ sent rest t s', Dispatches queue sent rest t → Q (sent, rest) (p ++ t) s') :
    Secures (Looks fun _ _ => True) (sendOthers rest) Q (p ++ w) s := by
  rw [sendOthers_eq]
  -- Invariant: what was sent so far, and the telecommand that is waiting.
  refine Secures.iterate (fun rest q s => ∃ w, q = p ++ w ∧ Underway queue rest w s) ?_
    ⟨w, rfl, underway⟩
  rintro rest _ s ⟨w, rfl, @⟨before, waiting, tc, start, split, ledger, last, started⟩⟩
  unfold othersRound
  rw [Secures.bind_iff]
  refine Secures.perform_iff.mpr ⟨fun _ => trivial, fun replied => ?_⟩
  have hlooked := ledger.append (ledger_look waiting s replied)
  rw [List.append_nil] at hlooked
  cases replied with
  | true =>
    rw [if_pos rfl, Secures.bind_iff, Secures.modify_iff, Secures.bind_iff, Secures.get_iff,
      Bool.not_true, if_neg Bool.false_ne_true, List.append_assoc]
    exact secures_moveOn_underway split hlooked h
  | false =>
    rw [if_neg Bool.false_ne_true, Secures.bind_iff, Secures.get_iff]
    cases answered : s.isAnswered with
    | true =>
      rw [Bool.not_true, if_neg Bool.false_ne_true, List.append_assoc]
      exact secures_moveOn_underway split hlooked h
    | false =>
      rw [Bool.not_false, if_pos rfl, Secures.bind_iff]
      refine secures_checkForTimeout last started fun t s' step => Secures.pure_iff.mpr ?_
      have hround := ledger.append (step.ledger waiting)
      rw [List.append_nil] at hround
      obtain ⟨hlast, restart, hrestart⟩ := step.ready last started
      exact ⟨w ++ emptyRound s t s', by simp [emptyRound], .intro split hround hlast hrestart⟩

/-- **The sequential sender dispatches its queue.** -/
theorem secures_sendQueue_dispatches (queue : Queue)
    {Q : Except Link.Error Unit × Queue → Trace Sender → Sender → Prop}
    (h : ∀ sent rest t s', Dispatches queue sent rest t → Q (sent, rest) (p ++ t) s') :
    Secures (Looks fun _ _ => True) (sendQueue queue) Q p s := by
  rw [sendQueue, Secures.bind_iff]
  have hnone : Ledger false [] (delivered []) false :=
    .of_neutral fun d hd => absurd hd List.not_mem_nil
  have hall : queue = [] ++ queue := rfl
  refine secures_sendNext_underway (w := []) hall hnone (fun t s' done => ?_)
    (fun cause rest t s' stopped => ?_) fun rest t s' underway => ?_
  · rw [Secures.bind_iff]
    refine secures_note (Secures.pure_iff.mpr ?_)
    rw [List.append_assoc]
    exact h _ _ _ _ (done.then_aside (Logs.single s' _).aside)
  · exact Secures.pure_iff.mpr (h _ _ _ _ stopped)
  · exact secures_sendOthers_dispatches underway h

/-! ### Bursts -/

variable {b : Burst} {count : Nat}

theorem secures_pause {Q : Unit → Trace Sender → Sender → Prop}
    (h : ∀ t, Aside t → Q () (p ++ t) s) : Secures (Looks R) (b.pause count) Q p s := by
  unfold Burst.pause
  split
  · split
    · exact secures_sleep (h _ (by simp [Aside, IsAside]))
    · exact secures_note (h _ (Logs.single s _).aside)
  · have hnothing := h [] Aside.nil
    rw [List.append_nil] at hnothing
    exact Secures.pure_iff.mpr hnothing

/-- **The burst sender dispatches its queue.** -/
theorem secures_sendAll (queue : Queue)
    {Q : Except Link.Error (List Telecommand.Info) × Queue → Trace Sender → Sender → Prop}
    (h : ∀ sent rest t s', Dispatches queue (sent.map fun _ => ()) rest t →
      Q (sent, rest) (p ++ t) s') :
    Secures (Looks R) (b.sendAll count queue) Q p s := by
  induction queue generalizing count p s Q with
  | nil =>
    have hnone : Ledger false [] (delivered []) false :=
      .of_neutral fun d hd => absurd hd List.not_mem_nil
    have hnothing := h (.ok []) [] [] s (.all hnone)
    rw [List.append_nil] at hnothing
    exact Secures.pure_iff.mpr hnothing
  | cons e rest ih =>
    unfold Burst.sendAll
    rw [Secures.bind_iff]
    refine secures_carryOut fun t s' aside _ htelecommand => ?_
    cases he : e.isTelecommand with
    | false =>
      rw [if_neg Bool.false_ne_true]
      refine ih fun sent others u s'' hu => ?_
      have hledger : Ledger false t (delivered [e]) false := by
        rw [Queue.delivered_directive he]
        exact .of_neutral aside.neutral
      rw [List.append_assoc]
      exact h sent others (t ++ u) s'' (hu.of_append hledger)
    | true =>
      rw [if_pos rfl, Secures.bind_iff]
      obtain ⟨tc, rfl⟩ := Queue.Entry.exists_of_isTelecommand he
      obtain ⟨rfl, rfl⟩ := htelecommand tc rfl
      refine secures_sendLast fun start outcome u s₂ htransmits => ?_
      rw [List.append_nil]
      rcases outcome with cause | ⟨⟩
      · exact Secures.pure_iff.mpr (h _ rest u s₂ (.of_failed htransmits))
      · simp only [Secures.bind_iff]
        refine secures_pause fun v hv => ?_
        rw [Secures.bind_iff]
        refine ih fun sent others x s₃ hx => Secures.pure_iff.mpr ?_
        -- The pause behind a telecommand transmits nothing.
        have hledger : Ledger false (u ++ v) (delivered [.telecommand tc]) false :=
          htransmits.ledger.then_neutral hv.neutral
        have hboth := hx.of_append hledger
        rw [List.append_assoc, List.append_assoc]
        refine h _ others _ s₃ ?_
        rw [← List.append_assoc]
        cases sent with
        | error cause => exact hboth
        | ok infos => exact hboth

/-- What the burst sender does after its transmissions, whether all of them were made or not. -/
theorem secures_concludeBurst (rest : Queue) (sent : Except Link.Error (List Telecommand.Info))
    {Q : Except Error (List Telecommand.Info × List Packet.Batch) × Queue → Trace Sender → Sender →
      Prop}
    (h : ∀ batches t told s', Prints t →
      Q (if told then (sent.map fun infos => (infos, batches)).mapError .link
        else .error .listenerGone, rest) (p ++ t ++ [⟨s', .request .finishOperation, told⟩]) s') :
    Secures (Looks R) (do
      let batches ← Routine.takeTelemetry
      if b.printsTelemetry then print (·.printBatches batches)
      return (← finish (sent.map fun infos => (infos, batches)), rest)) Q p s := by
  have hfinish (batches : List Packet.Batch) (t : Trace Sender) (prints : Prints t) (s' : Sender) :
      Secures (Looks R) (do
        return (← finish (sent.map fun infos => (infos, batches)), rest)) Q (p ++ t) s' := by
    rw [Secures.bind_iff]
    exact secures_finish fun told => Secures.pure_iff.mpr (h batches t told s' prints)
  rw [Secures.bind_iff]
  refine Secures.perform_iff.mpr ⟨nofun, fun batches => ?_⟩
  have htaken : Prints [(⟨s, .takeTelemetry, batches⟩ : Deed Sender)] :=
    List.forall_mem_singleton.mpr (.inl rfl)
  split
  · rw [Secures.bind_iff]
    refine secures_print fun printer printed hprinted => ?_
    rw [List.append_assoc]
    exact hfinish batches _ (htaken.append hprinted.prints) _
  · exact hfinish batches _ htaken s

theorem secures_sendBurst {queue : Queue}
    {Q : Except Error (List Telecommand.Info × List Packet.Batch) × Queue → Trace Sender → Sender →
      Prop}
    (refused : Q (.error .listenerGone, queue)
      (p ++ [⟨s, .clearReplies, ()⟩, ⟨s, .request (.changeMode .unitTest), false⟩]) s)
    (worked : ∀ (sent : Except Link.Error (List Telecommand.Info)) batches rest t told s',
      Dispatches queue (sent.map fun _ => ()) rest t →
      Q (if told then (sent.map fun infos => (infos, batches)).mapError .link
        else .error .listenerGone, rest)
        (p ++ [⟨s, .clearReplies, ()⟩, ⟨s, .request (.changeMode .unitTest), true⟩,
          ⟨s, .sleep Settings.modeChangeDelay, ()⟩] ++ t ++
            [⟨s', .request .finishOperation, told⟩]) s') :
    Secures (Looks R) (sendBurst b queue) Q p s := by
  unfold sendBurst
  rw [Secures.bind_iff]
  refine secures_enterMode (Secures.pure_iff.mpr refused) ?_
  rw [Bool.not_true, if_neg Bool.false_ne_true, Secures.bind_iff]
  refine secures_sendAll queue fun sent rest t s' dispatches => ?_
  -- Both outcomes are followed by the same conclusion, with or without the last pause.
  have hconclude (t : Trace Sender) (dispatches : Dispatches queue (sent.map fun _ => ()) rest t)
      (s' : Sender) := secures_concludeBurst (R := R) (b := b) (s := s')
    (p := p ++ [⟨s, .clearReplies, ()⟩, ⟨s, .request (.changeMode .unitTest), true⟩,
      ⟨s, .sleep Settings.modeChangeDelay, ()⟩] ++ t) (Q := Q) rest sent
    fun batches u told s'' prints => by
      have hworked := worked sent batches rest (t ++ u) told s''
        (dispatches.then_aside prints.aside)
      rw [← List.append_assoc] at hworked
      exact hworked
  cases sent with
  | error cause => exact hconclude t dispatches s'
  | ok infos =>
    have hslept := dispatches.then_aside
      (t := [⟨s', .sleep (s'.tmTimeout.divide Settings.burstDivisor), ()⟩])
      (by simp [Aside, IsAside])
    simp only [Except.isOk, Except.toBool, if_true]
    rw [Secures.bind_iff, Secures.get_iff, Secures.bind_iff]
    refine secures_sleep ?_
    rw [List.append_assoc _ t]
    exact hconclude _ hslept s'

end Sender

end GroundLink
