import GroundLink.Proofs.Sender.Waiting
import GroundLink.Sender.Single

/-!
# The rounds of a single telecommand

The sender of a single telecommand waits in rounds: it looks for a reply, and if there is none it
takes a step of waiting.  `Sender.Rounds` describes any number of rounds and `Sender.SendsSingle`
the whole work, whatever the clock, the link and the listener do.

Whether a retransmission succeeds makes no difference: the telecommands that were sent are the first
one and as many repetitions as were counted (`Sender.Rounds.counted`).
-/

namespace GroundLink.Sender

open Routine (Secures)

variable {R : Trace Sender → Sender → Prop} {tc : Telecommand.Packed} {r s s' : Sender}
  {start : Span} {p t u w : Trace Sender}

/-! ### One step of waiting -/

/-- A step of waiting sends the telecommand once more and counts that, or does neither. -/
theorem Check.sentBy_eq (step : Check tc s start t s') :
    (sentBy t = [] ∧ s'.resends = s.resends) ∨
      (sentBy t = [tc] ∧ s'.resends = s.resends + 1 ∧ s.resends < Settings.maxResends ∧
        s.resend = true) := by
  cases step with
  | exhausted => exact .inl ⟨rfl, rfl⟩
  | givenUp => exact .inl ⟨rfl, rfl⟩
  | waiting => exact .inl ⟨rfl, rfl⟩
  | repeated reading restart entry printer printed failure sent few due again hp hf =>
    refine .inr ⟨?_, rfl, few, again⟩
    rw [sentBy_append, sentBy_append, sentBy_append, sentBy_append, hp.aside.sentBy_eq,
      hf.aside.sentBy_eq]
    rfl

theorem Check.alike (step : Check tc s start t s') : Alike s s' := by
  cases step with
  | exhausted => exact ⟨rfl, rfl, rfl⟩
  | givenUp => exact ⟨rfl, rfl, rfl⟩
  | waiting => exact ⟨rfl, rfl, rfl⟩
  | repeated => exact ⟨rfl, rfl, rfl⟩

/-- A telecommand waits, or is answered or given up. -/
theorem Check.flags (step : Check tc s start t s') (flags : s.isAnswered = !s.isPending) :
    s'.isAnswered = !s'.isPending := by
  cases step with
  | exhausted => rfl
  | givenUp => rfl
  | waiting => exact flags
  | repeated => exact flags

/-- The time for the reply keeps running, or starts anew. -/
theorem Check.ready (step : Check tc s start t s') (last : s.last = some tc)
    (started : s.started = some start) :
    s'.last = some tc ∧ ∃ restart, s'.started = some restart := by
  cases step with
  | exhausted => exact ⟨last, start, started⟩
  | givenUp => exact ⟨last, start, started⟩
  | waiting => exact ⟨last, start, started⟩
  | repeated _ restart => exact ⟨last, restart, rfl⟩

/-- A round in which no reply is found, with the step of waiting `t`. -/
def emptyRound (s : Sender) (t : Trace Sender) (s' : Sender) : Trace Sender :=
  ⟨s, .takeReply, false⟩ :: t ++ [⟨s', .sleep Settings.checkInterval, ()⟩]

theorem sentBy_emptyRound (s : Sender) (t : Trace Sender) (s' : Sender) :
    sentBy (emptyRound s t s') = sentBy t := by
  have hlook : sentBy (⟨s, .takeReply, false⟩ :: t) = sentBy t := rfl
  rw [emptyRound, sentBy_append, hlook]
  exact List.append_nil _

theorem secures_checkForFirstReply (last : s.last = some tc) (started : s.started = some start)
    {Q : Unit → Trace Sender → Sender → Prop} (looks : R p s)
    (found : Q () (p ++ [⟨s, .takeReply, true⟩]) s.settled)
    (checked : ∀ t s', Check tc s start t s' → Q () (p ++ emptyRound s t s') s') :
    Secures (Looks R) checkForFirstReply Q p s := by
  unfold checkForFirstReply
  rw [Secures.bind_iff]
  refine Secures.perform_iff.mpr ⟨fun _ => looks, fun replied => ?_⟩
  cases replied with
  | true =>
    rw [if_pos rfl]
    exact secures_settle found
  | false =>
    rw [if_neg Bool.false_ne_true]
    refine secures_checkForTimeout last started fun t s' step => ?_
    have h := checked t s' step
    simp only [emptyRound, List.append_assoc, List.cons_append, List.nil_append] at h ⊢
    exact h

/-! ### Rounds -/

/-- Rounds of waiting for a reply to `tc`, from the state `r` on. -/
inductive Rounds (tc : Telecommand.Packed) (r : Sender) : Trace Sender → Sender → Prop
  | start : Rounds tc r [] r
  | found {w : Trace Sender} {s : Sender} (before : Rounds tc r w s)
      (pending : s.isPending = true) : Rounds tc r (w ++ [⟨s, .takeReply, true⟩]) s.settled
  | checked {w t : Trace Sender} {s s' : Sender} {start : Span} (before : Rounds tc r w s)
      (pending : s.isPending = true) (started : s.started = some start)
      (step : Check tc s start t s') : Rounds tc r (w ++ emptyRound s t s') s'

/-- Between two rounds the telecommand is remembered, and the time for the reply is running. -/
theorem Rounds.ready (h : Rounds tc r w s) (last : r.last = some tc)
    (started : r.started = some start) :
    s.last = some tc ∧ ∃ restart, s.started = some restart := by
  induction h with
  | start => exact ⟨last, start, started⟩
  | found before pending ih => exact ih
  | checked before pending restarted step ih => exact step.ready ih.1 restarted

def awaitRound : Routine Sender (Unit ⊕ Unit) := do
  if !(← get).isPending then return .inr ()
  checkForFirstReply
  return .inl ()

theorem awaitReply_eq : awaitReply = Routine.iterate () fun _ => awaitRound := rfl

/-- One round more, if the telecommand still waits. -/
theorem Rounds.secures_awaitRound (h : Rounds tc r w s) (last : r.last = some tc)
    (started : r.started = some start) {Q : Unit ⊕ Unit → Trace Sender → Sender → Prop}
    (ended : s.isPending = false → Q (.inr ()) p s)
    (found : Rounds tc r (w ++ [⟨s, .takeReply, true⟩]) s.settled →
      Q (.inl ()) (p ++ [⟨s, .takeReply, true⟩]) s.settled)
    (checked : ∀ start t s', Check tc s start t s' → Rounds tc r (w ++ emptyRound s t s') s' →
      Q (.inl ()) (p ++ emptyRound s t s') s') :
    Secures (Looks fun _ _ => True) awaitRound Q p s := by
  unfold awaitRound
  rw [Secures.bind_iff, Secures.get_iff]
  cases pending : s.isPending with
  | false =>
    rw [Bool.not_false, if_pos rfl, Secures.pure_iff]
    exact ended pending
  | true =>
    rw [Bool.not_true, if_neg Bool.false_ne_true, Secures.bind_iff]
    obtain ⟨hlast, restart, hrestart⟩ := h.ready last started
    refine secures_checkForFirstReply hlast hrestart trivial ?_ fun t s' step => ?_
    · exact Secures.pure_iff.mpr (found (.found h pending))
    · exact Secures.pure_iff.mpr (checked restart t s' step (.checked h pending hrestart step))

/-- **The wait goes on in rounds** until the telecommand does not wait any more. -/
theorem secures_awaitReply_rounds (last : r.last = some tc) (started : r.started = some start)
    {Q : Unit → Trace Sender → Sender → Prop}
    (h : ∀ w s', Rounds tc r w s' → s'.isPending = false → Q () (p ++ w) s') :
    Secures (Looks fun _ _ => True) awaitReply Q p r := by
  rw [awaitReply_eq]
  refine Secures.iterate (fun _ q s => ∃ w, q = p ++ w ∧ Rounds tc r w s) ?_
    ⟨[], (List.append_nil p).symm, .start⟩
  rintro _ q s ⟨w, rfl, rounds⟩
  refine rounds.secures_awaitRound last started (h w s rounds) ?_ ?_
  · exact fun found => ⟨_, List.append_assoc p w _, found⟩
  · exact fun _ t s' _ checked => ⟨_, List.append_assoc p w _, checked⟩

/-- What was sent and counted in rounds of waiting that started in the state `r`. -/
structure Counted (tc : Telecommand.Packed) (r : Sender) (w : Trace Sender) (s : Sender) :
    Prop where
  alike : Alike r s
  sent : sentBy w = List.replicate s.resends tc
  few : s.resends ≤ Settings.maxResends
  once : r.resend = false → s.resends = 0
  flags : s.isAnswered = !s.isPending

/-- **Retransmissions are counted**, whether they succeed or fail. -/
theorem Rounds.counted (h : Rounds tc r w s) (fresh : r.resends = 0)
    (flags : r.isAnswered = !r.isPending) : Counted tc r w s := by
  induction h with
  | start =>
    exact
      { alike := ⟨rfl, rfl, rfl⟩
        sent := by rw [fresh]; rfl
        few := by rw [fresh]; exact Nat.zero_le _
        once := fun _ => fresh
        flags := flags }
  | @found w s before pending ih =>
    exact
      { alike := ih.alike
        sent := by
          rw [sentBy_append, ih.sent]
          exact List.append_nil _
        few := ih.few
        once := ih.once
        flags := rfl }
  | @checked w t s s' start before pending started step ih =>
    have hsent : sentBy (w ++ emptyRound s t s') =
        List.replicate s.resends tc ++ sentBy t := by
      rw [sentBy_append, ih.sent, sentBy_emptyRound]
    have hflags := step.flags ih.flags
    have halike := ih.alike.trans step.alike
    -- A check transmits nothing and counts nothing, or transmits once and counts one.
    rcases step.sentBy_eq with ⟨hnone, hsame⟩ | ⟨hone, hmore, few, again⟩
    · refine ⟨halike, ?_, hsame ▸ ih.few, fun off => hsame ▸ ih.once off, hflags⟩
      rw [hsent, hnone, hsame, List.append_nil]
    · refine ⟨halike, ?_, hmore ▸ few, fun off => ?_, hflags⟩
      · rw [hsent, hone, hmore, List.replicate_succ']
      · rw [← ih.alike.2.2, again] at off
        cases off

/-! ### The whole work -/

/-- What the sender does when its wait is over: the listener leaves its mode, and the telemetry is
printed. -/
def conclude (sent : Except Link.Error Unit) :
    Routine Sender (Except Error (List Packet.Batch)) := do
  match ← finish sent with
  | .error cause => return .error cause
  | .ok () =>
    let batches ← printTelemetry
    if (← get).isAnswered then
      Routine.note (Log.info "SingleCommandSenderReceiver: reply received")
    return .ok batches

def enteringSingle (s : Sender) : Trace Sender :=
  [⟨s, .clearReplies, ()⟩, ⟨s, .request (.changeMode .singleCommand), true⟩,
    ⟨s, .sleep Settings.modeChangeDelay, ()⟩]

/-- Telemetry is taken and lines are added to the log, and nothing else is done. -/
def Prints (t : Trace Sender) : Prop :=
  ∀ d ∈ t, d.effect = .takeTelemetry ∨ ∃ entries, d.effect = .log entries

theorem Prints.aside (h : Prints t) : Aside t := by
  intro d hd
  rcases h d hd with heffect | ⟨entries, heffect⟩
  · rw [heffect]
    trivial
  · rw [heffect]
    trivial

theorem Prints.append {u : Trace Sender} (ht : Prints t) (hu : Prints u) : Prints (t ++ u) := by
  intro d hd
  rcases List.mem_append.mp hd with hd | hd
  · exact ht d hd
  · exact hu d hd

theorem Logs.prints (h : Logs s t) : Prints t := fun d hd => .inr (h d hd).2

/-- The work of the sender for a single telecommand, from the state `s`, and how it ends. -/
inductive SendsSingle (tc : Telecommand.Packed) (s : Sender) :
    Except Error (List Packet.Batch) → Trace Sender → Sender → Prop
  /-- The listener is gone from the start. -/
  | refused :
      SendsSingle tc s (.error .listenerGone)
        [⟨s, .clearReplies, ()⟩, ⟨s, .request (.changeMode .singleCommand), false⟩] s
  /-- The first transmission fails. -/
  | stopped {start : Span} {cause : Link.Error} {u : Trace Sender} {r : Sender}
      (failed : Transmits tc s start (.error cause) u r) (told : Bool)
      {result : Except Error (List Packet.Batch)}
      (hresult : result = if told then .error (.link cause) else .error .listenerGone) :
      SendsSingle tc s result
        (enteringSingle s ++ u ++ [⟨r, .request .finishOperation, told⟩]) r
  /-- The listener is gone when the wait is over. -/
  | lost {start : Span} {u w : Trace Sender} {r s' : Sender}
      (sent : Transmits tc s start (.ok ()) u r) (rounds : Rounds tc r w s')
      (ended : s'.isPending = false) :
      SendsSingle tc s (.error .listenerGone)
        (enteringSingle s ++ u ++ w ++ [⟨s', .request .finishOperation, false⟩]) s'
  | waited {start : Span} {u w tail : Trace Sender} {r s' : Sender} (batches : List Packet.Batch)
      (printer : Printer) (sent : Transmits tc s start (.ok ()) u r) (rounds : Rounds tc r w s')
      (ended : s'.isPending = false) (prints : Prints tail) :
      SendsSingle tc s (.ok batches)
        (enteringSingle s ++ u ++ w ++ ⟨s', .request .finishOperation, true⟩ :: tail)
        { s' with printer }

theorem Transmits.ready {sent : Except Link.Error Unit} (h : Transmits tc s start sent u r) :
    r.last = some tc ∧ r.started = some start ∧ r.resends = 0 ∧ r.isAnswered = false ∧
      r.isPending = true ∧ Alike s r := by
  cases h
  exact ⟨rfl, rfl, rfl, rfl, rfl, rfl, rfl, rfl⟩

/-- The telecommand is sent by the last deed of its transmission, and by no other. -/
theorem Transmits.eq_append {sent : Except Link.Error Unit} (h : Transmits tc s start sent u r) :
    ∃ v, u = v ++ [⟨r, .send tc, sent⟩] ∧ sentBy v = [] := by
  cases h with
  | intro printer printed hprinted => exact ⟨_, rfl, hprinted.aside.sentBy_eq⟩

/-- **The four ends of a single telecommand**: the listener is gone from the start, the first
transmission fails, the listener is gone when the wait is over, or telemetry is taken and printed.
-/
theorem secures_sendSingle_ends
    {Q : Except Error (List Packet.Batch) → Trace Sender → Sender → Prop}
    (refused : Q (.error .listenerGone)
      [⟨s, .clearReplies, ()⟩, ⟨s, .request (.changeMode .singleCommand), false⟩] s)
    (stopped : ∀ start cause u r told, Transmits tc s start (.error cause) u r →
      Q (if told then .error (.link cause) else .error .listenerGone)
        (enteringSingle s ++ u ++ [⟨r, .request .finishOperation, told⟩]) r)
    (lost : ∀ start u r w s', Transmits tc s start (.ok ()) u r → Rounds tc r w s' →
      s'.isPending = false →
      Q (.error .listenerGone)
        (enteringSingle s ++ u ++ w ++ [⟨s', .request .finishOperation, false⟩]) s')
    (waited : ∀ start u r w s' batches printer printed, Transmits tc s start (.ok ()) u r →
      Rounds tc r w s' → s'.isPending = false → Logs { s' with printer } printed →
      Q (.ok batches)
        (enteringSingle s ++ u ++ w ++
          ⟨s', .request .finishOperation, true⟩ :: ⟨s', .takeTelemetry, batches⟩ :: printed)
        { s' with printer }) :
    Secures (Looks fun _ _ => True) (sendSingle tc) Q [] s := by
  simp only [sendSingle, Secures.bind_iff]
  refine secures_enterMode (Secures.pure_iff.mpr refused) ?_
  rw [Bool.not_true, if_neg Bool.false_ne_true, Secures.bind_iff, Secures.modify_iff,
    Secures.bind_iff]
  refine secures_sendLast fun start sent u r transmits => ?_
  rcases sent with cause | ⟨⟩
  · -- Nothing is waited for.
    simp only [Except.isOk, Except.toBool, Bool.false_eq_true, if_false, Secures.bind_iff]
    refine secures_finish fun told => ?_
    have hstopped := stopped start cause u r told transmits
    cases told with
    | true => exact Secures.pure_iff.mpr hstopped
    | false => exact Secures.pure_iff.mpr hstopped
  · obtain ⟨last, started, -, -, -, -⟩ := transmits.ready
    simp only [Except.isOk, Except.toBool, if_true, Secures.bind_iff]
    refine secures_awaitReply_rounds last started fun w s' rounds ended => ?_
    rw [Secures.bind_iff]
    refine secures_finish fun told => ?_
    cases told with
    | false => exact Secures.pure_iff.mpr (lost start u r w s' transmits rounds ended)
    | true =>
      have hwaited : (Except.ok () : Except Link.Error Unit).mapError Error.link = .ok () := rfl
      simp only [if_true, hwaited, Secures.bind_iff]
      refine secures_printTelemetry fun batches printer printed hprinted => ?_
      have hends : ∀ printed, Logs { s' with printer } printed → _ := fun printed =>
        waited start u r w s' batches printer printed transmits rounds ended
      simp only [enteringSingle, List.append_assoc, List.cons_append, List.nil_append] at hends ⊢
      rw [Secures.bind_iff, Secures.get_iff]
      split
      · rw [Secures.bind_iff]
        refine secures_note (Secures.pure_iff.mpr ?_)
        simpa using hends _ (hprinted.append (.single _ _))
      · exact Secures.pure_iff.mpr (hends printed hprinted)

/-- **What the sender of a single telecommand does**, from its start to its end. -/
theorem secures_sendSingle_whole :
    Secures (Looks fun _ _ => True) (sendSingle tc) (SendsSingle tc s) [] s := by
  refine secures_sendSingle_ends .refused ?_ ?_ ?_
  · exact fun start cause u r told failed => .stopped failed told rfl
  · exact fun start u r w s' sent rounds ended => .lost sent rounds ended
  · intro start u r w s' batches printer printed sent rounds ended hprinted
    refine .waited batches printer sent rounds ended fun d hd => ?_
    rcases List.mem_cons.mp hd with rfl | hd
    · exact .inl rfl
    · exact hprinted.prints d hd

end GroundLink.Sender
