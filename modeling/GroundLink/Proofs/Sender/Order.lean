import GroundLink.Proofs.Sender.Waiting
import GroundLink.Sender.Sequential

/-!
# The order of the queue

The sequential sender processes the entries of a queue in order and each of them once, whatever the
clock, the link and the listener do (`Sender.sendSequentially_serves`).  Between two entries it only
repeats the last telecommand, and it goes on when a reply was found or the telecommand was given up.

The loop of the sender consists of rounds (`Sender.othersRound`), each of which waits or moves on to
the next telecommand.  `Sender.Serves` describes the deeds that process a queue, entry by entry, and
`Sender.Works` adds the two ways in which the work may end.
-/

namespace GroundLink.Sender

open Routine (Secures)

/-! ### The work on a queue -/

/-- From the state `s`, the entries of a queue are processed in order by some deeds: a directive is
carried out, a telecommand is sent successfully and then waits for its reply. -/
inductive Serves (s : Sender) : Queue → Trace Sender → Sender → Prop
  | nil : Serves s [] [] s
  | directive {queue : Queue} {e : Queue.Entry} {t u : Trace Sender} {s₁ s₂ : Sender}
      (before : Serves s queue t s₁) (isDirective : e.isTelecommand = false)
      (done : (carryOut e).Completes s₁ u false s₂) (silent : sentBy u = []) :
      Serves s (queue ++ [e]) (t ++ u) s₂
  | telecommand {queue : Queue} {tc : Telecommand.Packed} {start : Span} {t u w : Trace Sender}
      {s₁ s₂ s₃ : Sender} (before : Serves s queue t s₁)
      (sent : Transmits tc s₁ start (.ok ()) u s₂) (flag : s₂.resend = s.resend)
      (waits : Waits tc s₂ start w) (alike : Alike s₂ s₃) :
      Serves s (queue ++ [.telecommand tc]) (t ++ u ++ w) s₃

/-- The work on a queue from the state `s`, and how it ends: all entries are processed, or a
telecommand cannot be sent and the entries behind it are left. -/
inductive Works (s : Sender) (queue : Queue) :
    Except Link.Error Unit → Queue → Trace Sender → Sender → Prop
  | all {t : Trace Sender} {s₁ : Sender} (entry : Log.Entry) (served : Serves s queue t s₁) :
      Works s queue (.ok ()) [] (t ++ [⟨s₁, .log [entry], ()⟩]) s₁
  | stopped {before rest : Queue} {tc : Telecommand.Packed} {start : Span} {cause : Link.Error}
      {t u : Trace Sender} {s₁ s₂ : Sender} (split : queue = before ++ .telecommand tc :: rest)
      (served : Serves s before t s₁) (failed : Transmits tc s₁ start (.error cause) u s₂) :
      Works s queue (.error cause) rest (t ++ u) s₂

variable {R : Trace Sender → Sender → Prop} {p : Trace Sender} {s : Sender}

/-- Neither a directive nor a telecommand changes whether telecommands are sent again. -/
theorem Serves.resend_eq {queue : Queue} {t : Trace Sender} {s' : Sender}
    (h : Serves s queue t s') : s'.resend = s.resend := by
  induction h with
  | nil => rfl
  | @directive queue e t u s₁ s₂ before _ done _ ih =>
    have keeps : Secures (Looks fun _ _ => True) (carryOut e) (fun _ _ s' => s'.resend = s₁.resend)
        [] s₁ :=
      secures_carryOut fun _ _ _ hs' _ => hs'
    rw [keeps.of_completes done, ih]
  | telecommand _ _ flag _ alike _ => rw [alike.2.2, flag]

/-- **Up to the next telecommand** all directives of a queue are carried out. -/
theorem secures_sendNext (queue : Queue) {r : Sender} {before : Queue} {t : Trace Sender}
    (served : Serves r before t s)
    {Q : Except Link.Error Bool × Queue → Trace Sender → Sender → Prop}
    (all : ∀ t s', Serves r (before ++ queue) t s' → Q (.ok false, []) (p ++ t) s')
    (next : ∀ directives tc rest t s₁ start sent u s₂,
      queue = directives ++ .telecommand tc :: rest → Serves r (before ++ directives) t s₁ →
      Transmits tc s₁ start sent u s₂ → Q (sent.map fun _ => true, rest) (p ++ t ++ u) s₂) :
    Secures (Looks R) (sendNext queue) Q (p ++ t) s := by
  -- The induction is on the queue; every directive goes over to the entries that are done.
  induction queue generalizing before t s with
  | nil =>
    simpa [sendNext] using all t s (by simpa using served)
  | cons e rest ih =>
    simp only [sendNext, Secures.bind_iff]
    refine Secures.mono_completes
      (P := fun x u s' => x = e.isTelecommand ∧ Aside u ∧
        ∀ tc, e = .telecommand tc → u = [] ∧ s' = { s with last := some tc })
      (secures_carryOut fun u s' hu _ htc => ⟨u, rfl, rfl, hu, htc⟩) ?_
    rintro x u s' run ⟨rfl, hu, htc⟩
    cases he : e.isTelecommand with
    | false =>
      simp only [Bool.false_eq_true, if_false]
      rw [List.append_assoc]
      rw [he] at run
      refine ih (served.directive he run hu.sentBy_eq) ?_ ?_
      · intro t' s'' hserved
        exact all t' s'' (by simpa using hserved)
      · intro directives tc rest' t' s₁ start sent v s₂ hrest hserved htransmits
        exact next (e :: directives) tc rest' t' s₁ start sent v s₂ (by simp [hrest])
          (by simpa using hserved) htransmits
    | true =>
      simp only [if_true, Secures.bind_iff]
      obtain ⟨tc, rfl⟩ := Queue.Entry.exists_of_isTelecommand he
      obtain ⟨rfl, rfl⟩ := htc tc rfl
      refine secures_sendLast fun start sent v s₂ htransmits => ?_
      rw [Secures.pure_iff, List.append_nil]
      exact next [] tc rest t s start sent v s₂ rfl (by simpa using served) htransmits

/-- The deeds end with the transmission of a new telecommand and the wait for a reply to it. -/
def Expects (p : Trace Sender) : Prop :=
  ∃ before tc s start u r w, p = before ++ u ++ w ∧ Transmits tc s start (.ok ()) u r ∧
    ∀ d ∈ w, IsPatient tc d

/-- In the middle of the work on a queue: the entries before `rest` are processed, but for the wait
for a reply to the last of them. -/
inductive Midway (r : Sender) (queue rest : Queue) : Trace Sender → Sender → Prop
  | intro {before : Queue} {tc : Telecommand.Packed} {start : Span} {t u w : Trace Sender}
      {s₁ s₂ s₃ : Sender} (split : queue = before ++ .telecommand tc :: rest)
      (served : Serves r before t s₁) (sent : Transmits tc s₁ start (.ok ()) u s₂)
      (waiting : Waiting tc s₂ start w s₃) : Midway r queue rest (t ++ u ++ w) s₃

/-- What the sequential sender does when a wait is over: it prints the telemetry and sends the next
telecommand. -/
def moveOn (queue : Queue) : Routine Sender (Queue ⊕ Except Link.Error Unit × Queue) := do
  let _ ← printTelemetry
  match ← sendNext queue with
  | (.ok true, rest) => return .inl rest
  | (.ok false, rest) =>
    Routine.note (Log.info "SequentialSenderReceiver: all replies received")
    return .inr (.ok (), rest)
  | (.error cause, rest) => return .inr (.error cause, rest)

/-- One round of `sendOthers`. -/
def othersRound (queue : Queue) : Routine Sender (Queue ⊕ Except Link.Error Unit × Queue) := do
  if ← Routine.takeReply then modify fun s => { s with isAnswered := true }
  if !(← get).isAnswered then
    checkForTimeout
    return .inl queue
  moveOn queue

theorem sendOthers_eq (queue : Queue) : sendOthers queue = Routine.iterate queue othersRound := rfl

/-- Once a wait has ended, the telemetry is printed and the next telecommand is sent. -/
theorem secures_moveOn {queue before rest : Queue} {tc : Telecommand.Packed} {start : Span}
    {r s₁ s₂ s' : Sender} {t u w : Trace Sender} {replied : Bool}
    (split : queue = before ++ .telecommand tc :: rest) (served : Serves r before t s₁)
    (sent : Transmits tc s₁ start (.ok ()) u s₂) (waiting : Waiting tc s₂ start w s)
    (ended : replied = true ∨ s.isAnswered = true) (alike : Alike s s')
    {Q : Except Link.Error Unit × Queue → Trace Sender → Sender → Prop}
    (h : ∀ sent rest t s', Works r queue sent rest t s' → Q (sent, rest) (p ++ t) s') :
    Secures (Looks fun p _ => Expects p) (moveOn rest)
      (Sum.elim (fun rest q s => ∃ t, q = p ++ t ∧ Midway r queue rest t s) Q)
      (p ++ (t ++ u ++ w) ++ [⟨s, .takeReply, replied⟩]) s' := by
  rw [moveOn, Secures.bind_iff]
  refine secures_printTelemetry fun batches printer printed hprinted => ?_
  rw [Secures.bind_iff]
  have done : Serves r (before ++ [.telecommand tc])
      (t ++ u ++ (w ++ [⟨s, .takeReply, replied⟩] ++ ⟨s', .takeTelemetry, batches⟩ :: printed))
      { s' with printer } :=
    served.telecommand sent (sent.resend_eq.trans served.resend_eq)
      (waiting.waits ended hprinted) (waiting.alike.trans alike)
  -- The last look and the printing are part of the wait.
  rw [show p ++ (t ++ u ++ w) ++ [⟨s, .takeReply, replied⟩] ++
      ⟨s', .takeTelemetry, batches⟩ :: printed = p ++ (t ++ u ++
        (w ++ [⟨s, .takeReply, replied⟩] ++ ⟨s', .takeTelemetry, batches⟩ :: printed)) by simp]
  refine secures_sendNext rest done ?_ ?_
  · intro t' s'' hserved
    simp only [Secures.bind_iff]
    refine secures_note (Secures.pure_iff.mpr ?_)
    rw [List.append_assoc]
    refine h _ _ _ _ (.all _ ?_)
    simpa [split] using hserved
  · intro directives tc' rest' t' s₁' start' sent' u' s₂' hrest hserved htransmits
    have hsplit : queue =
        (before ++ .telecommand tc :: directives) ++ .telecommand tc' :: rest' := by
      simp [split, hrest]
    have hserved : Serves r (before ++ .telecommand tc :: directives) t' s₁' := by
      simpa using hserved
    rcases sent' with cause | ⟨⟩
    · refine Secures.pure_iff.mpr ?_
      rw [List.append_assoc]
      exact h _ _ _ _ (.stopped hsplit hserved htransmits)
    · refine Secures.pure_iff.mpr ⟨t' ++ u', by rw [List.append_assoc], ?_⟩
      simpa using Midway.intro hsplit hserved htransmits htransmits.waiting

/-- **The loop of the sequential sender** does the rest of the work on a queue. -/
theorem secures_sendOthers {queue rest : Queue} {r : Sender} {t : Trace Sender}
    (midway : Midway r queue rest t s)
    {Q : Except Link.Error Unit × Queue → Trace Sender → Sender → Prop}
    (h : ∀ sent rest t s', Works r queue sent rest t s' → Q (sent, rest) (p ++ t) s') :
    Secures (Looks fun p _ => Expects p) (sendOthers rest) Q (p ++ t) s := by
  rw [sendOthers_eq]
  refine Secures.iterate (fun rest q s => ∃ t, q = p ++ t ∧ Midway r queue rest t s) ?_
    ⟨t, rfl, midway⟩
  rintro rest _ s ⟨_, rfl, @⟨before, tc, start, t, u, w, s₁, s₂, _, split, served, sent, waiting⟩⟩
  simp only [othersRound, Secures.bind_iff, Routine.takeReply, Secures.perform_iff]
  refine ⟨fun _ => ⟨p ++ t, tc, s₁, start, u, s₂, w, by simp, sent, waiting.patient⟩,
    fun replied => ?_⟩
  -- The wait ends with a reply, or because the telecommand was given up before this look.
  cases replied with
  | true =>
    rw [if_pos rfl, Secures.bind_iff, Secures.modify_iff, Secures.bind_iff, Secures.get_iff]
    simp only [Bool.not_true, Bool.false_eq_true, if_false]
    refine secures_moveOn split served sent waiting (.inl rfl) ?_ h
    exact ⟨rfl, rfl, rfl⟩
  | false =>
    rw [if_neg Bool.false_ne_true, Secures.bind_iff, Secures.get_iff]
    cases answered : s.isAnswered with
    | true =>
      rw [Bool.not_true, if_neg Bool.false_ne_true]
      exact secures_moveOn split served sent waiting (.inr answered) ⟨rfl, rfl, rfl⟩ h
    | false =>
      rw [Bool.not_false, if_pos rfl, Secures.bind_iff]
      obtain ⟨restart, started, -⟩ := waiting.started
      refine secures_checkForTimeout waiting.last started fun v s' step => Secures.pure_iff.mpr ?_
      refine ⟨t ++ u ++ (w ++ [⟨s, .takeReply, false⟩] ++ v ++
        [⟨s', .sleep Settings.checkInterval, ()⟩]), by simp, .intro split served sent ?_⟩
      exact waiting.look.check answered started step

/-- **The work on a queue** of the sequential sender. -/
theorem secures_sendQueue {queue : Queue}
    {Q : Except Link.Error Unit × Queue → Trace Sender → Sender → Prop}
    (h : ∀ sent rest t s', Works s queue sent rest t s' → Q (sent, rest) (p ++ t) s') :
    Secures (Looks fun p _ => Expects p) (sendQueue queue) Q p s := by
  rw [sendQueue, Secures.bind_iff]
  rw [show p = p ++ [] by simp]
  refine secures_sendNext queue .nil ?_ ?_
  · intro t s' served
    rw [Secures.bind_iff]
    refine secures_note (Secures.pure_iff.mpr ?_)
    rw [List.append_assoc]
    exact h _ _ _ _ (.all _ served)
  · intro directives tc rest t s₁ start sent u s₂ split served transmits
    rcases sent with cause | ⟨⟩
    · refine Secures.pure_iff.mpr ?_
      rw [List.append_assoc]
      exact h _ _ _ _ (.stopped split served transmits)
    · rw [List.append_assoc]
      refine secures_sendOthers ?_ h
      simpa using Midway.intro split served transmits transmits.waiting

/-! ### Whole runs -/

/-- A run of the sequential sender: unless the listener is gone, it is asked for a mode, the queue
is worked on, and the listener is told that the operation is finished. -/
inductive SendsSequentially (mode : Listener.Mode) (queue : Queue) (s : Sender) :
    Except Error Unit → Queue → Trace Sender → Sender → Prop
  | refused : SendsSequentially mode queue s (.error .listenerGone) queue
      [⟨s, .clearReplies, ()⟩, ⟨s, .request (.changeMode mode), false⟩] s
  | worked {sent : Except Link.Error Unit} {rest : Queue} {t : Trace Sender} {s' : Sender}
      (told : Bool) (works : Works s queue sent rest t s') :
      SendsSequentially mode queue s
        (if told then sent.mapError .link else .error .listenerGone) rest
        ([⟨s, .clearReplies, ()⟩, ⟨s, .request (.changeMode mode), true⟩,
            ⟨s, .sleep Settings.modeChangeDelay, ()⟩] ++ t ++
          [⟨s', .request .finishOperation, told⟩]) s'

theorem secures_sendSequentially {mode : Listener.Mode} {queue : Queue} :
    Secures (Looks fun p _ => Expects p) (sendSequentially mode queue)
      (fun r t s' => SendsSequentially mode queue s r.1 r.2 t s') [] s := by
  simp only [sendSequentially, Secures.bind_iff]
  refine secures_enterMode (Secures.pure_iff.mpr .refused) ?_
  rw [Bool.not_true, if_neg Bool.false_ne_true, Secures.bind_iff]
  refine secures_sendQueue fun sent rest t s' works => ?_
  rw [Secures.bind_iff]
  refine secures_finish fun told => Secures.pure_iff.mpr ?_
  exact .worked told works

theorem Transmits.sentBy_eq {tc : Telecommand.Packed} {start : Span} {sent : Except Link.Error Unit}
    {t : Trace Sender} {s' : Sender} (h : Transmits tc s start sent t s') : sentBy t = [tc] := by
  cases h with
  | intro printer printed hprinted =>
    rw [sentBy_append, sentBy_send, ← List.singleton_append, sentBy_append,
      hprinted.aside.sentBy_eq]
    rfl

/-- **What is sent** while a queue is processed: every telecommand in turn, each followed by its
retransmissions. -/
theorem Serves.sentBy_eq {queue : Queue} {t : Trace Sender} {s' : Sender}
    (h : Serves s queue t s') :
    ∃ repeats : List Nat, repeats.length = queue.telecommands.length ∧
      (∀ n ∈ repeats, n ≤ Settings.maxResends ∧ (s.resend = false → n = 0)) ∧
      sentBy t = (List.zipWith (fun n tc => List.replicate (n + 1) tc) repeats
        queue.telecommands).flatten := by
  induction h with
  | nil => exact ⟨[], rfl, by simp, rfl⟩
  | @directive queue e t u s₁ s₂ before isDirective done silent ih =>
    obtain ⟨repeats, hlength, hbound, hsent⟩ := ih
    have hsame : Queue.telecommands (queue ++ [e]) = queue.telecommands := by
      have : e.telecommand? = none := by simpa [Queue.Entry.isTelecommand] using isDirective
      simp [Queue.telecommands, this]
    refine ⟨repeats, by rw [hsame, hlength], hbound, ?_⟩
    rw [sentBy_append, silent, List.append_nil, hsent, hsame]
  | @telecommand queue tc start t u w s₁ s₂ s₃ before sent flag waits alike ih =>
    obtain ⟨repeats, hlength, hbound, hsent⟩ := ih
    have hmore : Queue.telecommands (queue ++ [.telecommand tc]) = queue.telecommands ++ [tc] := by
      simp [Queue.telecommands, Queue.Entry.telecommand?]
    -- What is sent during the wait is `tc` again.
    have hrepeats : sentBy w = List.replicate (sentBy w).length tc :=
      List.eq_replicate_iff.mpr ⟨rfl, waits.repeats⟩
    refine ⟨repeats ++ [(sentBy w).length], ?_, ?_, ?_⟩
    · rw [hmore, List.length_append, List.length_append, hlength]
      rfl
    · intro n hn
      rcases List.mem_append.mp hn with hn | hn
      · exact hbound n hn
      · obtain rfl := List.mem_singleton.mp hn
        refine ⟨waits.few, fun off => ?_⟩
        rw [waits.once (flag.trans off), List.length_nil]
    · rw [hmore, List.zipWith_append hlength, List.flatten_append, sentBy_append, sentBy_append,
        hsent, sent.sentBy_eq, hrepeats]
      simp [List.replicate_succ]

/-- **The sequential sender processes a queue in order and every entry once.**  If the listener is
gone, nothing is sent and the whole queue is returned.  Otherwise, between the request for the mode
and the request that finishes it, either all entries are processed, or a telecommand cannot be sent
the first time; then the entries before it are processed and those behind it are returned. -/
theorem sendSequentially_serves {mode : Listener.Mode} {queue rest : Queue} {s s' : Sender}
    {t : Trace Sender} {result : Except Error Unit}
    (run : (sendSequentially mode queue).Completes s t (result, rest) s') :
    (t = [⟨s, .clearReplies, ()⟩, ⟨s, .request (.changeMode mode), false⟩] ∧
        result = .error .listenerGone ∧ rest = queue) ∨
      ∃ work told,
        t = [⟨s, .clearReplies, ()⟩, ⟨s, .request (.changeMode mode), true⟩,
            ⟨s, .sleep Settings.modeChangeDelay, ()⟩] ++ work ++
          [⟨s', .request .finishOperation, told⟩] ∧
        ((∃ served entry, work = served ++ [⟨s', .log [entry], ()⟩] ∧ Serves s queue served s' ∧
            rest = [] ∧ result = if told then .ok () else .error .listenerGone) ∨
          ∃ before tc start cause served failed s₁, work = served ++ failed ∧
            queue = before ++ .telecommand tc :: rest ∧ Serves s before served s₁ ∧
            Transmits tc s₁ start (.error cause) failed s' ∧
            result = if told then .error (.link cause) else .error .listenerGone) := by
  have h : SendsSequentially mode queue s result rest t s' :=
    secures_sendSequentially.of_completes run
  cases h with
  | refused => exact .inl ⟨rfl, rfl, rfl⟩
  | @worked sent _ work _ told works =>
    refine .inr ⟨work, told, rfl, ?_⟩
    cases works with
    | @all served _ entry hserved => exact .inl ⟨served, entry, rfl, hserved, rfl, rfl⟩
    | @stopped before _ tc start cause served failed s₁ _ split hserved hfailed =>
      exact .inr ⟨before, tc, start, cause, served, failed, s₁, rfl, split, hserved, hfailed, rfl⟩

/-- Answers by which no reply is found before the second transmission.  Every deed takes a second. -/
def repliesLate (p : Trace Sender) : (effect : Effect) → effect.Answer
  | .takeReply => 2 ≤ (sentBy p).length
  | .now => Span.ofSecs p.length
  | effect => effect.calm

/-- Two telecommands with a pause between them.  The first one is sent again before its reply is
found, and the second one is answered at once. -/
theorem sendSequentially_serves_two :
    ∃ tc tc' s t s', tc ≠ tc' ∧ s.resend = true ∧
      (sendSequentially .serviceTest
        [.telecommand tc, .wait (Span.ofSecs 1), .telecommand tc']).Completes s t (.ok (), []) s' ∧
      sentBy t = [tc, tc, tc'] ∧ ∃ served, served <:+: t ∧
        Serves s [.telecommand tc, .wait (Span.ofSecs 1), .telecommand tc'] served s' := by
  obtain ⟨tc, tc', s, t, s', hdifferent, again, run, hsent⟩ : ∃ tc tc' s t s', tc ≠ tc' ∧
      s.resend = true ∧ (sendSequentially .serviceTest
        [.telecommand tc, .wait (Span.ofSecs 1), .telecommand tc']).Completes s t (.ok (), []) s' ∧
      sentBy t = [tc, tc, tc'] := by
    let tc : Telecommand.Packed := default
    let tc' : Telecommand.Packed := { raw := [0], info := default }
    let s := make { resend := true } (Printer.make .short false false)
    let played := Activity.play repliesLate 80 [] (sendSequentially .serviceTest
      [.telecommand tc, .wait (Span.ofSecs 1), .telecommand tc'] s)
    -- Evaluation gives the result and what was sent, and the theorem gives the rest.
    have hplayed : played.2.result?.any (fun r => r.1.1.isOk && r.1.2.isEmpty) = true ∧
        sentBy played.1 = [tc, tc, tc'] := by decide +kernel
    obtain ⟨hdone, hsent⟩ := hplayed
    obtain ⟨⟨⟨result, rest⟩, s'⟩, hresult, hgood⟩ := (Option.any_eq_true _ _).mp hdone
    rw [Bool.and_eq_true, List.isEmpty_iff] at hgood
    obtain ⟨hok, rfl⟩ := hgood
    cases result with
    | error => cases hok
    | ok =>
      exact ⟨tc, tc', s, played.1, s', by decide, rfl, Activity.reaches_play_result hresult, hsent⟩
  refine ⟨tc, tc', s, t, s', hdifferent, again, run, hsent, ?_⟩
  rcases sendSequentially_serves run with ⟨-, hgone, -⟩ | ⟨work, told, ht, h⟩
  · cases hgone
  · rcases h with ⟨served, entry, rfl, hserved, -, -⟩ | ⟨_, _, _, cause, _, _, _, _, _, _, _, hok⟩
    · refine ⟨served, ?_, hserved⟩
      rw [ht, List.append_assoc, List.append_assoc]
      exact ⟨_, _, List.append_assoc _ _ _⟩
    · cases told <;> cases hok

/-- Answers by which the listener is gone. -/
def listenerGone (_ : Trace Sender) : (effect : Effect) → effect.Answer
  | .request _ => false
  | effect => effect.calm

/-- If the listener is gone, a run ends without any transmission and leaves a telecommand unsent. -/
theorem sendSequentially_leaves_one :
    ∃ t s', (sendSequentially .serviceTest [.telecommand default]).Completes
        (make {} (Printer.make .short false false)) t
        (.error .listenerGone, [.telecommand default]) s' ∧
      sentBy t = [] ∧ ∀ served r r', served <:+: t →
        ¬ Serves r [.telecommand default] served r' := by
  have run : ∃ t s', (sendSequentially .serviceTest [.telecommand default]).Completes
      (make {} (Printer.make .short false false)) t
      (.error .listenerGone, [.telecommand default]) s' ∧ sentBy t = [] :=
    ⟨_, _, Activity.reaches_play listenerGone 20 []
      (sendSequentially .serviceTest [.telecommand default]
        (make {} (Printer.make .short false false))), rfl⟩
  obtain ⟨t, s', run, hsilent⟩ := run
  refine ⟨t, s', run, hsilent, fun served r r' hinfix hserves => ?_⟩
  obtain ⟨repeats, hlength, -, hsent⟩ := hserves.sentBy_eq
  -- To serve the telecommand takes at least one transmission of it.
  have hnone : sentBy served = [] := by
    obtain ⟨before, after, rfl⟩ := hinfix
    rw [sentBy_append, sentBy_append] at hsilent
    exact (List.append_eq_nil_iff.mp (List.append_eq_nil_iff.mp hsilent).1).2
  rw [hnone] at hsent
  obtain ⟨n, rfl⟩ := List.length_eq_one_iff.mp (hlength.trans rfl)
  simp [Queue.telecommands, Queue.Entry.telecommand?, List.replicate_succ] at hsent

end GroundLink.Sender
