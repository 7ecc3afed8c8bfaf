import GroundLink.Proofs.Sender.Plain
import GroundLink.Proofs.Sender.Timing

/-!
# Retries of a single telecommand

A telecommand that is sent on its own is sent again at most five times, and the caller only learns
of a failure of the first transmission.  If nobody replies and the clock is moved by nothing but the
sleep of the sender, the sender comes to an end, at a time that is known exactly
(`Sender.sendSingle_retries`).
-/

namespace GroundLink.Sender

open Activity (Follows)
open Routine
open Trace (slept slept_append slept_cons slept_sleep)

variable {tc : Telecommand.Packed} {r s s' : Sender} {origin base : Nat} {p t u w : Trace Sender}

/-! ### Worlds without replies -/

/-- A world in which the listener takes requests, the first transmission succeeds, nobody replies,
and the clock is moved by the sleep of the sender, as long as it can show the time. -/
structure Quiet (world : Trace Sender → (effect : Effect) → effect.Answer) (origin : Nat) :
    Prop where
  delivered : ∀ p r, world p (.request r) = true
  sent : ∀ p tc, sentBy p = [] → world p (.send tc) = .ok ()
  unanswered : ∀ p, world p .takeReply = false
  clock : ∀ p, origin + slept p ≤ Span.maxNanos → (world p .now).nanos = origin + slept p

variable {world : Trace Sender → (effect : Effect) → effect.Answer}

theorem Quiet.alone (quiet : Quiet world origin) (follows : Follows world [] t) :
    Alone origin t where
  unanswered p m replied q ht := by
    have hanswer : replied = world p .takeReply := follows.answer_eq ht
    rw [hanswer]
    exact quiet.unanswered p
  clock p m reading q ht fits := by
    have hanswer : reading = world p .now := follows.answer_eq ht
    rw [hanswer]
    exact quiet.clock p fits

/-! ### The end of the wait -/

/-- The wait is within the patience of the sender. -/
theorem InTime.slept_le (h : InTime tc r origin base p s) : slept p ≤ base + r.patience := by
  rcases h with ⟨k, j, comesUp, timed⟩ | expired
  · have := comesUp.le_patience
    rw [timed.slept_eq]
    omega
  · exact Nat.le_of_eq expired.slept_eq

/-- **The wait ends.**  Every round without a reply takes a pause, and the patience of the sender is
limited. -/
theorem halts_awaitReply {start : Span} (quiet : Quiet world origin) (last : r.last = some tc)
    (started : r.started = some start) (positive : 0 < r.tcTimeout.nanos)
    (fits : origin + base + r.patience ≤ Span.maxNanos) (first : Timed tc r origin base p r 0 0)
    (follows : Follows world [] p) : Halts world awaitReply p r := by
  rw [awaitReply_eq]
  refine Halts.iterate
    (fun _ q s => ∃ w, q = p ++ w ∧ Rounds tc r w s ∧ Follows world [] q)
    (fun _ q _ => base + r.patience - slept q) (fun _ => plain_awaitRound.loopFree) ?_
    ⟨[], (List.append_nil p).symm, .start, follows⟩
  rintro _ q s t _ s' ⟨w, rfl, rounds, followsBefore⟩ round followsRound
  have followsAll : Follows world [] (p ++ w ++ t) := followsBefore.append followsRound
  have alone : Alone origin (p ++ w ++ t) := quiet.alone followsAll
  -- The round found no reply, so it ended with a pause.
  have hround : Rounds tc r (w ++ t) s' ∧ slept t = Settings.checkInterval.nanos := by
    have hsecures : Secures (Looks fun _ _ => True) awaitRound
        (fun x q s' => x = .inl () → ∃ v, q = p ++ w ++ v ∧ Rounds tc r (w ++ v) s' ∧
          (v = [⟨s, .takeReply, true⟩] ∨ slept v = Settings.checkInterval.nanos)) (p ++ w) s := by
      refine rounds.secures_awaitRound last started (fun _ h => by cases h) ?_ ?_
      · exact fun found _ => ⟨_, rfl, found, .inl rfl⟩
      · exact fun _ _ s' step checked _ =>
          ⟨_, rfl, checked, .inr (slept_emptyRound step.still s s')⟩
    obtain ⟨v, hv, hrounds, hpause⟩ := hsecures.of_completes round rfl
    obtain rfl := List.append_cancel_left hv
    rcases hpause with rfl | hpause
    · have hnone := alone.unanswered (p ++ w) s true [] rfl
      cases hnone
    · exact ⟨hrounds, hpause⟩
  obtain ⟨hrounds, hpause⟩ := hround
  refine ⟨⟨w ++ t, List.append_assoc p w t, hrounds, followsAll⟩, ?_⟩
  rw [List.append_assoc] at alone ⊢
  have hle := (hrounds.inTime positive fits first alone).slept_le
  rw [← List.append_assoc, slept_append, hpause, checkInterval_nanos] at hle ⊢
  omega

/-! ### The end of the work -/

/-- Entering the mode of a single telecommand takes a moment, in which nothing is sent. -/
theorem slept_enteringSingle (s : Sender) :
    slept (enteringSingle s) = Settings.modeChangeDelay.nanos ∧
      ∀ time, sentAt time (enteringSingle s) = [] := by
  constructor
  · rw [enteringSingle, slept_cons, slept_cons, slept_sleep]
    exact (Nat.zero_add _).trans (Nat.zero_add _)
  · intro time
    rw [enteringSingle, sentAt, sentAt, sentAt, sentAt]
    rfl

/-- **The work ends** in a world without replies. -/
theorem halts_sendSingle (quiet : Quiet world origin) (positive : 0 < s.tcTimeout.nanos)
    (fits : origin + Settings.modeChangeDelay.nanos + s.patience ≤ Span.maxNanos) :
    Halts world (sendSingle tc) [] s := by
  unfold sendSingle
  refine Halts.bind ((plain_enterMode _ s).halts []) fun t entered s₁ run follows => ?_
  have hentered : Secures (Looks fun _ _ => True) (enterMode .singleCommand)
      (fun x q s₁ => x = true → q = enteringSingle s ∧ s₁ = s) [] s :=
    secures_enterMode (fun h => by cases h) fun _ => ⟨rfl, rfl⟩
  cases entered with
  | false => exact (loopFree_pure _ s₁).halts _
  | true =>
    obtain ⟨rfl, rfl⟩ : t = enteringSingle s ∧ s₁ = s := hentered.of_completes run rfl
    rw [Bool.not_true, if_neg Bool.false_ne_true]
    refine Halts.bind ((loopFree_modify _ s₁).halts _) fun t _ s₂ run follows' => ?_
    cases run
    refine Halts.bind ((plain_sendLast _).halts _) fun u sent r run followsSent => ?_
    simp only [List.nil_append, List.append_nil] at followsSent ⊢
    obtain ⟨start, transmits⟩ := exists_transmits_of_completes run
    rcases sent with cause | ⟨⟩
    · exact (plain_conclude (.error cause) r).halts _
    · obtain ⟨last, started, -, -, -, alike⟩ := transmits.ready
      have follows' : Follows world [] (enteringSingle s₁ ++ u) := follows.append followsSent
      have first := transmits.timed (slept_enteringSingle s₁).1
        ((slept_enteringSingle s₁).2 origin) (by omega) (quiet.alone follows')
      rw [← alike.patience_eq] at fits
      rw [← alike.tcTimeout_eq] at positive
      -- The wait is the only loop; before and after it, all routines are loop-free.
      refine Halts.bind (halts_awaitReply quiet last started positive fits first follows') ?_
      exact fun _ _ s' _ _ => (plain_conclude (.ok ()) s').halts _

/-! ### Whole runs -/

namespace SendsSingle

variable {cause : Link.Error} {batches : List Packet.Batch}

/-- If the work succeeds, every transmission but the first one is counted. -/
theorem counts (h : SendsSingle tc s (.ok batches) t s') :
    sentBy t = List.replicate (1 + s'.resends) tc ∧ s'.resends ≤ Settings.maxResends ∧
      (s.resend = false → s'.resends = 0) ∧ s'.isAnswered = true ∧ s'.isPending = false := by
  cases h with
  | stopped failed told hresult => cases told <;> cases hresult
  | @waited start u w tail r s' _ printer sent rounds ended prints =>
    obtain ⟨-, -, fresh, unanswered, pending, alike⟩ := sent.ready
    have counted := rounds.counted fresh (by rw [unanswered, pending]; rfl)
    have hentering : sentBy (enteringSingle s) = [] := rfl
    have htail : sentBy (⟨s', .request .finishOperation, true⟩ :: tail) = [] :=
      prints.aside.sentBy_eq
    refine ⟨?_, counted.few, fun off => counted.once (alike.2.2.trans off), ?_, ended⟩
    · rw [sentBy_append, sentBy_append, sentBy_append, hentering, sent.sentBy_eq, counted.sent,
        htail, Nat.add_comm, List.replicate_succ, List.append_nil]
      rfl
    · have hflags := counted.flags
      rw [ended] at hflags
      exact hflags

/-- A failure of the link is that of the first transmission, and nothing else was sent. -/
theorem failure (h : SendsSingle tc s (.error (.link cause)) t s') :
    ∃ p m q, t = p ++ ⟨m, .send tc, .error cause⟩ :: q ∧ sentBy p = [] ∧ sentBy q = [] := by
  cases h with
  | @stopped start cause' u r failed told _ hresult =>
    cases told with
    | false => cases hresult
    | true =>
      cases hresult
      obtain ⟨v, rfl, silent⟩ := failed.eq_append
      refine ⟨enteringSingle s ++ v, s', [⟨s', .request .finishOperation, true⟩], ?_, silent, rfl⟩
      simp only [List.append_assoc, List.cons_append, List.nil_append]

/-- If the listener is gone, it did not take a request. -/
theorem gone (h : SendsSingle tc s (.error .listenerGone) t s') :
    ∃ m request, ⟨m, .request request, false⟩ ∈ t := by
  cases h with
  | refused => exact ⟨s, _, List.mem_cons_of_mem _ List.mem_cons_self⟩
  | @stopped start cause u r failed told _ hresult =>
    cases told with
    | true => cases hresult
    | false => exact ⟨_, _, List.mem_append_right _ List.mem_cons_self⟩
  | lost => exact ⟨_, _, List.mem_append_right _ List.mem_cons_self⟩

/-- **The whole work in time**, as long as nothing disturbs the sender. -/
theorem inTime (h : SendsSingle tc s (.ok batches) t s') (positive : 0 < s.tcTimeout.nanos)
    (fits : origin + Settings.modeChangeDelay.nanos + s.patience ≤ Span.maxNanos)
    (alone : Alone origin t) :
    ∃ p m q, t = p ++ ⟨m, .request .finishOperation, true⟩ :: q ∧ Prints q ∧
      Expired tc s origin Settings.modeChangeDelay.nanos p m := by
  cases h with
  | stopped failed told hresult => cases told <;> cases hresult
  | @waited start u w tail r s' _ printer sent rounds ended prints =>
    obtain ⟨-, -, -, -, -, alike⟩ := sent.ready
    have first := sent.timed (slept_enteringSingle s).1 ((slept_enteringSingle s).2 origin)
      (by omega) alone.of_append.of_append
    rw [← alike.patience_eq] at fits
    rw [← alike.tcTimeout_eq] at positive
    refine ⟨_, s', tail, rfl, prints, ?_⟩
    rcases rounds.inTime positive fits first alone.of_append with ⟨k, j, -, timed⟩ | expired
    · have hpending := timed.pending
      rw [ended] at hpending
      cases hpending
    · have htimes := expired.sentAt_eq
      rw [alike.2.2, times, alike.window_eq] at htimes
      exact ⟨ended, alike.patience_eq ▸ expired.slept_eq, htimes⟩

/-- In a world without replies, the work succeeds. -/
theorem succeeds {result : Except Error (List Packet.Batch)} (h : SendsSingle tc s result t s')
    (quiet : Quiet world origin) (follows : Follows world [] t) :
    ∃ batches, result = .ok batches := by
  rcases result with (_ | cause) | batches
  · obtain ⟨m, request, hmem⟩ := h.gone
    obtain ⟨p, q, ht⟩ := List.append_of_mem hmem
    have hanswer : false = world p (.request request) := follows.answer_eq ht
    rw [quiet.delivered] at hanswer
    cases hanswer
  · obtain ⟨p, m, q, ht, silent, -⟩ := h.failure
    have hanswer : .error cause = world p (.send tc) := follows.answer_eq ht
    rw [quiet.sent p tc silent] at hanswer
    cases hanswer
  · exact ⟨batches, rfl⟩

end SendsSingle

/-- **Retries of a single telecommand.**  Whatever the clock, the link and the listener do:

* If the work succeeds, the telecommand was sent once and as often again as was counted, at most
  five times and never if the sender does not send again, and it counts as answered.
* The only failure of the link that is returned is one of the first transmission, after which
  nothing is sent; otherwise the listener did not take a request.

If nobody replies and the clock is moved by nothing but the sleep of the sender, let `w` be the time
for a reply, rounded up to whole pauses of 0.5 s.  Then the wait ends.  If the sender sends again,
it does so exactly five times, at multiples of `w` after the first transmission, and waits until
`5 * w` and 1 s after it; if not, it waits until `w` and 0.5 s after it. -/
theorem sendSingle_retries (tc : Telecommand.Packed) (s : Sender) :
    (∀ t result s', (sendSingle tc).Completes s t result s' →
      (∀ batches, result = .ok batches →
        sentBy t = List.replicate (1 + s'.resends) tc ∧ s'.resends ≤ 5 ∧
          (s.resend = false → s'.resends = 0) ∧ s'.isAnswered = true ∧ s'.isPending = false) ∧
      (∀ cause, result = .error (.link cause) →
        ∃ p m q, t = p ++ ⟨m, .send tc, .error cause⟩ :: q ∧ sentBy p = [] ∧ sentBy q = []) ∧
      (result = .error .listenerGone → ∃ m request, ⟨m, .request request, false⟩ ∈ t)) ∧
    (0 < s.tcTimeout.nanos → ∀ origin,
      let w := (s.tcTimeout.nanos + 499999999) / 500000000 * 500000000
      let first := origin + Settings.modeChangeDelay.nanos
      let ending := first + if s.resend then 5 * w + 1000000000 else w + 500000000
      ending ≤ Span.maxNanos →
      (∀ t batches s', (sendSingle tc).Completes s t (.ok batches) s' → Alone origin t →
        sentAt origin t =
            (List.range (1 + if s.resend then 5 else 0)).map (fun i => (first + i * w, tc)) ∧
          ∃ p m q, t = p ++ ⟨m, .request .finishOperation, true⟩ :: q ∧ m.isPending = false ∧
            origin + slept p = ending ∧ slept q = 0) ∧
      ∀ world, Quiet world origin → ∃ t batches s',
        (sendSingle tc).Completes s t (.ok batches) s' ∧ Follows world [] t ∧ Alone origin t) := by
  have whole : ∀ {t result s'}, (sendSingle tc).Completes s t result s' →
      SendsSingle tc s result t s' := fun run => secures_sendSingle_whole.of_completes run
  constructor
  case left =>
    refine fun t result s' run => ⟨?_, ?_, ?_⟩
    · rintro batches rfl
      exact (whole run).counts
    · rintro cause rfl
      exact (whole run).failure
    · rintro rfl
      exact (whole run).gone
  case right =>
    intro positive origin w first ending fits
    have hending : origin + Settings.modeChangeDelay.nanos + s.patience = ending := rfl
    rw [← hending] at fits
    constructor
    case left =>
      intro t batches s' run alone
      obtain ⟨p, m, q, rfl, prints, expired⟩ := (whole run).inTime positive fits alone
      refine ⟨?_, p, m, q, rfl, expired.ended, ?_, prints.still.slept_eq⟩
      · -- What follows the end of the wait transmits nothing.
        have htail :
            sentAt (origin + slept p) (⟨m, .request .finishOperation, true⟩ :: q) = [] := by
          show sentAt (origin + slept p) q = []
          rw [prints.still.sentAt_eq, prints.aside.sentBy_eq, List.map_nil]
        rw [sentAt_append, htail, List.append_nil, expired.sentAt_eq, Nat.add_comm 1]
        rfl
      · rw [expired.slept_eq, ← Nat.add_assoc, hending]
    case right =>
      intro world quiet
      obtain ⟨t, ⟨result, s'⟩, run, follows⟩ := halts_sendSingle quiet positive fits
      obtain ⟨batches, rfl⟩ := (whole run).succeeds quiet follows
      exact ⟨t, batches, s', run, follows, quiet.alone follows⟩

/-- Answers by which nothing happens, and time passes by sleep. -/
def nobodyReplies (p : Trace Sender) : (effect : Effect) → effect.Answer
  | .now => Span.ofNanos (slept p)
  | effect => effect.calm

theorem quiet_nobodyReplies : Quiet nobodyReplies 0 where
  delivered _ _ := rfl
  sent _ _ _ := rfl
  unanswered _ := rfl
  clock p fits := by
    rw [Nat.zero_add] at fits ⊢
    exact Nat.min_eq_left fits

/-- The time for a reply is 1.7 s, so the telecommand is sent again every 2 s. -/
theorem sendSingle_retries_unaligned :
    ∃ s t batches s', s.tcTimeout.nanos = 1700000000 ∧ s.resend = true ∧
      (sendSingle default).Completes s t (.ok batches) s' ∧ Follows nobodyReplies [] t ∧
      sentBy t = List.replicate (1 + s'.resends) default ∧
      sentAt 0 t = [(100000000, default), (2100000000, default), (4100000000, default),
        (6100000000, default), (8100000000, default), (10100000000, default)] ∧
      ∃ p m q, t = p ++ ⟨m, .request .finishOperation, true⟩ :: q ∧ slept p = 11100000000 := by
  obtain ⟨s, htimeout, again⟩ : ∃ s : Sender, s.tcTimeout.nanos = 1700000000 ∧ s.resend = true :=
    ⟨make { tmTimeout := Span.ofMillis 1700, tcTimeoutFactor := 1.0, resend := true }
      (Printer.make .short false false), by decide +kernel, rfl⟩
  have hdelay : Settings.modeChangeDelay.nanos = 100000000 := rfl
  have hretries := sendSingle_retries default s
  simp only [htimeout, again, hdelay, if_true, Nat.reduceAdd, Nat.reduceDiv, Nat.reduceMul]
    at hretries
  obtain ⟨hwhole, htimes⟩ := hretries
  obtain ⟨hall, hends⟩ := htimes (by decide) 0 (by decide)
  obtain ⟨t, batches, s', run, follows, alone⟩ := hends nobodyReplies quiet_nobodyReplies
  obtain ⟨hsent, p, m, q, ht, -, hslept, -⟩ := hall t batches s' run alone
  obtain ⟨hcount, -⟩ := (hwhole t _ s' run).1 batches rfl
  have hrange : List.range 6 = [0, 1, 2, 3, 4, 5] := rfl
  rw [hrange] at hsent
  rw [Nat.zero_add] at hslept
  exact ⟨s, t, batches, s', htimeout, again, run, follows, hcount, hsent, p, m, q, ht, hslept⟩

end GroundLink.Sender
