import GroundLink.Proofs.Activity.Clock
import GroundLink.Proofs.Sender.Order
import GroundLink.Proofs.Sender.Rounds

/-!
# The times of retransmissions

A sender whose telecommand is not answered, and whose clock is moved by nothing but its own sleep,
sends at times that are known exactly.  A pause is 0.5 s, so the time for a reply is rounded up to
whole pauses (`Sender.window`).  Retransmissions follow each other at that distance, and the wait
ends two pauses after the last of them, or one pause after the first window if nothing is sent again
(`Sender.Rounds.timed`).

Times are whole numbers of nanoseconds.
-/

namespace GroundLink

namespace Sender

open Trace (slept slept_append slept_cons slept_sleep)

variable {tc : Telecommand.Packed} {r s s' : Sender} {origin base k j : Nat}
  {p t u w : Trace Sender}

/-! ### Time -/

/-- The telecommands that are sent, each with the time when it is, if it was `time` at the start and
passes only by sleep. -/
def sentAt (time : Nat) : Trace Sender → List (Nat × Telecommand.Packed)
  | [] => []
  | d :: t => (d.sent?.map fun tc => (time, tc)).toList ++ sentAt (time + d.slept) t

theorem sentAt_append (time : Nat) (t u : Trace Sender) :
    sentAt time (t ++ u) = sentAt time t ++ sentAt (time + slept t) u := by
  induction t generalizing time with
  | nil => rfl
  | cons d t ih =>
    rw [List.cons_append, sentAt, sentAt, slept_cons, ih, List.append_assoc, Nat.add_assoc]

def Still (t : Trace Sender) : Prop := ∀ d ∈ t, d.slept = 0

theorem Still.slept_eq (h : Still t) : slept t = 0 := by
  induction t with
  | nil => rfl
  | cons d t ih =>
    obtain ⟨hd, hrest⟩ := List.forall_mem_cons.mp h
    rw [slept_cons, hd, ih hrest]

/-- What is sent without a pause is sent at the same time. -/
theorem Still.sentAt_eq (h : Still t) (time : Nat) :
    sentAt time t = (sentBy t).map fun x => (time, x) := by
  induction t with
  | nil => rfl
  | cons d t ih =>
    obtain ⟨hd, hrest⟩ := List.forall_mem_cons.mp h
    have hcons : sentBy (d :: t) = d.sent?.toList ++ sentBy t := by
      cases hsent : d.sent? <;> simp [sentBy, hsent]
    rw [sentAt, hd, Nat.add_zero, ih hrest, hcons, List.map_append]
    congr 1
    cases d.sent? <;> rfl

theorem Prints.still (h : Prints t) : Still t := by
  intro d hd
  obtain ⟨mark, effect, answer⟩ := d
  rcases h _ hd with heffect | ⟨entries, heffect⟩
  · cases heffect
    rfl
  · cases heffect
    rfl

/-- A step of waiting takes no time before its pause. -/
theorem Check.still {start : Span} (step : Check tc s start t s') : Still t := by
  cases step with
  | exhausted => simp [Still, Deed.slept]
  | givenUp => simp [Still, Deed.slept]
  | waiting => simp [Still, Deed.slept]
  | repeated reading restart entry printer printed failure sent few due again hp hf =>
    simp only [Still, List.mem_append, List.mem_cons, List.not_mem_nil, or_false]
    rintro d (((((rfl | rfl) | hd) | rfl) | hd) | rfl)
    · rfl
    · rfl
    · exact hp.prints.still d hd
    · rfl
    · exact hf.prints.still d hd
    · rfl

/-- A round without a reply takes a pause. -/
theorem slept_emptyRound (still : Still t) (s s' : Sender) :
    slept (emptyRound s t s') = Settings.checkInterval.nanos := by
  have hlook : slept (⟨s, .takeReply, false⟩ :: t) = 0 + slept t := rfl
  rw [emptyRound, slept_append, hlook, slept_sleep, still.slept_eq, Nat.zero_add]

/-- No reply is found, and the clock is only moved by the sleep of the sender: as long as it can
show the time, it shows what was slept since `origin`. -/
structure Alone (origin : Nat) (t : Trace Sender) : Prop where
  unanswered : ∀ p m replied q, t = p ++ ⟨m, .takeReply, replied⟩ :: q → replied = false
  clock : ∀ p m reading q, t = p ++ ⟨m, .now, reading⟩ :: q →
    origin + slept p ≤ Span.maxNanos → reading.nanos = origin + slept p

theorem Alone.of_append (h : Alone origin (t ++ u)) : Alone origin t where
  unanswered p m replied q ht :=
    h.unanswered p m replied (q ++ u) (by rw [ht, List.append_assoc, List.cons_append])
  clock p m reading q ht :=
    h.clock p m reading (q ++ u) (by rw [ht, List.append_assoc, List.cons_append])

/-! ### Windows -/

theorem checkInterval_nanos : Settings.checkInterval.nanos = 500000000 := rfl

/-- How many pauses the time for a reply takes, if it is rounded up to whole pauses. -/
def pauses (s : Sender) : Nat :=
  (s.tcTimeout.nanos + (Settings.checkInterval.nanos - 1)) / Settings.checkInterval.nanos

/-- The time for a reply, rounded up to whole pauses. -/
def window (s : Sender) : Nat := s.pauses * Settings.checkInterval.nanos

/-- The time from the first transmission of a telecommand without reply to the end of the wait. -/
def patience (s : Sender) : Nat :=
  if s.resend then Settings.maxResends * s.window + 2 * Settings.checkInterval.nanos
  else s.window + Settings.checkInterval.nanos

/-- The time for a reply is up after so many pauses, and not before. -/
theorem pauses_le_iff (s : Sender) (j : Nat) :
    s.pauses ≤ j ↔ s.tcTimeout.nanos ≤ j * Settings.checkInterval.nanos := by
  rw [pauses, checkInterval_nanos]
  omega

theorem pauses_pos (positive : 0 < s.tcTimeout.nanos) : 1 ≤ s.pauses := by
  rw [pauses, checkInterval_nanos]
  omega

theorem Alike.window_eq (h : Alike r s) : s.window = r.window := by
  rw [window, window, pauses, pauses, h.tcTimeout_eq]

theorem Alike.patience_eq (h : Alike r s) : s.patience = r.patience := by
  rw [patience, patience, h.window_eq, h.2.2]

/-! ### The rounds in time -/

/-- The moments of a wait that come up: `j` pauses after the `k`-th retransmission. -/
def ComesUp (r : Sender) (k j : Nat) : Prop :=
  (r.resend = false ∧ k = 0 ∧ j ≤ r.pauses) ∨
    (r.resend = true ∧ (k < Settings.maxResends ∧ j ≤ r.pauses ∨ k = Settings.maxResends ∧ j = 1))

/-- The times of the first transmission and of `n` retransmissions. -/
def times (tc : Telecommand.Packed) (r : Sender) (first n : Nat) :
    List (Nat × Telecommand.Packed) :=
  (List.range (n + 1)).map fun i => (first + i * r.window, tc)

theorem times_succ (tc : Telecommand.Packed) (r : Sender) (first n : Nat) :
    times tc r first (n + 1) = times tc r first n ++ [(first + (n + 1) * r.window, tc)] := by
  unfold times
  rw [List.range_succ, List.map_append, List.map_singleton]

/-- A telecommand waits that was sent for the first time after `base` was slept, `j` pauses after
the `k`-th retransmission. -/
structure Timed (tc : Telecommand.Packed) (r : Sender) (origin base : Nat) (p : Trace Sender)
    (s : Sender) (k j : Nat) : Prop where
  alike : Alike r s
  pending : s.isPending = true
  resends_eq : s.resends = k
  started : ∃ reading, s.started = some reading ∧ reading.nanos = origin + (base + k * r.window)
  slept_eq : slept p = base + k * r.window + j * Settings.checkInterval.nanos
  sentAt_eq : sentAt origin p = times tc r (origin + base) k

/-- The wait is over. -/
structure Expired (tc : Telecommand.Packed) (r : Sender) (origin base : Nat) (p : Trace Sender)
    (s : Sender) : Prop where
  ended : s.isPending = false
  slept_eq : slept p = base + r.patience
  sentAt_eq : sentAt origin p =
    times tc r (origin + base) (if r.resend then Settings.maxResends else 0)

/-- What holds between two rounds: the telecommand waits at a moment that comes up, or the wait is
over. -/
def InTime (tc : Telecommand.Packed) (r : Sender) (origin base : Nat) (p : Trace Sender)
    (s : Sender) : Prop :=
  (∃ k j, ComesUp r k j ∧ Timed tc r origin base p s k j) ∨ Expired tc r origin base p s

namespace ComesUp

/-- A moment that comes up is within the patience of the sender. -/
theorem le_patience (h : ComesUp r k j) :
    k * r.window + j * Settings.checkInterval.nanos ≤ r.patience := by
  have pause : j ≤ r.pauses → j * Settings.checkInterval.nanos ≤ r.window :=
    Nat.mul_le_mul_right _
  unfold patience
  rcases h with ⟨off, rfl, hj⟩ | ⟨again, ⟨few, hj⟩ | ⟨rfl, rfl⟩⟩
  · have := pause hj
    rw [off, if_neg Bool.false_ne_true, Nat.zero_mul]
    omega
  · have := pause hj
    have hwindows : (k + 1) * r.window ≤ Settings.maxResends * r.window :=
      Nat.mul_le_mul_right _ few
    rw [Nat.succ_mul] at hwindows
    rw [again, if_pos rfl]
    omega
  · rw [again, if_pos rfl]
    omega

/-- After the last retransmission there is one pause. -/
theorem eq_last (h : ComesUp r k j) (done : Settings.maxResends ≤ k) :
    r.resend = true ∧ k = Settings.maxResends ∧ j = 1 := by
  rcases h with ⟨-, rfl, -⟩ | ⟨again, ⟨few, -⟩ | ⟨hk, hj⟩⟩
  · exact absurd done (by decide)
  · omega
  · exact ⟨again, hk, hj⟩

/-- Nothing is sent again unless the sender is told so. -/
theorem eq_zero (h : ComesUp r k j) (off : r.resend = false) : k = 0 := by
  rcases h with ⟨-, hk, -⟩ | ⟨again, -⟩
  · exact hk
  · rw [off] at again
    cases again

/-- Before the last retransmission there are no more pauses than a window has. -/
theorem eq_pauses (h : ComesUp r k j) (few : k < Settings.maxResends) (due : r.pauses ≤ j) :
    j = r.pauses := by
  apply Nat.le_antisymm _ due
  rcases h with ⟨-, -, hj⟩ | ⟨-, ⟨-, hj⟩ | ⟨hk, -⟩⟩
  · exact hj
  · exact hj
  · omega

theorem pause (h : ComesUp r k j) (few : k < Settings.maxResends) (early : j < r.pauses) :
    ComesUp r k (j + 1) := by
  rcases h with ⟨off, hk, -⟩ | ⟨again, -⟩
  · exact .inl ⟨off, hk, early⟩
  · exact .inr ⟨again, .inl ⟨few, early⟩⟩

theorem resend (again : r.resend = true) (few : k < Settings.maxResends)
    (positive : 0 < r.tcTimeout.nanos) : ComesUp r (k + 1) 1 := by
  refine .inr ⟨again, ?_⟩
  by_cases last : k + 1 = Settings.maxResends
  · exact .inr ⟨last, rfl⟩
  · exact .inl ⟨by omega, pauses_pos positive⟩

end ComesUp

namespace Timed

/-- The time for the reply is up exactly after all pauses of a window. -/
theorem due_iff (h : Timed tc r origin base p s k j) {start reading : Span}
    (started : s.started = some start) (clock : reading.nanos = origin + slept p) :
    s.tcTimeout ≤ reading - start ↔ r.pauses ≤ j := by
  obtain ⟨start', hstart, hzero⟩ := h.started
  obtain rfl := Option.some.inj (started.symm.trans hstart)
  have helapsed : (reading - start).nanos = j * Settings.checkInterval.nanos := by
    show reading.nanos - start.nanos = _
    rw [clock, hzero, h.slept_eq]
    omega
  rw [pauses_le_iff, ← helapsed, ← h.alike.tcTimeout_eq]
  rfl

theorem slept_round (h : Timed tc r origin base p s k j) (still : Still t) (s' : Sender) :
    slept (p ++ emptyRound s t s') =
      base + k * r.window + j * Settings.checkInterval.nanos + Settings.checkInterval.nanos := by
  rw [slept_append, slept_emptyRound still, h.slept_eq]

theorem sentAt_round (h : Timed tc r origin base p s k j) (still : Still t) (s' : Sender) :
    sentAt origin (p ++ emptyRound s t s') =
      times tc r (origin + base) k ++ (sentBy t).map fun x => (origin + slept p, x) := by
  rw [emptyRound, sentAt_append, sentAt_append, h.sentAt_eq, ← still.sentAt_eq]
  exact congrArg (_ ++ ·) (List.append_nil _)

/-- During a round the clock shows what was slept before it. -/
theorem clock_round (h : Timed tc r origin base p s k j) (comesUp : ComesUp r k j)
    (fits : origin + base + r.patience ≤ Span.maxNanos) (still : Still t)
    (alone : Alone origin (p ++ emptyRound s t s')) {v x : Trace Sender} {m : Sender}
    {reading : Span} (ht : t = v ++ ⟨m, .now, reading⟩ :: x) :
    reading.nanos = origin + slept p := by
  have hstill : slept (p ++ ⟨s, .takeReply, false⟩ :: v) = slept p := by
    have hround : slept (⟨s, .takeReply, false⟩ :: v) = 0 + slept v := rfl
    have hv : Still v := fun d hd => still d (by
      rw [ht]
      exact List.mem_append_left _ hd)
    rw [slept_append, hround, hv.slept_eq]
    omega
  have hshows := alone.clock (p ++ ⟨s, .takeReply, false⟩ :: v) m reading
    (x ++ [⟨s', .sleep Settings.checkInterval, ()⟩]) (by simp [emptyRound, ht])
  rw [hstill] at hshows
  apply hshows
  have := comesUp.le_patience
  rw [h.slept_eq]
  omega

/-- **A step of waiting in time.**  After fewer pauses than a window has, nothing happens; then the
telecommand is sent again or given up; and after the last retransmission there is one pause more. -/
theorem check (h : Timed tc r origin base p s k j) (comesUp : ComesUp r k j)
    (positive : 0 < r.tcTimeout.nanos) (fits : origin + base + r.patience ≤ Span.maxNanos)
    {start : Span} (started : s.started = some start) (step : Check tc s start t s')
    (alone : Alone origin (p ++ emptyRound s t s')) :
    InTime tc r origin base (p ++ emptyRound s t s') s' := by
  have hslept := h.slept_round step.still s'
  have hsent := h.sentAt_round step.still s'
  have hclock : ∀ v m reading x, t = v ++ ⟨m, .now, reading⟩ :: x →
      reading.nanos = origin + slept p :=
    fun v m reading x ht => h.clock_round comesUp fits step.still alone ht
  have hone : s'.resends ≠ s.resends → sentBy t = [tc] :=
    fun hmore => (step.sentBy_eq.resolve_left fun hnone => hmore hnone.2).1
  -- What a check can do, each at the only moment at which it comes up.
  cases step with
  | exhausted entry done =>
    obtain ⟨again, rfl, rfl⟩ := comesUp.eq_last (h.resends_eq ▸ done)
    refine .inr ⟨rfl, ?_, ?_⟩
    · rw [hslept, patience, again, if_pos rfl]
      omega
    · rw [hsent, again, if_pos rfl]
      exact List.append_nil _
  | givenUp reading entry due once =>
    have off : r.resend = false := by rw [← h.alike.2.2, once]
    obtain rfl := comesUp.eq_zero off
    rw [h.due_iff started (hclock [] s reading _ rfl)] at due
    obtain rfl := comesUp.eq_pauses (by decide) due
    refine .inr ⟨rfl, ?_, ?_⟩
    · rw [hslept, patience, off, if_neg Bool.false_ne_true, window]
      omega
    · rw [hsent, off, if_neg Bool.false_ne_true]
      exact List.append_nil _
  | waiting reading few early =>
    rw [h.due_iff started (hclock [] s reading _ rfl)] at early
    have hnext := comesUp.pause (h.resends_eq ▸ few) (Nat.lt_of_not_le early)
    refine .inl ⟨k, j + 1, hnext, h.alike, h.pending, h.resends_eq, h.started, ?_, ?_⟩
    · rw [hslept, Nat.succ_mul, Nat.add_assoc]
    · rw [hsent]
      exact List.append_nil _
  | repeated reading restart entry printer printed failure sent few due again hp hf =>
    have few : k < Settings.maxResends := h.resends_eq ▸ few
    rw [h.due_iff started (hclock [] s reading _ rfl)] at due
    obtain rfl := comesUp.eq_pauses few due
    have hnext := ComesUp.resend (h.alike.2.2 ▸ again) few positive
    -- The wait ends with its last pause, where the next window begins.
    have hwindow : base + (k + 1) * r.window = slept p := by
      rw [h.slept_eq, Nat.succ_mul, window]
      omega
    have hrestart : restart.nanos = origin + (base + (k + 1) * r.window) := by
      rw [hwindow]
      exact hclock _ _ restart [] rfl
    refine .inl ⟨k + 1, 1, hnext, h.alike, h.pending, congrArg (· + 1) h.resends_eq,
      ⟨restart, rfl, hrestart⟩, ?_, ?_⟩
    · rw [hslept, hwindow, h.slept_eq]
      omega
    · rw [hsent, hone (Nat.succ_ne_self s.resends), times_succ, Nat.add_assoc, hwindow]
      rfl

end Timed

theorem ComesUp.first (r : Sender) : ComesUp r 0 0 := by
  cases hresend : r.resend with
  | false => exact .inl ⟨hresend, rfl, Nat.zero_le _⟩
  | true => exact .inr ⟨hresend, .inl ⟨by decide, Nat.zero_le _⟩⟩

/-- **All rounds are in time**, as long as nothing disturbs the sender. -/
theorem Rounds.inTime (h : Rounds tc r w s) (positive : 0 < r.tcTimeout.nanos)
    (fits : origin + base + r.patience ≤ Span.maxNanos) (first : Timed tc r origin base p r 0 0)
    (alone : Alone origin (p ++ w)) : InTime tc r origin base (p ++ w) s := by
  induction h with
  | start =>
    rw [List.append_nil]
    exact .inl ⟨0, 0, .first r, first⟩
  | @found w s before pending ih =>
    have hnone := alone.unanswered (p ++ w) s true [] (List.append_assoc _ _ _).symm
    cases hnone
  | @checked w t s s' start before pending started step ih =>
    rw [← List.append_assoc] at alone ⊢
    rcases ih alone.of_append with ⟨k, j, comesUp, timed⟩ | expired
    · exact timed.check comesUp positive fits started step alone
    · have hended := expired.ended
      rw [pending] at hended
      cases hended

/-- A transmission takes no time. -/
theorem Transmits.still {start : Span} {sent : Except Link.Error Unit}
    (h : Transmits tc s start sent u r) : Still u := by
  cases h with
  | intro printer printed hprinted =>
    intro d hd
    simp only [List.cons_append, List.mem_cons, List.mem_append, List.not_mem_nil, or_false] at hd
    rcases hd with rfl | hd | rfl
    · rfl
    · exact hprinted.prints.still d hd
    · rfl

/-- The wait starts with the first transmission. -/
theorem Transmits.timed {start : Span} {sent : Except Link.Error Unit}
    (h : Transmits tc s start sent u r) (slept_eq : slept p = base) (silent : sentAt origin p = [])
    (fits : origin + base ≤ Span.maxNanos) (alone : Alone origin (p ++ u)) :
    Timed tc r origin base (p ++ u) r 0 0 := by
  have hslept : slept (p ++ u) = base := by
    rw [slept_append, slept_eq, h.still.slept_eq, Nat.add_zero]
  have hsent : sentAt origin (p ++ u) = [(origin + base, tc)] := by
    rw [sentAt_append, silent, slept_eq, h.still.sentAt_eq, h.sentBy_eq]
    rfl
  obtain ⟨-, hstarted, hresends, -, hpending, -⟩ := h.ready
  have hclock : start.nanos = origin + base := by
    cases h with
    | intro printer printed hprinted =>
      rw [← slept_eq]
      exact alone.clock p _ start _ rfl (slept_eq ▸ fits)
  refine ⟨⟨rfl, rfl, rfl⟩, hpending, hresends, ⟨start, hstarted, ?_⟩, ?_, ?_⟩
  · rw [hclock, Nat.zero_mul, Nat.add_zero]
  · rw [hslept]
    omega
  · rw [hsent, times, List.range_one, List.map_singleton, Nat.zero_mul, Nat.add_zero]

end Sender

end GroundLink
