import GroundLink.Proofs.Sender.Order
import GroundLink.Proofs.Sender.Rounds

/-!
# Which replies are found

Reports of replies go through a channel that only the sender takes from, first in, first out.  A
sender that waits for a reply takes the oldest report, also one that was made before its telecommand
was sent.  That happens exactly if the channel holds a report when the telecommand is sent, and then
at the first look (`Sender.finds_earlier_iff`): the channel is emptied when a mode is entered, but
not before each telecommand.
-/

namespace GroundLink.Sender

open Activity (Reaches)
open Routine (Secures)

/-! ### The reply channel -/

/-- What concerns the reply channel: others report a reply, or the sender does something. -/
abbrev Around := Happening Unit Sender

/-- The reply channel.  Reports are numbered in the order in which they are made. -/
structure Channel where
  /-- The number of reports so far. -/
  reported : Nat
  /-- The reports that were not taken yet, the oldest first. -/
  waiting : List Nat

namespace Channel

/-- A channel with a number of reports that were not taken yet. -/
def holding (k : Nat) : Channel := ⟨k, List.range k⟩

/-- What a happening does to the channel, if it can happen at all: a report is found if and only if
there is one. -/
def step (c : Channel) : Around → Option Channel
  | .other _ => some ⟨c.reported + 1, c.waiting ++ [c.reported]⟩
  | .own ⟨_, .takeReply, true⟩ =>
    match c.waiting with
    | [] => none
    | _ :: rest => some { c with waiting := rest }
  | .own ⟨_, .takeReply, false⟩ => if c.waiting = [] then some c else none
  | .own ⟨_, .clearReplies, _⟩ => some { c with waiting := [] }
  | .own _ => some c

def after (c : Channel) (h : List Around) : Option Channel := h.foldlM step c

variable {c c' : Channel} {h h' : List Around}

theorem after_append (h h' : List Around) :
    c.after (h ++ h') = (c.after h).bind fun c => c.after h' :=
  List.foldlM_append

theorem after_cons (x : Around) (h : List Around) :
    c.after (x :: h) = (c.step x).bind fun c => c.after h :=
  List.foldlM_cons

/-- What a sender does while a telecommand waits leaves the channel alone, and a look that finds
nothing shows that it is empty. -/
theorem step_patient {tc : Telecommand.Packed} {d : Deed Sender} (patient : IsPatient tc d)
    (hc : c.step (.own d) = some c') :
    c' = c ∧ (d.effect = .takeReply → c.waiting = []) := by
  obtain ⟨mark, effect, answer⟩ := d
  cases effect with
  | takeReply =>
    obtain rfl : answer = false := patient
    by_cases hempty : c.waiting = []
    · simp only [step, hempty, if_true, Option.some.injEq] at hc
      exact ⟨hc.symm, fun _ => hempty⟩
    · simp [step, hempty] at hc
  | now | log | sleep | send => exact ⟨(Option.some.inj hc).symm, by simp⟩
  | _ => exact absurd patient id

/-- While a telecommand waits, reports only pile up behind those that the channel holds already. -/
theorem after_patient {tc : Telecommand.Packed} (patient : ∀ d ∈ Happening.deeds h, IsPatient tc d)
    (hc : c.after h = some c') :
    c.reported ≤ c'.reported ∧ (∃ fresh, c'.waiting = c.waiting ++ fresh ∧
      ∀ e ∈ fresh, c.reported ≤ e) ∧
      (c.waiting ≠ [] → ∀ d ∈ Happening.deeds h, d.effect ≠ .takeReply) := by
  induction h generalizing c with
  | nil =>
    obtain rfl : c = c' := by simpa [after] using hc
    exact ⟨Nat.le_refl _, ⟨[], by simp⟩, by simp [Happening.deeds]⟩
  | cons x h ih =>
    rw [after_cons] at hc
    obtain ⟨c₁, hx, hrest⟩ := Option.bind_eq_some_iff.mp hc
    cases x with
    | other =>
      obtain rfl := Option.some.inj hx
      obtain ⟨hle, ⟨fresh, hwaiting, hfresh⟩, hlooks⟩ := ih patient hrest
      refine ⟨Nat.le_of_succ_le hle, ⟨c.reported :: fresh, by simp [hwaiting], ?_⟩, fun _ =>
        hlooks (by simp)⟩
      intro e he
      rcases List.mem_cons.mp he with rfl | he
      · exact Nat.le_refl _
      · exact Nat.le_of_succ_le (hfresh e he)
    -- A patient sender never forgets reports, and only looks in vain.
    | own d =>
      have hdeeds : Happening.deeds (.own d :: h) = d :: Happening.deeds h := rfl
      rw [hdeeds, List.forall_mem_cons] at patient
      obtain ⟨rfl, hlook⟩ := step_patient patient.1 hx
      obtain ⟨hle, hfresh, hlooks⟩ := ih patient.2 hrest
      refine ⟨hle, hfresh, fun hfull => ?_⟩
      rw [hdeeds, List.forall_mem_cons]
      exact ⟨fun htake => hfull (hlook htake), hlooks hfull⟩

theorem step_lt {x : Around} (hc : c.step x = some c') (hlt : ∀ e ∈ c.waiting, e < c.reported) :
    ∀ e ∈ c'.waiting, e < c'.reported := by
  cases x with
  | other =>
    obtain rfl := Option.some.inj hc
    simp only [List.mem_append, List.mem_singleton]
    rintro e (he | rfl)
    · exact Nat.lt_succ_of_lt (hlt e he)
    · exact Nat.lt_succ_self _
  | own d =>
    obtain ⟨mark, effect, answer⟩ := d
    cases effect with
    | takeReply =>
      cases answer with
      | false =>
        rw [step, Option.ite_none_right_eq_some, Option.some.injEq] at hc
        obtain ⟨-, rfl⟩ := hc
        exact hlt
      | true =>
        cases hwaiting : c.waiting with
        | nil => simp [step, hwaiting] at hc
        | cons e rest =>
          simp only [step, hwaiting, Option.some.injEq] at hc
          obtain rfl := hc
          exact fun e' he' => hlt e' (by rw [hwaiting]; exact List.mem_cons_of_mem e he')
    | clearReplies =>
      obtain rfl := Option.some.inj hc
      exact fun e he => absurd he List.not_mem_nil
    | _ =>
      obtain rfl := Option.some.inj hc
      exact hlt

/-- The reports in the channel were made before. -/
theorem after_lt (hc : c.after h = some c') (hlt : ∀ e ∈ c.waiting, e < c.reported) :
    ∀ e ∈ c'.waiting, e < c'.reported := by
  induction h generalizing c with
  | nil =>
    obtain rfl : c = c' := by simpa [after] using hc
    exact hlt
  | cons x h ih =>
    rw [after_cons] at hc
    obtain ⟨c₁, hx, hrest⟩ := Option.bind_eq_some_iff.mp hc
    exact ih hrest (step_lt hx hlt)

end Channel

/-! ### Runs of the senders that wait -/

theorem Check.unanswered {tc : Telecommand.Packed} {s s' : Sender} {start : Span}
    {t : Trace Sender} (h : Check tc s start t s') (pending : s'.isPending = true) :
    s'.isAnswered = s.isAnswered := by
  cases h with
  | exhausted => simp [settled] at pending
  | givenUp => simp [settled] at pending
  | repeated => rfl
  | waiting => rfl

/-- **The single telecommand's sender** looks for a reply only while its telecommand waits. -/
theorem secures_awaitReply {tc : Telecommand.Packed} {s r s' : Sender} {start : Span}
    {p u w : Trace Sender} (sent : Transmits tc s start (.ok ()) u r)
    (waiting : Waiting tc r start w s') (unanswered : s'.isAnswered = false)
    {Q : Unit → Trace Sender → Sender → Prop} (h : ∀ t s', Q () t s') :
    Secures (Looks fun p _ => Expects p) awaitReply Q (p ++ u ++ w) s' := by
  -- The telecommand waits as long as the sender says so.
  refine Secures.iterate (fun _ q s' => s'.isPending = true → s'.isAnswered = false ∧
    ∃ w, q = p ++ u ++ w ∧ Waiting tc r start w s') ?_ fun _ => ⟨unanswered, w, rfl, waiting⟩
  intro _ q s' hs'
  simp only [checkForFirstReply, Routine.takeReply, Secures.bind_iff, Secures.get_iff]
  cases pending : s'.isPending with
  | false =>
    rw [Bool.not_false, if_pos rfl, Secures.pure_iff]
    exact h _ _
  | true =>
    obtain ⟨unanswered, w, rfl, waiting⟩ := hs' pending
    rw [Bool.not_true, if_neg Bool.false_ne_true]
    simp only [Secures.bind_iff, Secures.perform_iff]
    refine ⟨fun _ => ⟨p, tc, s, start, u, r, w, rfl, sent, waiting.patient⟩, fun replied => ?_⟩
    cases replied with
    | true =>
      rw [if_pos rfl]
      refine secures_settle (Secures.pure_iff.mpr fun pending => ?_)
      simp [settled] at pending
    | false =>
      rw [if_neg Bool.false_ne_true]
      obtain ⟨restart, started, -⟩ := waiting.started
      refine secures_checkForTimeout waiting.last started fun v s'' step => ?_
      refine Secures.pure_iff.mpr fun pending => ?_
      refine ⟨(step.unanswered pending).trans unanswered, _, ?_,
        waiting.look.check unanswered started step⟩
      simp only [List.append_assoc]

/-- After the wait of the single telecommand's sender no reply is looked for. -/
theorem secures_conclude {sent : Except Link.Error Unit} {p : Trace Sender} {s : Sender} :
    Secures (Looks fun p _ => Expects p) (conclude sent) (fun _ _ _ => True) p s := by
  rw [conclude, Secures.bind_iff]
  refine secures_finish fun told => ?_
  split
  · exact Secures.pure_iff.mpr trivial
  · rw [Secures.bind_iff]
    refine secures_printTelemetry fun batches printer printed _ => ?_
    rw [Secures.bind_iff, Secures.get_iff]
    split
    · rw [Secures.bind_iff]
      exact secures_note (Secures.pure_iff.mpr trivial)
    · exact Secures.pure_iff.mpr trivial

theorem secures_sendSingle {tc : Telecommand.Packed} {s : Sender} :
    Secures (Looks fun p _ => Expects p) (sendSingle tc) (fun _ _ _ => True) [] s := by
  simp only [sendSingle, Secures.bind_iff]
  refine secures_enterMode (Secures.pure_iff.mpr trivial) ?_
  rw [Bool.not_true, if_neg Bool.false_ne_true, Secures.bind_iff, Secures.modify_iff,
    Secures.bind_iff]
  refine secures_sendLast fun start sent u r transmits => ?_
  rcases sent with cause | ⟨⟩
  · exact secures_conclude
  · simp only [Except.isOk, Except.toBool, if_true]
    rw [Secures.bind_iff]
    have unanswered : r.isAnswered = false := by
      cases transmits
      rfl
    rw [← List.append_nil (_ ++ u)]
    exact secures_awaitReply transmits transmits.waiting unanswered fun t s' => secures_conclude

/-- A run, so far, of a sender that waits for replies: of the sequential one or of the one for a
single telecommand. -/
def RunsWaiting (s : Sender) (t : Trace Sender) : Prop :=
  (∃ mode queue b, Reaches (sendSequentially mode queue s) t b) ∨
    ∃ tc b, Reaches (sendSingle tc s) t b

/-- **A reply is looked for only while a telecommand waits.** -/
theorem RunsWaiting.expects {s m : Sender} {p q : Trace Sender} {replied : Bool}
    (run : RunsWaiting s (p ++ ⟨m, .takeReply, replied⟩ :: q)) : Expects p := by
  have admits : ∀ {α : Type} {a : Activity Sender (α × Sender)} {b} {Q : α × Sender → _ → Prop},
      Reaches a (p ++ ⟨m, .takeReply, replied⟩ :: q) b →
      Activity.Secures (Looks fun p _ => Expects p) a Q [] → Expects p := by
    intro α a b Q run secures
    obtain ⟨next, before, -⟩ := run.split
    exact (secures p _ before).1 m .takeReply next rfl rfl
  rcases run with ⟨mode, queue, b, run⟩ | ⟨tc, b, run⟩
  · exact admits run secures_sendSequentially
  · exact admits run secures_sendSingle

/-- **A reply that a sender finds was reported before its telecommand was sent exactly if the
channel held a report then**, and in that case it is found at the first look.  Here `d` is the first
transmission of the telecommand, `c₁` the channel at that moment, and `e` the report that is found
after `h`. -/
theorem finds_earlier_iff {s m : Sender} {k e : Nat} {q : List Nat} {h : List Around} {c : Channel}
    (run : RunsWaiting s (Happening.deeds h ++ [⟨m, .takeReply, true⟩]))
    (history : (Channel.holding k).after h = some c) (oldest : c.waiting = e :: q) :
    ∃ h₁ d h₂ c₁ tc, h = h₁ ++ .own d :: h₂ ∧
      (∃ before s₁ start u r, Happening.deeds h₁ ++ [d] = before ++ u ∧
        Transmits tc s₁ start (.ok ()) u r) ∧
      (∀ d ∈ Happening.deeds h₂, IsPatient tc d) ∧
      (Channel.holding k).after h₁ = some c₁ ∧
      (e < c₁.reported ↔ c₁.waiting ≠ []) ∧
      (c₁.waiting ≠ [] → ∀ d ∈ Happening.deeds h₂, d.effect ≠ .takeReply) := by
  -- The look comes after the transmission of `tc` and a part of the wait for a reply to it.
  obtain ⟨before, tc, s₁, start, u, r, w, hdeeds, sent, patient⟩ := run.expects
  have hu : ∃ v d, u = v ++ [d] ∧ ∃ answer, d = ⟨r, .send tc, answer⟩ := by
    cases sent with
    | intro printer printed _ => exact ⟨_, _, rfl, .ok (), rfl⟩
  obtain ⟨v, d, rfl, answer, rfl⟩ := hu
  have hdeeds : Happening.deeds h = (before ++ v) ++ ⟨r, .send tc, answer⟩ :: w := by
    rw [hdeeds]
    simp
  obtain ⟨h₁, h₂, rfl, hbefore, rfl⟩ := Happening.deeds_split hdeeds
  rw [Channel.after_append] at history
  obtain ⟨c₁, hc₁, hrest⟩ := Option.bind_eq_some_iff.mp history
  -- The transmission itself leaves the channel alone.
  have hrest : c₁.after h₂ = some c := hrest
  obtain ⟨-, ⟨fresh, hwaiting, hfresh⟩, hlooks⟩ := Channel.after_patient patient hrest
  refine ⟨h₁, _, h₂, c₁, tc, rfl, ⟨before, s₁, start, _, r, by simp [hbefore], sent⟩, patient, hc₁,
    ?_, hlooks⟩
  have hlt : ∀ e ∈ c₁.waiting, e < c₁.reported :=
    Channel.after_lt hc₁ fun e he => List.mem_range.mp he
  rw [oldest] at hwaiting
  constructor
  -- If the channel was empty, all that it holds now was reported later.
  · rintro hearly hempty
    rw [hempty, List.nil_append] at hwaiting
    have := hfresh e (by rw [← hwaiting]; exact List.mem_cons_self)
    omega
  -- Otherwise its oldest report is still the oldest one.
  · intro hfull
    obtain ⟨e₁, rest, hcons⟩ := List.exists_cons_of_ne_nil hfull
    rw [hcons, List.cons_append] at hwaiting
    obtain ⟨rfl, -⟩ := List.cons.inj hwaiting
    exact hlt e (by rw [hcons]; exact List.mem_cons_self)

/-- Answers by which there always is a reply. -/
def replyAlways (_ : Trace Sender) : (effect : Effect) → effect.Answer
  | .takeReply => true
  | effect => effect.calm

/-- A single telecommand is answered by a report that was made before it was sent, while its sender
gave the listener the time to change its mode. -/
theorem finds_earlier_single :
    ∃ s m h d c, RunsWaiting s (Happening.deeds (h ++ [.own d]) ++ [⟨m, .takeReply, true⟩]) ∧
      (∀ e ∈ Happening.deeds h, e.sent? = none) ∧ d.sent? = some default ∧
      (Channel.holding 0).after h = some c ∧ c.waiting = [0] ∧
      ∃ h₁ e h₂ c₁ tc, h ++ [.own d] = h₁ ++ .own e :: h₂ ∧
        (∀ d ∈ Happening.deeds h₂, IsPatient tc d) ∧ (Channel.holding 0).after h₁ = some c₁ ∧
        (0 < c₁.reported ↔ c₁.waiting ≠ []) := by
  let s := make {} (Printer.make .short false false)
  let r : Sender := waitingFrom { s with last := some default } 0
  let h : List Around :=
    [.own ⟨s, .clearReplies, ()⟩, .own ⟨s, .request (.changeMode .singleCommand), true⟩,
      .own ⟨s, .sleep Settings.modeChangeDelay, ()⟩, .other (),
      .own ⟨{ s with last := some default }, .now, 0⟩]
  have run : RunsWaiting s
      (Happening.deeds (h ++ [.own ⟨r, .send default, .ok ()⟩]) ++ [⟨r, .takeReply, true⟩]) :=
    .inr ⟨default, _, Activity.reaches_play replyAlways 7 [] (sendSingle default s)⟩
  obtain ⟨h₁, d, h₂, c₁, tc, hsplit, -, patient, hc₁, hiff, -⟩ := finds_earlier_iff run rfl rfl
  exact ⟨s, r, h, _, _, run, by simp [h, Happening.deeds, Deed.sent?], rfl, rfl, rfl, h₁, d, h₂, c₁,
    tc, hsplit, patient, hc₁, hiff⟩

end GroundLink.Sender
