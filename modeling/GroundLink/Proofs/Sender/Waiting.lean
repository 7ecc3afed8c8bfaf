import GroundLink.Proofs.Sender.Steps

/-!
# Waiting for a reply

A sender that has sent a new telecommand waits until a reply is reported, until the time for it is
up, or until the telecommand was sent again as often as it may be.  `Sender.Waiting` is what holds
all the while, whatever the clock, the link and the listener do, and `Sender.Waits` is what can be
said of the whole wait once it is over.
-/

namespace GroundLink

def Deed.sent? (d : Deed Sender) : Option Telecommand.Packed :=
  match d.effect with
  | .send tc => some tc
  | _ => none

namespace Sender

open Routine (Secures)

/-! ### What is sent -/

/-- The telecommands that are sent, in order. -/
def sentBy (t : Trace Sender) : List Telecommand.Packed := t.filterMap Deed.sent?

@[simp]
theorem sentBy_append (t u : Trace Sender) : sentBy (t ++ u) = sentBy t ++ sentBy u :=
  List.filterMap_append

@[simp]
theorem sentBy_send (s : Sender) (tc : Telecommand.Packed) (sent : Except Link.Error Unit) :
    sentBy [⟨s, .send tc, sent⟩] = [tc] := rfl

/-- Neither directives nor telemetry make a sender send anything. -/
theorem Aside.sentBy_eq {t : Trace Sender} (h : Aside t) : sentBy t = [] := by
  refine List.filterMap_eq_nil_iff.mpr fun d hd => ?_
  obtain ⟨mark, effect, answer⟩ := d
  have := h _ hd
  cases effect <;> first | rfl | exact absurd this id

/-! ### The wait -/

/-- What a sender does while the telecommand `tc` waits for its reply. -/
def IsPatient (tc : Telecommand.Packed) : Deed Sender → Prop
  | ⟨_, .takeReply, replied⟩ => replied = false
  | ⟨_, .now, _⟩ => True
  | ⟨_, .log _, _⟩ => True
  | ⟨_, .sleep time, _⟩ => time = Settings.checkInterval
  | ⟨_, .send tc', _⟩ => tc' = tc
  | _ => False

/-- A telecommand that was sent at `start` is given up when the time for its reply is up and it is
not sent again, or when it was sent again as often as it may be. -/
def IsGivenUp (settings : Sender) (start : Span) (w : Trace Sender) : Prop :=
  (settings.resend = false ∧
      ∃ mark reading, ⟨mark, .now, reading⟩ ∈ w ∧ settings.tcTimeout ≤ reading - start) ∨
    (settings.resend = true ∧ (sentBy w).length = Settings.maxResends)

/-- What the user of a sender and the directives of a queue set is the same in both states. -/
def Alike (r s : Sender) : Prop :=
  s.tmTimeout = r.tmTimeout ∧ s.tcTimeoutFactor = r.tcTimeoutFactor ∧ s.resend = r.resend

/-- What holds while `tc`, which was sent at `start` and left the state `r`, waits for its reply:
`w` was done since. -/
structure Waiting (tc : Telecommand.Packed) (r : Sender) (start : Span) (w : Trace Sender)
    (s : Sender) : Prop where
  last : s.last = some tc
  alike : Alike r s
  patient : ∀ d ∈ w, IsPatient tc d
  resends_eq : s.resends = (sentBy w).length
  few : s.resends ≤ Settings.maxResends
  once : r.resend = false → s.resends = 0
  /-- The time for the reply starts anew with every retransmission. -/
  started : ∃ restart, s.started = some restart ∧ (r.resend = false → restart = start)
  givenUp : s.isAnswered = true → IsGivenUp r start w

variable {r s : Sender} {tc : Telecommand.Packed} {start : Span} {w : Trace Sender}

theorem Alike.trans {q : Sender} (h : Alike q r) (h' : Alike r s) : Alike q s :=
  ⟨h'.1.trans h.1, h'.2.1.trans h.2.1, h'.2.2.trans h.2.2⟩

theorem Alike.tcTimeout_eq (h : Alike r s) : s.tcTimeout = r.tcTimeout := by
  obtain ⟨htm, hfactor, -⟩ := h
  rw [tcTimeout, tcTimeout, htm, hfactor]

theorem IsPatient.of_logs {t : Trace Sender} (h : Logs s t) : ∀ d ∈ t, IsPatient tc d := by
  intro d hd
  obtain ⟨mark, effect, answer⟩ := d
  obtain ⟨-, entries, heffect⟩ := h _ hd
  cases heffect
  trivial

theorem IsGivenUp.append (h : IsGivenUp r start w) {t : Trace Sender}
    (ht : sentBy t = []) : IsGivenUp r start (w ++ t) := by
  rcases h with ⟨once, mark, reading, hmem, due⟩ | ⟨again, all⟩
  · exact .inl ⟨once, mark, reading, List.mem_append_left t hmem, due⟩
  · refine .inr ⟨again, ?_⟩
    rw [sentBy_append, ht, List.append_nil]
    exact all

/-- A telecommand that was just sent waits. -/
theorem Transmits.waiting {s' : Sender} {sent : Except Link.Error Unit} {t : Trace Sender}
    (h : Transmits tc s start sent t s') :
    Waiting tc s' start [] s' := by
  cases h with
  | intro printer printed hprinted =>
    exact
      { last := rfl
        alike := ⟨rfl, rfl, rfl⟩
        patient := by simp
        resends_eq := rfl
        few := Nat.zero_le _
        once := fun _ => rfl
        started := ⟨start, rfl, fun _ => rfl⟩
        givenUp := by simp [waitingFrom] }

/-- Deeds that send nothing change nothing. -/
theorem Waiting.extend (h : Waiting tc r start w s) {t : Trace Sender}
    (patient : ∀ d ∈ t, IsPatient tc d) (silent : sentBy t = []) :
    Waiting tc r start (w ++ t) s where
  last := h.last
  alike := h.alike
  patient d hd := by
    rcases List.mem_append.mp hd with hd | hd
    · exact h.patient d hd
    · exact patient d hd
  resends_eq := by
    rw [sentBy_append, silent, List.append_nil]
    exact h.resends_eq
  few := h.few
  once := h.once
  started := h.started
  givenUp answered := (h.givenUp answered).append silent

/-- A look for a reply that finds none changes nothing. -/
theorem Waiting.look (h : Waiting tc r start w s) :
    Waiting tc r start (w ++ [⟨s, .takeReply, false⟩]) s :=
  h.extend (by simp [IsPatient]) rfl

/-- A telecommand that may be given up is given up. -/
theorem Waiting.settle (h : Waiting tc r start w s)
    (givenUp : IsGivenUp r start w) : Waiting tc r start w s.settled :=
  { h with givenUp := fun _ => givenUp }

/-- A retransmission counts, and the time for the reply starts anew. -/
theorem Waiting.resent (h : Waiting tc r start w s) {t : Trace Sender}
    (patient : ∀ d ∈ t, IsPatient tc d) (sent : sentBy t = [tc]) (again : r.resend = true)
    (few : s.resends < Settings.maxResends) (unanswered : s.isAnswered = false) (printer : Printer)
    (restart : Span) :
    Waiting tc r start (w ++ t)
      { s with printer, resends := s.resends + 1, started := some restart } where
  last := h.last
  alike := h.alike
  patient d hd := by
    rcases List.mem_append.mp hd with hd | hd
    · exact h.patient d hd
    · exact patient d hd
  resends_eq := by
    rw [sentBy_append, sent, List.length_append, ← h.resends_eq]
    rfl
  few := few
  once off := by simp [again] at off
  started := ⟨restart, rfl, fun off => by simp [again] at off⟩
  givenUp answered := by simp [unanswered] at answered

/-- A step of waiting is patient. -/
theorem Check.patient {t : Trace Sender} {s' : Sender} (step : Check tc s start t s') :
    ∀ d ∈ t, IsPatient tc d := by
  cases step with
  | exhausted => simp [IsPatient]
  | givenUp => simp [IsPatient]
  | waiting => simp [IsPatient]
  | repeated reading restart entry printer printed failure sent few due again hp hf =>
    simp only [List.mem_append, List.mem_cons, List.not_mem_nil, or_false]
    rintro d (((((rfl | rfl) | hd) | rfl) | hd) | rfl)
    · trivial
    · trivial
    · exact IsPatient.of_logs hp d hd
    · rfl
    · exact IsPatient.of_logs hf d hd
    · trivial

/-- **A step of waiting keeps what holds while a telecommand waits.** -/
theorem Waiting.check (h : Waiting tc r start w s) (unanswered : s.isAnswered = false)
    {restart : Span} (started : s.started = some restart) {t : Trace Sender} {s' : Sender}
    (step : Check tc s restart t s') :
    Waiting tc r start (w ++ t ++ [⟨s', .sleep Settings.checkInterval, ()⟩]) s' := by
  refine Waiting.extend ?_ (by simp [IsPatient]) rfl
  have patient := step.patient
  cases step with
  | exhausted entry done =>
    -- Retransmissions were made, so they are not switched off.
    have hall : s.resends = Settings.maxResends := Nat.le_antisymm h.few done
    have hagain : r.resend = true := by
      rcases off : r.resend with _ | _
      · have := h.once off
        simp [hall, Settings.maxResends] at this
      · rfl
    have h' := h.extend patient rfl
    exact h'.settle (.inr ⟨hagain, by rw [← h'.resends_eq, hall]⟩)
  | repeated reading restart' entry printer printed failure sent few due again hp hf =>
    refine h.resent patient ?_ (h.alike.2.2 ▸ again) few unanswered printer restart'
    -- Only one of these deeds sends anything.
    rw [sentBy_append, sentBy_append, sentBy_append, sentBy_append, hp.aside.sentBy_eq,
      hf.aside.sentBy_eq]
    rfl
  | givenUp reading entry due once =>
    have hoff : r.resend = false := by rw [← h.alike.2.2, once]
    refine (h.extend patient rfl).settle (.inl ⟨hoff, s, reading, by simp, ?_⟩)
    -- Without retransmissions the time for the reply has been running since the first transmission.
    obtain ⟨restart', hsome, heq⟩ := h.started
    rw [started, Option.some.injEq] at hsome
    rw [← h.alike.tcTimeout_eq, ← heq hoff, ← hsome]
    exact due
  | waiting reading =>
    exact h.extend patient rfl

/-! ### The whole wait -/

/-- What a sender does between the transmission of a telecommand and the next entry of the queue. -/
def IsWaiting : Effect → Prop
  | .takeReply | .now | .log _ | .send _ | .takeTelemetry => True
  | .sleep time => time = Settings.checkInterval
  | _ => False

/-- The whole wait after the transmission of `tc` at `start`, which left the state `r`: nothing else
is sent, `tc` is not sent more often than it may be, and the wait is over because of a reply or
because `tc` is given up. -/
structure Waits (tc : Telecommand.Packed) (r : Sender) (start : Span) (w : Trace Sender) :
    Prop where
  waiting : ∀ d ∈ w, IsWaiting d.effect
  repeats : ∀ x ∈ sentBy w, x = tc
  few : (sentBy w).length ≤ Settings.maxResends
  once : r.resend = false → sentBy w = []
  released : (∃ mark, ⟨mark, .takeReply, true⟩ ∈ w) ∨ IsGivenUp r start w

theorem IsPatient.isWaiting {d : Deed Sender} (h : IsPatient tc d) : IsWaiting d.effect := by
  obtain ⟨mark, effect, answer⟩ := d
  cases effect <;> trivial

theorem IsPatient.sent_eq {d : Deed Sender} (h : IsPatient tc d) {x : Telecommand.Packed}
    (sent : d.sent? = some x) : x = tc := by
  obtain ⟨mark, effect, answer⟩ := d
  cases effect <;> simp [Deed.sent?] at sent
  exact sent.symm.trans h

/-- A wait is over once a reply was found or the telecommand was given up, and the telemetry that
came meanwhile is printed. -/
theorem Waiting.waits (h : Waiting tc r start w s) {replied : Bool}
    (ended : replied = true ∨ s.isAnswered = true) {s₁ s₂ : Sender} {batches : List Packet.Batch}
    {printed : Trace Sender} (hprinted : Logs s₂ printed) :
    Waits tc r start
      (w ++ [⟨s, .takeReply, replied⟩] ++ ⟨s₁, .takeTelemetry, batches⟩ :: printed) := by
  have hsent : sentBy (w ++ [⟨s, .takeReply, replied⟩] ++
      ⟨s₁, .takeTelemetry, batches⟩ :: printed) = sentBy w := by
    have hlook : sentBy [(⟨s, .takeReply, replied⟩ : Deed Sender)] = [] := rfl
    have htake : sentBy (⟨s₁, .takeTelemetry, batches⟩ :: printed) = sentBy printed := rfl
    rw [sentBy_append, sentBy_append, hlook, htake, hprinted.aside.sentBy_eq, List.append_nil,
      List.append_nil]
  constructor
  case waiting =>
    simp only [List.mem_append, List.mem_cons, List.not_mem_nil, or_false]
    rintro d ((hd | rfl) | rfl | hd)
    · exact (h.patient d hd).isWaiting
    · trivial
    · trivial
    · have hd : IsPatient tc d := IsPatient.of_logs hprinted d hd
      exact hd.isWaiting
  case repeats =>
    rw [hsent]
    intro x hx
    obtain ⟨d, hd, sent⟩ := List.mem_filterMap.mp hx
    exact (h.patient d hd).sent_eq sent
  case few =>
    rw [hsent, ← h.resends_eq]
    exact h.few
  case once =>
    intro off
    rw [hsent]
    refine List.eq_nil_of_length_eq_zero ?_
    rw [← h.resends_eq]
    exact h.once off
  -- A reply was found, or the wait was given up for one of two reasons.
  case released =>
    rcases ended with rfl | answered
    · exact .inl ⟨s, by simp⟩
    · refine .inr ?_
      rcases h.givenUp answered with ⟨off, mark, reading, hmem, due⟩ | ⟨again, all⟩
      · exact .inl ⟨off, mark, reading, by simp [hmem], due⟩
      · exact .inr ⟨again, hsent ▸ all⟩

end Sender

end GroundLink
