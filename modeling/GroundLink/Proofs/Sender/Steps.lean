import GroundLink.Proofs.Activity.Secures
import GroundLink.Sender.Basic

/-!
# What the routines of a sender do

One rule for each routine that the senders share: the deeds that it adds and the state that it
leaves behind.  The rules allow a condition on the moments at which a sender looks for a reply
(`Sender.Looks`), so that they serve statements about these moments as well as statements about
whole runs.

`Sender.Check` lists everything that one step of waiting can do.
-/

namespace GroundLink.Sender

open Routine (Secures)

variable {R : Trace Sender → Sender → Prop} {p : Trace Sender} {s : Sender}

/-! ### Deeds of a sender -/

/-- Lines are added to the log in a state, and nothing else is done. -/
def Logs (s : Sender) (t : Trace Sender) : Prop :=
  ∀ d ∈ t, d.mark = s ∧ ∃ entries, d.effect = .log entries

/-- An effect that neither concerns a telecommand nor a reply. -/
def IsAside : Effect → Prop
  | .now | .sleep _ | .log _ | .writeFile _ _ | .takeTelemetry => True
  | _ => False

def Aside (t : Trace Sender) : Prop :=
  ∀ d ∈ t, IsAside d.effect

theorem Logs.nil (s : Sender) : Logs s [] := by simp [Logs]

theorem Logs.single (s : Sender) (entries : List Log.Entry) : Logs s [⟨s, .log entries, ()⟩] := by
  simp [Logs]

theorem Logs.append {t u : Trace Sender} (ht : Logs s t) (hu : Logs s u) : Logs s (t ++ u) := by
  intro d hd
  rcases List.mem_append.mp hd with hd | hd
  · exact ht d hd
  · exact hu d hd

theorem Logs.aside {t : Trace Sender} (h : Logs s t) : Aside t := by
  intro d hd
  obtain ⟨-, entries, heffect⟩ := h d hd
  rw [heffect]
  trivial

theorem Aside.nil : Aside [] := by simp [Aside]

theorem Aside.append {t u : Trace Sender} (ht : Aside t) (hu : Aside u) : Aside (t ++ u) := by
  intro d hd
  rcases List.mem_append.mp hd with hd | hd
  · exact ht d hd
  · exact hu d hd

/-- A condition on the moments at which a sender looks for a reply, and on no others. -/
def Looks (R : Trace Sender → Sender → Prop) (p : Trace Sender) (s : Sender) (effect : Effect) :
    Prop :=
  effect = .takeReply → R p s

/-! ### Clock and output -/

theorem secures_log {entries : List Log.Entry} {Q : Unit → Trace Sender → Sender → Prop}
    (h : ∀ printed, Logs s printed → Q () (p ++ printed) s) :
    Secures (Looks R) (Routine.log entries) Q p s := by
  unfold Routine.log
  split
  · simpa using h [] (Logs.nil s)
  · exact Secures.perform_iff.mpr ⟨by simp [Looks], fun _ => h _ (Logs.single s entries)⟩

theorem secures_note {entry : Log.Entry} {Q : Unit → Trace Sender → Sender → Prop}
    (h : Q () (p ++ [⟨s, .log [entry], ()⟩]) s) :
    Secures (Looks R) (Routine.note entry) Q p s := by
  exact Secures.perform_iff.mpr ⟨by simp [Looks], fun _ => h⟩

theorem secures_now {Q : Span → Trace Sender → Sender → Prop}
    (h : ∀ reading, Q reading (p ++ [⟨s, .now, reading⟩]) s) :
    Secures (Looks R) Routine.now Q p s := by
  exact Secures.perform_iff.mpr ⟨by simp [Looks], h⟩

theorem secures_sleep {time : Span} {Q : Unit → Trace Sender → Sender → Prop}
    (h : Q () (p ++ [⟨s, .sleep time, ()⟩]) s) :
    Secures (Looks R) (Routine.sleep time) Q p s := by
  exact Secures.perform_iff.mpr ⟨by simp [Looks], fun _ => h⟩

theorem secures_print {f : Printer → Printer × List Log.Entry}
    {Q : Unit → Trace Sender → Sender → Prop}
    (h : ∀ printer printed, Logs { s with printer } printed →
      Q () (p ++ printed) { s with printer }) :
    Secures (Looks R) (print f) Q p s := by
  simp only [print, Secures.bind_iff, Secures.get_iff, Secures.set_iff]
  exact secures_log fun printed hp => h _ printed hp

theorem secures_transmit {tc : Telecommand.Packed}
    {Q : Except Link.Error Unit → Trace Sender → Sender → Prop}
    (h : ∀ printer printed sent, Logs { s with printer } printed →
      Q sent (p ++ printed ++ [⟨{ s with printer }, .send tc, sent⟩]) { s with printer }) :
    Secures (Looks R) (transmit tc) Q p s := by
  simp only [transmit, Secures.bind_iff]
  refine secures_print fun printer printed hp => ?_
  simpa [Routine.send, Looks] using fun sent => h printer printed sent hp

theorem secures_printTelemetry {Q : List Packet.Batch → Trace Sender → Sender → Prop}
    (h : ∀ batches printer printed, Logs { s with printer } printed →
      Q batches (p ++ ⟨s, .takeTelemetry, batches⟩ :: printed) { s with printer }) :
    Secures (Looks R) printTelemetry Q p s := by
  simp only [printTelemetry, Routine.takeTelemetry, Secures.bind_iff, Secures.perform_iff]
  refine ⟨by simp [Looks], fun batches => secures_print fun printer printed hp => ?_⟩
  simpa using h batches printer printed hp

theorem secures_exportBuffer {path : Path} {Q : Unit → Trace Sender → Sender → Prop}
    (h : ∀ printer t, Aside t → Q () (p ++ t) { s with printer }) :
    Secures (Looks R) (exportBuffer path) Q p s := by
  unfold exportBuffer
  rw [Secures.bind_iff]
  refine secures_print fun page kept hkept => ?_
  simp only [Routine.writeFile, Secures.bind_iff, Secures.get_iff, Secures.perform_iff]
  refine ⟨by simp [Looks], fun written => ?_⟩
  have hwrite : Aside
      (kept ++ [⟨{ s with printer := page }, .writeFile path page.buffer, written⟩]) :=
    hkept.aside.append (by simp [Aside, IsAside])
  split
  · refine secures_print fun printer printed hp => ?_
    simpa using h printer _ (hwrite.append hp.aside)
  · refine secures_note ?_
    simpa using h page _ (hwrite.append (Logs.single { s with printer := page } _).aside)

/-! ### Queue entries -/

/-- Carrying out an entry neither sends nor looks for a reply.  A telecommand is remembered at
once. -/
theorem secures_carryOut {e : Queue.Entry} {Q : Bool → Trace Sender → Sender → Prop}
    (h : ∀ t s', Aside t → s'.resend = s.resend →
      (∀ tc, e = .telecommand tc → t = [] ∧ s' = { s with last := some tc }) →
      Q e.isTelecommand (p ++ t) s') :
    Secures (Looks R) (carryOut e) Q p s := by
  cases e with
  | telecommand tc =>
    simpa [carryOut] using h [] { s with last := some tc } Aside.nil rfl (by simp)
  | wait time =>
    simp only [carryOut, Secures.bind_iff, Secures.modify_iff]
    refine secures_sleep (Secures.pure_iff.mpr (h _ _ ?_ rfl (by simp)))
    simp [Aside, IsAside]
  | print text =>
    simp only [carryOut, Secures.bind_iff]
    refine secures_print fun printer printed hp => ?_
    exact Secures.pure_iff.mpr (h printed _ hp.aside rfl (by simp))
  | printPlain text =>
    simp only [carryOut, Secures.bind_iff]
    refine secures_print fun printer printed hp => ?_
    exact Secures.pure_iff.mpr (h printed _ hp.aside rfl (by simp))
  | «export» path =>
    simp only [carryOut, Secures.bind_iff]
    refine secures_exportBuffer fun printer t ht => ?_
    exact Secures.pure_iff.mpr (h t _ ht rfl (by simp))
  | timeout time =>
    simpa [carryOut] using h [] { s with tmTimeout := time } Aside.nil rfl (by simp)

/-! ### Transmission and waiting -/

/-- The state in which a telecommand starts waiting for its reply. -/
def waitingFrom (s : Sender) (start : Span) : Sender :=
  { s with resends := 0, isAnswered := false, isPending := true, started := some start }

/-- A telecommand is sent as a new one: the clock is read, and the telecommand is printed and
sent. -/
inductive Transmits (tc : Telecommand.Packed) (s : Sender) (start : Span)
    (sent : Except Link.Error Unit) : Trace Sender → Sender → Prop
  | intro (printer : Printer) (printed : Trace Sender)
      (hprinted : Logs { waitingFrom { s with last := some tc } start with printer } printed) :
      Transmits tc s start sent
        (⟨{ s with last := some tc }, .now, start⟩ :: printed ++
          [⟨{ waitingFrom { s with last := some tc } start with printer }, .send tc, sent⟩])
        { waitingFrom { s with last := some tc } start with printer }

theorem Transmits.resend_eq {tc : Telecommand.Packed} {s' : Sender} {start : Span}
    {sent : Except Link.Error Unit} {t : Trace Sender} (h : Transmits tc s start sent t s') :
    s'.resend = s.resend := by
  cases h
  rfl

theorem secures_sendLast {tc : Telecommand.Packed}
    {Q : Except Link.Error Unit → Trace Sender → Sender → Prop}
    (h : ∀ start sent t s', Transmits tc s start sent t s' → Q sent (p ++ t) s') :
    Secures (Looks R) sendLast Q p { s with last := some tc } := by
  simp only [sendLast, Secures.bind_iff, Secures.get_iff]
  refine secures_now fun start => ?_
  rw [Secures.bind_iff, Secures.modify_iff]
  refine secures_transmit fun printer printed sent hp => ?_
  have := h start sent _ _ (.intro printer printed hp)
  simp only [List.append_assoc, List.cons_append, List.nil_append] at this ⊢
  exact this

/-- A whole run of it is one transmission. -/
theorem exists_transmits_of_completes {tc : Telecommand.Packed} {sent : Except Link.Error Unit}
    {t : Trace Sender} {s' : Sender}
    (run : sendLast.Completes { s with last := some tc } t sent s') :
    ∃ start, Transmits tc s start sent t s' := by
  have hsends : Secures (Looks fun _ _ => True) sendLast
      (fun sent t s' => ∃ start, Transmits tc s start sent t s') []
      { s with last := some tc } :=
    secures_sendLast fun start sent t s' h => ⟨start, h⟩
  exact hsends.of_completes run

/-- The state in which the last telecommand counts as answered. -/
def settled (s : Sender) : Sender := { s with isAnswered := true, isPending := false }

theorem secures_settle {Q : Unit → Trace Sender → Sender → Prop} (h : Q () p s.settled) :
    Secures (Looks R) settle Q p s :=
  Secures.modify_iff.mpr h

/-- Everything that a step of waiting can do while a telecommand waits since `start`, up to the
pause at its end. -/
inductive Check (tc : Telecommand.Packed) (s : Sender) (start : Span) : Trace Sender → Sender → Prop
  /-- Nothing is sent again after the last retransmission. -/
  | exhausted (entry : Log.Entry) (done : Settings.maxResends ≤ s.resends) :
      Check tc s start [⟨s, .log [entry], ()⟩] s.settled
  | repeated (reading restart : Span) (entry : Log.Entry) (printer : Printer)
      (printed failure : Trace Sender) (sent : Except Link.Error Unit)
      (few : s.resends < Settings.maxResends) (due : s.tcTimeout ≤ reading - start)
      (again : s.resend = true) (hprinted : Logs { s with printer } printed)
      (hfailure : Logs { s with printer } failure) :
      Check tc s start
        ([⟨s, .now, reading⟩, ⟨s, .log [entry], ()⟩] ++ printed ++
          [⟨{ s with printer }, .send tc, sent⟩] ++ failure ++
          [⟨{ s with printer }, .now, restart⟩])
        { s with printer, resends := s.resends + 1, started := some restart }
  | givenUp (reading : Span) (entry : Log.Entry) (due : s.tcTimeout ≤ reading - start)
      (once : s.resend = false) :
      Check tc s start [⟨s, .now, reading⟩, ⟨s, .log [entry], ()⟩] s.settled
  | waiting (reading : Span) (few : s.resends < Settings.maxResends)
      (early : ¬ s.tcTimeout ≤ reading - start) : Check tc s start [⟨s, .now, reading⟩] s

theorem secures_resendLast {tc : Telecommand.Packed} (last : s.last = some tc)
    {Q : Unit → Trace Sender → Sender → Prop}
    (h : ∀ printer printed sent failure, Logs { s with printer } printed →
      Logs { s with printer } failure →
      Q () (p ++ printed ++ [⟨{ s with printer }, .send tc, sent⟩] ++ failure)
        { s with printer }) :
    Secures (Looks R) resendLast Q p s := by
  simp only [resendLast, Secures.bind_iff, Secures.get_iff]
  rw [last]
  simp only [Secures.bind_iff]
  refine secures_transmit fun printer printed sent hp => ?_
  split
  · exact secures_note (h printer printed _ _ hp (Logs.single _ _))
  · simpa using h printer printed sent [] hp (Logs.nil _)

theorem secures_handleTimeout {tc : Telecommand.Packed} {start reading : Span}
    (last : s.last = some tc) (few : s.resends < Settings.maxResends)
    (due : s.tcTimeout ≤ reading - start) {Q : Unit → Trace Sender → Sender → Prop}
    (h : ∀ t s', Check tc s start ([⟨s, .now, reading⟩] ++ t) s' → Q () (p ++ t) s') :
    Secures (Looks R) handleTimeout Q p s := by
  simp only [handleTimeout, Secures.bind_iff, Secures.get_iff]
  split
  case isTrue again =>
    rw [Secures.bind_iff]
    refine secures_note ?_
    rw [Secures.bind_iff]
    refine secures_resendLast last fun printer printed sent failure hp hf => ?_
    rw [Secures.bind_iff]
    refine secures_now fun restart => ?_
    rw [Secures.modify_iff]
    have step : Check tc s start _ _ := .repeated reading restart
      (Log.info "CommandSenderReceiver: timeout, sending TC again") printer printed failure sent few
      due again hp hf
    simp only [List.append_assoc, List.cons_append, List.nil_append] at step ⊢
    exact h _ _ step
  case isFalse once =>
    rw [Secures.bind_iff]
    refine secures_note (secures_settle ?_)
    exact h _ _ (.givenUp reading _ due (by simpa using once))

theorem secures_checkForTimeout {tc : Telecommand.Packed} {start : Span} (last : s.last = some tc)
    (started : s.started = some start) {Q : Unit → Trace Sender → Sender → Prop}
    (h : ∀ t s', Check tc s start t s' →
      Q () (p ++ t ++ [⟨s', .sleep Settings.checkInterval, ()⟩]) s') :
    Secures (Looks R) checkForTimeout Q p s := by
  simp only [checkForTimeout, waitingSince, Secures.bind_iff, Secures.get_iff, started,
    Secures.pure_iff]
  split
  -- All retransmissions are used up, which is checked before the time.
  case isTrue done =>
    rw [Secures.bind_iff]
    refine secures_note ?_
    rw [Secures.bind_iff]
    refine secures_settle (secures_sleep ?_)
    exact h _ _ (.exhausted _ done)
  case isFalse few =>
    simp only [Routine.elapsedSince, Secures.bind_iff, Secures.get_iff]
    refine secures_now fun reading => ?_
    rw [Secures.pure_iff]
    split
    case isTrue due =>
      rw [Secures.bind_iff]
      refine secures_handleTimeout last (Nat.lt_of_not_le few) due fun t s' step => ?_
      refine secures_sleep ?_
      rw [List.append_assoc p]
      exact h _ _ step
    case isFalse early =>
      refine secures_sleep ?_
      exact h _ _ (.waiting reading (Nat.lt_of_not_le few) early)

/-! ### Modes of the listener -/

theorem secures_enterMode {mode : Listener.Mode} {Q : Bool → Trace Sender → Sender → Prop}
    (refused : Q false
      (p ++ [⟨s, .clearReplies, ()⟩, ⟨s, .request (.changeMode mode), false⟩]) s)
    (entered : Q true
      (p ++ [⟨s, .clearReplies, ()⟩, ⟨s, .request (.changeMode mode), true⟩,
        ⟨s, .sleep Settings.modeChangeDelay, ()⟩]) s) :
    Secures (Looks R) (enterMode mode) Q p s := by
  simp only [enterMode, Routine.request, Secures.bind_iff, Secures.perform_iff]
  refine ⟨by simp [Looks], fun _ => ⟨by simp [Looks], fun delivered => ?_⟩⟩
  cases delivered with
  | false =>
    rw [if_neg Bool.false_ne_true, Secures.pure_iff, List.append_assoc]
    exact refused
  | true =>
    rw [if_pos rfl, Secures.bind_iff]
    refine secures_sleep (Secures.pure_iff.mpr ?_)
    rw [List.append_assoc, List.append_assoc]
    exact entered

theorem secures_finish {α : Type} {result : Except Link.Error α}
    {Q : Except Error α → Trace Sender → Sender → Prop}
    (h : ∀ told, Q (if told then result.mapError .link else .error .listenerGone)
      (p ++ [⟨s, .request .finishOperation, told⟩]) s) :
    Secures (Looks R) (finish result) Q p s := by
  simp only [finish, Routine.request, Secures.bind_iff, Secures.perform_iff]
  refine ⟨by simp [Looks], fun told => ?_⟩
  cases told with
  | false => exact Secures.pure_iff.mpr (h false)
  | true => exact Secures.pure_iff.mpr (h true)

end GroundLink.Sender
