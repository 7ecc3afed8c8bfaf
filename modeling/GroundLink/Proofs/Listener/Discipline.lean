import GroundLink.Listener.Basic
import GroundLink.Proofs.Activity.Secures

/-!
# Disciplines of a listener

A discipline is a condition on the effects that a listener comes to, together with an invariant of
its deeds.  It has to be kept by effects that concern neither telemetry nor replies, by a poll
(`Listener.Discipline`), and by one step of collecting replies.  Then it is kept whatever the
listener is asked to do (`Listener.Works.admits`).

There is one rule for each way in which a routine is put together, so the routines of the listener
are followed step by step, without any knowledge of what their requests and modes do.  The parts of
an operation that statements are about have names (`Listener.reportSequence`,
`Listener.operationRound`).
-/

namespace GroundLink.Listener

open Activity (Reaches)
open Routine (Secures)

variable {α β : Type} {G : Trace Listener → Listener → Effect → Prop} {I : Trace Listener → Prop}
  {p t : Trace Listener} {d : Deed Listener}

/-! ### Parts of an operation -/

/-- One step of collecting replies in the modes in which they are reported. -/
def reportSequence : Routine Listener Unit := do
  if ← checkForSequence then
    let delivered ← (Routine.perform .reportReply : Routine Listener Bool)
    if !delivered then Routine.note (Log.debug "TM listener: no receiver for reply event")

/-- One round of the loop of an operation that began at `start`. -/
def operationRound (mode : Mode) (start : Span) : Routine Listener (Unit ⊕ Unit) := do
  let l ← get
  if l.isFinished || l.isShutDown then return .inr ()
  if l.settings.operationTimeout ≤ (← Routine.elapsedSince start) then
    Routine.note <| Log.warn <| "TM listener: mode operation " ++ mode.label ++
      " timed out after " ++ l.settings.operationTimeout.render
    return .inr ()
  if !(← handleRequests) then stepOperation
  return .inl ()

theorem runOperation_eq (mode : Mode) : runOperation mode = (do
    Routine.note (Log.debug ("TM listener entering mode " ++ mode.label))
    announce mode
    modify fun l => { l with inOperation := true, isFinished := false }
    let start ← Routine.now
    Routine.iterate () fun _ => operationRound mode start
    modify fun l => { l with inOperation := false, isFinished := false }
    announce .listener) :=
  rfl

/-! ### Disciplines -/

/-- A routine that keeps an invariant, in any state, and only comes to effects that are admitted. -/
def Preserves (G : Trace Listener → Listener → Effect → Prop) (I : Trace Listener → Prop)
    (m : Routine Listener α) : Prop :=
  ∀ p s, I p → Secures G m (fun _ q _ => I q) p s

/-! ### Rules -/

theorem preserves_pure (x : α) : Preserves G I (pure x) :=
  fun _ _ hp => Secures.pure_iff.mpr hp

theorem preserves_bind {m : Routine Listener α} {f : α → Routine Listener β}
    (first : Preserves G I m) (second : ∀ x, Preserves G I (f x)) : Preserves G I (m >>= f) :=
  fun p s hp => Secures.bind_iff.mpr <|
    (first p s hp).mono fun x q s' hq => second x q s' hq

theorem preserves_get : Preserves G I get :=
  fun _ _ hp => Secures.get_iff.mpr hp

theorem preserves_set (s : Listener) : Preserves G I (set s) :=
  fun _ _ hp => Secures.set_iff.mpr hp

theorem preserves_modify (f : Listener → Listener) : Preserves G I (modify f) :=
  fun _ _ hp => Secures.modify_iff.mpr hp

theorem preserves_iterate {ι : Type} {body : ι → Routine Listener (ι ⊕ α)}
    (round : ∀ i, Preserves G I (body i)) (start : ι) :
    Preserves G I (Routine.iterate start body) := by
  intro p s hp
  refine Secures.iterate (fun _ q _ => I q) (fun i q s hq => ?_) hp
  refine (round i q s hq).mono fun x q' _ hq' => ?_
  cases x with
  | inl => exact hq'
  | inr => exact hq'

/-! ### What a discipline has to admit -/

/-- An effect of the listener that concerns neither telemetry nor replies. -/
def IsIdle : Effect → Prop
  | .now | .sleep _ | .log _ | .available | .nextRequest | .awaitRequest _ | .announceMode _ => True
  | _ => False

/-- A condition on effects with an invariant that idle effects and polls keep. -/
structure Discipline (G : Trace Listener → Listener → Effect → Prop)
    (I : Trace Listener → Prop) : Prop where
  idles : ∀ {p s effect}, IsIdle effect → I p →
    G p s effect ∧ ∀ answer, I (p ++ [⟨s, effect, answer⟩])
  poll : Preserves G I pollOnce

namespace Discipline

variable (h : Discipline G I)
include h

theorem keeps_perform {effect : Effect} (idle : IsIdle effect) :
    Preserves G I (Routine.perform effect) :=
  fun _ _ hp => Secures.perform_iff.mpr (h.idles idle hp)

theorem keeps_now : Preserves G I Routine.now :=
  h.keeps_perform trivial

theorem keeps_sleep (time : Span) : Preserves G I (Routine.sleep time) :=
  h.keeps_perform trivial

theorem keeps_log (entries : List Log.Entry) : Preserves G I (Routine.log entries) := by
  unfold Routine.log
  split
  · exact preserves_pure ()
  · exact h.keeps_perform trivial

theorem keeps_note (entry : Log.Entry) : Preserves G I (Routine.note entry) :=
  h.keeps_perform trivial

theorem keeps_elapsedSince (reading : Span) : Preserves G I (Routine.elapsedSince reading) :=
  preserves_bind h.keeps_now fun _ => preserves_pure _

/-! ### Requests -/

theorem keeps_accept (r : Request) : Preserves G I (accept r) := by
  refine preserves_bind preserves_get fun l => ?_
  refine preserves_bind (preserves_set _) fun _ => ?_
  exact preserves_bind (h.keeps_log _) fun _ => preserves_pure _

theorem keeps_handleRequests : Preserves G I handleRequests := by
  refine preserves_iterate (fun _ => ?_) ()
  refine preserves_bind (h.keeps_perform trivial) fun incoming => ?_
  cases incoming with
  | request r =>
    refine preserves_bind (h.keeps_accept r) fun stops => ?_
    cases stops with
    | true => exact preserves_pure _
    | false => exact preserves_pure _
  | nothing => exact preserves_pure _
  | disconnected => exact preserves_bind (preserves_modify _) fun _ => preserves_pure _

/-! ### Reading -/

theorem keeps_isDataAvailable : Preserves G I isDataAvailable := by
  refine preserves_bind (h.keeps_perform trivial) fun available => ?_
  cases available with
  | ok => exact preserves_pure _
  | error => exact preserves_bind (h.keeps_note _) fun _ => preserves_pure _

theorem keeps_awaitFirstData : Preserves G I awaitFirstData := by
  refine preserves_bind h.keeps_now fun start => ?_
  refine preserves_iterate (fun _ => ?_) ()
  refine preserves_bind preserves_get fun l => ?_
  refine preserves_bind (h.keeps_elapsedSince start) fun time => ?_
  split
  · exact preserves_pure _
  · refine preserves_bind h.keeps_handleRequests fun stops => ?_
    cases stops with
    | true => exact preserves_pure _
    | false =>
      refine preserves_bind h.keeps_isDataAvailable fun available => ?_
      cases available with
      | true => exact preserves_pure _
      | false => exact preserves_bind (h.keeps_sleep _) fun _ => preserves_pure _

theorem keeps_readSequence : Preserves G I readSequence := by
  refine preserves_bind h.keeps_now fun start => ?_
  refine preserves_iterate (fun received => ?_) false
  refine preserves_bind h.poll fun _ => ?_
  refine preserves_bind preserves_get fun l => ?_
  refine preserves_bind (h.keeps_elapsedSince start) fun time => ?_
  split
  · exact preserves_pure _
  · refine preserves_bind h.keeps_handleRequests fun stops => ?_
    cases stops with
    | true => exact preserves_pure _
    | false => exact preserves_bind (h.keeps_sleep _) fun _ => preserves_pure _

theorem keeps_checkForSequence : Preserves G I checkForSequence := by
  refine preserves_bind h.keeps_awaitFirstData fun found => ?_
  cases found with
  | true => exact h.keeps_readSequence
  | false => exact preserves_pure false

/-! ### Modes -/

theorem keeps_announce (mode : Mode) : Preserves G I (announce mode) :=
  preserves_bind (preserves_modify _) fun _ => h.keeps_perform trivial

/-- A step of an operation keeps what collecting replies keeps, if it does so in the modes in which
replies are reported. -/
theorem keeps_stepOperation (reports : Preserves G I reportSequence) :
    Preserves G I stepOperation := by
  refine preserves_bind (preserves_bind preserves_get fun l => ?_) fun _ => preserves_modify _
  cases l.mode with
  | listener => exact preserves_modify _
  | singleCommand => exact reports
  | serviceTest => exact reports
  | softwareTest => exact reports
  | unitTest =>
    refine preserves_bind h.poll fun received => ?_
    cases received with
    | true => exact preserves_pure ()
    | false => exact h.keeps_sleep _

variable (step : Preserves G I stepOperation)
include step

theorem keeps_runOperation (mode : Mode) : Preserves G I (runOperation mode) := by
  refine preserves_bind (h.keeps_note _) fun _ => ?_
  refine preserves_bind (h.keeps_announce mode) fun _ => ?_
  refine preserves_bind (preserves_modify _) fun _ => ?_
  refine preserves_bind h.keeps_now fun start => ?_
  refine preserves_bind ?_ fun _ =>
    preserves_bind (preserves_modify _) fun _ => h.keeps_announce .listener
  refine preserves_iterate (fun _ => ?_) ()
  refine preserves_bind preserves_get fun l => ?_
  split
  · exact preserves_pure _
  · refine preserves_bind (h.keeps_elapsedSince start) fun time => ?_
    split
    · exact preserves_bind (h.keeps_note _) fun _ => preserves_pure _
    · refine preserves_bind h.keeps_handleRequests fun stops => ?_
      cases stops with
      | true => exact preserves_pure _
      | false => exact preserves_bind step fun _ => preserves_pure _

theorem keeps_defaultOperation : Preserves G I defaultOperation := by
  refine preserves_bind h.keeps_handleRequests fun _ => ?_
  refine preserves_bind h.poll fun _ => ?_
  refine preserves_iterate (fun _ => ?_) ()
  refine preserves_bind preserves_get fun l => ?_
  split
  · exact preserves_pure _
  · refine preserves_bind (preserves_set _) fun _ => ?_
    split
    · exact preserves_pure _
    · exact preserves_bind (h.keeps_runOperation step _) fun _ => preserves_pure _

/-! ### The whole work -/

omit step in
theorem keeps_idle : Preserves G I idle := by
  refine preserves_bind (h.keeps_perform trivial) fun incoming => ?_
  cases incoming with
  | request r => exact preserves_bind (h.keeps_accept r) fun _ => preserves_pure ()
  | nothing => exact preserves_pure ()
  | disconnected => exact preserves_modify _

theorem keeps_work : Preserves G I perform := by
  refine preserves_bind (h.keeps_note _) fun _ => ?_
  refine preserves_bind ?_ fun _ => h.keeps_note _
  refine preserves_iterate (fun _ => ?_) ()
  refine preserves_bind preserves_get fun l => ?_
  split
  · exact preserves_pure _
  · split
    · refine preserves_bind (h.keeps_defaultOperation step) fun _ => ?_
      exact preserves_bind (h.keeps_sleep _) fun _ => preserves_pure _
    · exact preserves_bind h.keeps_idle fun _ => preserves_pure _

end Discipline

/-! ### Whatever a listener is asked to do -/

/-- What a listener can be asked to do. -/
inductive IsOffered : {α : Type} → Routine Listener α → Prop
  | perform : IsOffered perform
  | defaultOperation : IsOffered defaultOperation
  | stepOperation : IsOffered stepOperation
  | checkForSequence : IsOffered checkForSequence
  | pollOnce : IsOffered pollOnce

/-- What a listener does, so far, that is asked to do one thing after another. -/
inductive Works : Listener → Trace Listener → Prop
  | going {α : Type} {m : Routine Listener α} {l : Listener} {t : Trace Listener}
      {b : Activity Listener (α × Listener)} (offered : IsOffered m) (run : Reaches (m l) t b) :
      Works l t
  | next {α : Type} {m : Routine Listener α} {l l' : Listener} {t u : Trace Listener} {x : α}
      (offered : IsOffered m) (run : m.Completes l t x l') (rest : Works l' u) : Works l (t ++ u)

theorem IsOffered.preserves {m : Routine Listener α} (offered : IsOffered m)
    (h : Discipline G I) (step : Preserves G I Listener.stepOperation) : Preserves G I m := by
  cases offered with
  | perform => exact h.keeps_work step
  | defaultOperation => exact h.keeps_defaultOperation step
  | stepOperation => exact step
  | checkForSequence => exact h.keeps_checkForSequence
  | pollOnce => exact h.poll

/-- **A discipline is kept**, whatever a listener is asked to do. -/
theorem Works.admits {l : Listener} (works : Works l t) (h : Discipline G I)
    (step : Preserves G I stepOperation) (start : I []) :
    ∀ p d q, t = p ++ d :: q → G p d.mark d.effect := by
  -- The induction is over what the listener is asked to do; the invariant holds before each of
  -- these, after the deeds `p₀` so far.
  have main : ∀ p₀ p d q, I p₀ → t = p ++ d :: q → G (p₀ ++ p) d.mark d.effect := by
    induction works with
    | going offered run =>
      rintro p₀ p d q hp rfl
      exact (offered.preserves h step p₀ _ hp).of_split run
    | @next α m l l' t u x offered run rest ih =>
      intro p₀ p d q hp ht
      have hm := offered.preserves h step p₀ l hp
      have hafter : I (p₀ ++ t) := hm.of_completes run
      rcases List.append_eq_append_iff.mp ht with ⟨p', rfl, hu⟩ | ⟨q', rfl, hq⟩
      · rw [← List.append_assoc]
        exact ih (p₀ ++ t) p' d q hafter hu
      · cases q' with
        | nil =>
          rw [List.append_nil] at hafter
          rw [← List.append_nil p, ← List.append_assoc]
          refine ih _ [] d q ?_ hq.symm
          simpa using hafter
        | cons d' q' =>
          obtain ⟨rfl, -⟩ := List.cons.inj hq
          exact hm.of_split run
  exact fun p d q => main [] p d q start

/-! ### The effects of a listener -/

/-- An effect that a listener comes to. -/
def IsOwn : Effect → Prop
  | .poll | .store _ | .reportReply => True
  | effect => IsIdle effect

theorem IsIdle.own {effect : Effect} (idle : IsIdle effect) : IsOwn effect := by
  cases effect <;> trivial

/-- What a listener comes to, without any invariant. -/
theorem own_discipline : Discipline (fun _ _ effect => IsOwn effect) fun _ => True where
  idles idle _ := ⟨idle.own, fun _ => trivial⟩
  poll := by
    refine preserves_bind (fun _ _ _ => Secures.perform_iff.mpr ⟨trivial, fun _ => trivial⟩) ?_
    intro polled
    split
    · split
      · refine preserves_bind ?_ fun _ => preserves_pure true
        exact fun _ _ _ => Secures.perform_iff.mpr ⟨trivial, fun _ => trivial⟩
      · exact preserves_pure false
    · refine preserves_bind ?_ fun _ => preserves_pure false
      exact fun _ _ _ => Secures.perform_iff.mpr ⟨trivial, fun _ => trivial⟩

theorem own_stepOperation :
    Preserves (fun _ _ effect => IsOwn effect) (fun _ => True) stepOperation := by
  refine own_discipline.keeps_stepOperation ?_
  refine preserves_bind own_discipline.keeps_checkForSequence fun found => ?_
  cases found with
  | false => exact preserves_pure ()
  | true =>
    refine preserves_bind ?_ fun delivered => ?_
    · exact fun _ _ _ => Secures.perform_iff.mpr ⟨trivial, fun _ => trivial⟩
    · cases delivered with
      | true => exact preserves_pure ()
      | false => exact own_discipline.keeps_note _

/-- **A listener only comes to effects of its own**, whatever it is asked to do. -/
theorem Works.own {l : Listener} (works : Works l t) : ∀ d ∈ t, IsOwn d.effect := by
  intro d hd
  obtain ⟨p, q, ht⟩ := List.append_of_mem hd
  exact works.admits own_discipline own_stepOperation trivial p d q ht

end GroundLink.Listener
