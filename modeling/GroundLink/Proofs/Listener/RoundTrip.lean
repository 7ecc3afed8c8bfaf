import GroundLink.Proofs.Listener.Work

/-!
# Modes come and go

A round of the listener that starts in the default mode ends in it, whatever requests arrive and
whatever the link and the clock answer.  Meanwhile the mode that is announced is the one whose
operation is running (`Listener.defaultOperation_roundTrip`).
-/

namespace GroundLink.Listener

open Activity (Reaches)

/-- What holds of a listener that starts a round in the default mode, outside of any operation. -/
theorem secures_defaultOperation_of_default {l : Listener} (mode : l.mode = .listener)
    (idle : l.inOperation = false) (unfinished : l.isFinished = false) :
    Routine.Secures (Admits l True False) defaultOperation
      (fun _ p s => OnDuty l True False p s ∧ s.inOperation = false ∧ s.pending = none) [] l := by
  have hstart : OnDuty l True False [] l :=
    { sound := .start idle
      busy := rfl
      tidied := fun _ => ⟨mode.symm, fun _ => ⟨mode, unfinished⟩⟩
      firm := fun hduty => hduty.elim }
  exact secures_defaultOperation hstart (fun hduty => hduty.elim) idle fun p s h idle' hnone =>
    ⟨h, idle', hnone⟩

/-- **The modes of a round.**  A listener starts a round in the default mode, outside of operations.

* If the round ends, the default mode is announced, no operation is running or told to end, and no
  mode is pending.
* Whenever requests are looked for or the link is used, the mode that is announced is the default
  mode, or during an operation the mode of the change that the operation began for.
* A listener that is shut down stays so, and is not shut down when an operation begins. -/
theorem defaultOperation_roundTrip {l : Listener} (mode : l.mode = .listener)
    (idle : l.inOperation = false) (unfinished : l.isFinished = false) {p : Trace Listener}
    {b : Activity Listener (Unit × Listener)} (run : Reaches (defaultOperation l) p b) :
    (∀ s, b = .done ((), s) → announcedBy p = .listener ∧ s.mode = .listener ∧
      s.inOperation = false ∧ s.isFinished = false ∧ s.pending = none) ∧
    (∀ s effect next, b = .act s effect next → Attends effect →
      (s.inOperation = false → announcedBy p = .listener) ∧
      (s.inOperation = true → ∃ op, (record l p s).operations.getLast? = some op ∧
        op.mode = announcedBy p ∧
        (record l p s).requests[op.change]? = some (.changeMode op.mode))) ∧
    ∀ s, b.Stands s → (∀ e ∈ p, e.mark.isShutDown = true → s.isShutDown = true) ∧
      ((docket l p).isBusy = false → s.inOperation = true → s.isShutDown = false) := by
  -- Two invariants of the whole run: one before each effect, one at the end.
  obtain ⟨hact, hdone⟩ := secures_defaultOperation_of_default mode idle unfinished p b run
  rw [List.nil_append] at hact hdone
  refine ⟨fun s hb => ?_, fun s effect next hb attends => ?_, fun s stands => ?_⟩
  · obtain ⟨h, idle', hnone⟩ := hdone ((), s) hb
    obtain ⟨hmode, hfinished⟩ := (h.tidied trivial).idle idle'
    exact ⟨(h.tidied trivial).announced.trans hmode, hmode, idle', hfinished, hnone⟩
  · obtain ⟨⟨slot, sound, -⟩, htidy⟩ := hact s effect next hb
    have hannounced := (htidy trivial attends).announced
    refine ⟨fun idle' => ?_, fun working => ?_⟩
    · rw [hannounced]
      exact ((htidy trivial attends).idle idle').1
    · -- The docket names the operation that is running, and the request that asked for it.
      obtain ⟨op, hlast, hop⟩ := sound.running working
      obtain ⟨hchange, -, -⟩ := sound.valid.faithful op (List.mem_of_getLast? hlast)
      exact ⟨op, hlast, hop.trans hannounced.symm, hchange⟩
  · cases stands with
    | act _ effect next =>
      obtain ⟨⟨slot, sound, -⟩, -⟩ := hact s effect next rfl
      exact ⟨sound.shut, sound.begun⟩
    | done x =>
      obtain ⟨h, -, -⟩ := hdone (x, s) rfl
      exact ⟨h.sound.shut, h.sound.begun⟩

/-- Answers by which the first request is one for an operation, and all others are to finish it. -/
def finishedLater (p : Trace Listener) : (effect : Effect) → effect.Answer
  | .nextRequest => .request (if p.isEmpty then .changeMode .unitTest else .finishOperation)
  | effect => effect.calm

/-- A round with one operation, which is finished by a request. -/
theorem defaultOperation_roundTrip_once :
    ∃ p s, defaultOperation.Completes (make {}) p () s ∧
      (docket (make {}) p).operations.map (·.mode) = [.unitTest] ∧
      announcedBy p = .listener ∧ s.inOperation = false ∧ s.pending = none := by
  have run : ∃ p s, defaultOperation.Completes (make {}) p () s ∧
      (docket (make {}) p).operations.map (·.mode) = [.unitTest] :=
    ⟨_, _, Activity.reaches_play finishedLater 20 [] (defaultOperation (make {})), rfl⟩
  obtain ⟨p, s, run, hops⟩ := run
  obtain ⟨hannounced, -, idle, -, hnone⟩ := (defaultOperation_roundTrip rfl rfl rfl run).1 s rfl
  exact ⟨p, s, run, hops, hannounced, idle, hnone⟩

end GroundLink.Listener
