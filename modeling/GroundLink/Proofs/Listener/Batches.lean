import GroundLink.Proofs.Listener.Discipline

/-!
# Batches go from hand to hand

The listener holds a batch of packets for one moment only: between the poll that receives it and the
deed by which it is stored.  Whatever it is asked to do, it starts and ends with empty hands
(`Listener.EmptyHanded`), and it does nothing else while it holds a batch
(`Listener.Works.handles`).
-/

namespace GroundLink

/-- The packets that a deed of the listener receives: those of a poll that tells of some. -/
def Deed.received (d : Deed Listener) : Packet.Batch :=
  match d with
  | ⟨_, .poll, .ok (true, packets)⟩ => packets
  | _ => []

namespace Listener

open Activity (Reaches)
open Routine (Secures)

/-- The batch that was received by the last deed, and is not stored yet. -/
def held (p : Trace Listener) : Packet.Batch :=
  match p.getLast? with
  | some d => d.received
  | none => []

/-- What the listener does with a batch: it stores the one that it holds, and does nothing else
while it holds one.  It neither sends anything nor takes anything out of the telemetry queue. -/
def Hands (p : Trace Listener) (_ : Listener) : Effect → Prop
  | .store batch => batch = held p ∧ batch ≠ []
  | .send _ | .conclude _ | .takeTelemetry => False
  | _ => held p = []

/-- Every batch that was received in a trace was handled so. -/
def Handles (t : Trace Listener) : Prop :=
  ∀ p d q, t = p ++ d :: q → Hands p d.mark d.effect

/-- A routine that starts and ends with empty hands, in any state. -/
def EmptyHanded {α : Type} (m : Routine Listener α) : Prop :=
  ∀ p s, held p = [] → Secures Hands m (fun _ q _ => held q = []) p s

variable {α β : Type} {p q t u : Trace Listener} {d : Deed Listener}

theorem Handles.of_append (h : Handles (t ++ u)) : Handles t :=
  fun p d q ht => h p d (q ++ u) (by rw [ht, List.append_assoc, List.cons_append])

theorem held_append (p : Trace Listener) (d : Deed Listener) : held (p ++ [d]) = d.received := by
  rw [held, List.getLast?_append, List.getLast?_singleton]
  rfl

/-! ### The discipline -/

/-- An effect by which no batch is received, stored or taken, and nothing is sent. -/
def IsAside : Effect → Prop
  | .poll | .store _ | .send _ | .conclude _ | .takeTelemetry => False
  | _ => True

theorem IsAside.hands {effect : Effect} (aside : IsAside effect) (empty : held p = [])
    (s : Listener) : Hands p s effect := by
  cases effect <;> first | exact empty | exact absurd aside id

theorem IsAside.received_eq (aside : IsAside d.effect) : d.received = [] := by
  obtain ⟨mark, effect, answer⟩ := d
  cases effect <;> first | rfl | exact absurd aside id

theorem IsIdle.aside {effect : Effect} (idle : IsIdle effect) : IsAside effect := by
  cases effect <;> trivial

theorem emptyHanded_perform {effect : Effect} (aside : IsAside effect) :
    EmptyHanded (Routine.perform effect) :=
  fun _ s empty => Secures.perform_iff.mpr
    ⟨aside.hands empty s, fun _ => (held_append _ _).trans (IsAside.received_eq aside)⟩

theorem emptyHanded_note (entry : Log.Entry) : EmptyHanded (Routine.note entry) :=
  emptyHanded_perform trivial

/-- **A poll**: what it receives is stored at once. -/
theorem emptyHanded_pollOnce : EmptyHanded pollOnce := by
  intro p s empty
  refine Secures.bind_iff.mpr (Secures.perform_iff.mpr ⟨empty, fun polled => ?_⟩)
  rcases polled with cause | ⟨received, packets⟩
  · have hnone : held (p ++ [⟨s, .poll, .error cause⟩]) = [] := by
      rw [held_append]
      rfl
    exact preserves_bind (emptyHanded_note _) (fun _ => preserves_pure false) _ s hnone
  · -- Only a poll that tells of packets leaves a batch in hand, which is stored at once.
    cases hany : received && !packets.isEmpty with
    | false =>
      have hnone : held (p ++ [⟨s, .poll, .ok (received, packets)⟩]) = [] := by
        rw [held_append]
        cases received with
        | false => rfl
        | true =>
          obtain rfl : packets = [] := by simpa using hany
          rfl
      simp only [hany, Bool.false_eq_true, if_false]
      exact preserves_pure false _ s hnone
    | true =>
      obtain ⟨rfl, hsome⟩ : received = true ∧ packets ≠ [] := by simpa using hany
      simp only [hany, if_true]
      have hheld : held (p ++ [⟨s, .poll, .ok (true, packets)⟩]) = packets := by
        rw [held_append]
        rfl
      refine Secures.bind_iff.mpr (Secures.perform_iff.mpr ⟨⟨hheld.symm, hsome⟩, fun _ => ?_⟩)
      exact Secures.pure_iff.mpr (held_append _ _)

/-- With empty hands the listener does anything but send and take telemetry, and a batch that it
receives is stored at once. -/
theorem emptyHanded_discipline : Discipline Hands fun p => held p = [] where
  idles idle empty :=
    ⟨idle.aside.hands empty _, fun _ => (held_append _ _).trans (IsAside.received_eq idle.aside)⟩
  poll := emptyHanded_pollOnce

theorem emptyHanded_stepOperation : EmptyHanded stepOperation := by
  refine emptyHanded_discipline.keeps_stepOperation ?_
  refine preserves_bind emptyHanded_discipline.keeps_checkForSequence fun found => ?_
  cases found with
  | false => exact preserves_pure ()
  | true =>
    refine preserves_bind (emptyHanded_perform trivial) fun delivered => ?_
    cases delivered with
    | true => exact preserves_pure ()
    | false => exact emptyHanded_note _

/-- **A batch is stored at once**, whatever a listener is asked to do. -/
theorem Works.handles {l : Listener} (works : Works l t) : Handles t :=
  works.admits emptyHanded_discipline emptyHanded_stepOperation rfl

end Listener

end GroundLink
