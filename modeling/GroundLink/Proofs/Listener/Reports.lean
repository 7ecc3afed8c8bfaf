import GroundLink.Proofs.Listener.Discipline
import Mathlib.Data.List.Induction

/-!
# Reports follow telemetry

A listener reports replies only after it stored a batch in the same step of collecting them, and
once for each step.  So whatever it is asked to do, and whenever requests interrupt it, it never
reported more often than it stored batches (`Listener.Works.ahead`), and every report was made in a
step that had stored a batch by then (`Listener.Works.reported`).

Both follow from one invariant with a slack: `Listener.Ahead k` says that the batches that were
stored are ahead of the reports by `k`.  Collecting a sequence of telemetry makes the slack `1`, and
the report uses it up.
-/

namespace GroundLink

/-- Whether a deed appends a batch to the telemetry queue. -/
def Deed.isStore (d : Deed Listener) : Bool :=
  match d.effect with
  | .store _ => true
  | _ => false

/-- Whether a deed reports that replies were received. -/
def Deed.isReport (d : Deed Listener) : Bool :=
  match d.effect with
  | .reportReply => true
  | _ => false

namespace Listener

open Activity (Reaches)
open Routine (Secures)

def stores (t : Trace Listener) : Nat := t.countP Deed.isStore

def reports (t : Trace Listener) : Nat := t.countP Deed.isReport

/-- The batches that were stored are ahead of the reports by `k` at least. -/
def Ahead (k : Nat) (p : Trace Listener) : Prop := reports p + k ≤ stores p

/-- A report that is about to be made, in the state `s`, in the middle of a step that has stored a
batch: the last deeds are those of the step so far. -/
def StoredInStep (p : Trace Listener) (s : Listener) : Prop :=
  ∃ before step l next, p = before ++ step ∧
    Reaches (stepOperation l) step (.act s .reportReply next) ∧ 0 < stores step

/-- Replies are reported when a batch is ahead, and in the middle of a step that stored one. -/
def Justified (p : Trace Listener) (s : Listener) (effect : Effect) : Prop :=
  effect = .reportReply → Ahead 1 p ∧ StoredInStep p s

variable {G : Trace Listener → Listener → Effect → Prop} {p t : Trace Listener} {s : Listener}
  {d : Deed Listener} {k : Nat}

/-! ### Counting -/

theorem stores_append (t u : Trace Listener) : stores (t ++ u) = stores t + stores u :=
  List.countP_append

theorem reports_append (t u : Trace Listener) : reports (t ++ u) = reports t + reports u :=
  List.countP_append

/-- A deed is a report, or makes none. -/
theorem reports_cases (d : Deed Listener) :
    (d.effect = .reportReply ∧ stores [d] = 0 ∧ reports [d] = 1) ∨ reports [d] = 0 := by
  obtain ⟨mark, effect, answer⟩ := d
  cases effect with
  | reportReply => exact .inl ⟨rfl, rfl, rfl⟩
  | _ => exact .inr rfl

/-- Deeds that are no reports leave the stored batches ahead. -/
theorem Ahead.silent (h : Ahead k p) (silent : reports [d] = 0) :
    Ahead (k + stores [d]) (p ++ [d]) := by
  unfold Ahead at h ⊢
  rw [stores_append, reports_append, silent]
  omega

theorem Ahead.mono (h : Ahead k p) {j : Nat} (hjk : j ≤ k) : Ahead j p := by
  unfold Ahead at h ⊢
  omega

/-- A report uses up the batch that is ahead. -/
theorem Ahead.report (h : Ahead 1 p) (answer : Bool) :
    Ahead 0 (p ++ [⟨s, .reportReply, answer⟩]) := by
  have hone : reports [⟨s, .reportReply, answer⟩] = 1 := rfl
  unfold Ahead at h ⊢
  rw [stores_append, reports_append, hone]
  omega

/-! ### One step of collecting replies -/

section

/- Whatever is admitted, only reports are restricted. -/
variable (free : ∀ p s effect, effect ≠ .reportReply → G p s effect)
include free

/-- **A poll** that receives anything puts one more batch ahead. -/
theorem secures_pollOnce_ahead (h : Ahead k p) :
    Secures G pollOnce (fun received q _ => Ahead (k + received.toNat) q) p s := by
  unfold pollOnce
  refine Secures.bind_iff.mpr (Secures.perform_iff.mpr ⟨free _ _ _ nofun, fun polled => ?_⟩)
  have hpolled := h.silent (d := ⟨s, .poll, polled⟩) rfl
  rcases polled with cause | ⟨received, packets⟩
  · refine Secures.bind_iff.mpr (Secures.perform_iff.mpr ⟨free _ _ _ nofun, fun _ => ?_⟩)
    exact Secures.pure_iff.mpr (hpolled.silent rfl)
  · show Secures G (if (received && !packets.isEmpty) = true then _ else _) _ _ _
    split
    · refine Secures.bind_iff.mpr (Secures.perform_iff.mpr ⟨free _ _ _ nofun, fun _ => ?_⟩)
      exact Secures.pure_iff.mpr (hpolled.silent rfl)
    · exact Secures.pure_iff.mpr hpolled

/-- What is ahead stays ahead, as long as nothing is reported. -/
theorem ahead_discipline (k : Nat) : Discipline G (Ahead k) where
  idles {p s effect} idle h := by
    have hother : effect ≠ .reportReply := by
      rintro rfl
      exact idle
    refine ⟨free p s effect hother, fun answer => ?_⟩
    rcases reports_cases ⟨s, effect, answer⟩ with ⟨hreport, -, -⟩ | hsilent
    · exact absurd hreport hother
    · exact (h.silent hsilent).mono (Nat.le_add_right _ _)
  poll p s h := (secures_pollOnce_ahead free h).mono fun _ _ _ hq => hq.mono (Nat.le_add_right _ _)

/-- **A sequence of telemetry** was received only if a batch of it was stored. -/
theorem secures_readSequence_ahead (h : Ahead 0 p) :
    Secures G readSequence (fun received q _ => Ahead received.toNat q) p s := by
  unfold readSequence
  have keeps : ∀ k, Discipline G (Ahead k) := ahead_discipline free
  refine Secures.bind_iff.mpr (((keeps 0).keeps_now p s h).mono fun start p s h => ?_)
  -- What was received so far put a batch ahead; requests and pauses change nothing.
  refine Secures.iterate (fun received q _ => Ahead received.toNat q) ?_ h
  intro received q s hq
  refine Secures.bind_iff.mpr ((secures_pollOnce_ahead free hq).mono fun polled q s hq => ?_)
  have hreceived : Ahead (polled || received).toNat q := by
    refine hq.mono ?_
    cases polled
    · exact Nat.le_add_right _ _
    · exact Nat.le_add_left _ _
  refine Secures.bind_iff.mpr (Secures.get_iff.mpr (Secures.bind_iff.mpr ?_))
  refine ((keeps _).keeps_elapsedSince start q s hreceived).mono fun time q s hq => ?_
  split
  · exact Secures.pure_iff.mpr hq
  · refine Secures.bind_iff.mpr ?_
    refine ((keeps _).keeps_handleRequests q s hq).mono fun stops q s hq => ?_
    cases stops with
    | true => exact Secures.pure_iff.mpr hq
    | false =>
      refine Secures.bind_iff.mpr (((keeps _).keeps_sleep _ q s hq).mono fun _ q s hq => ?_)
      exact Secures.pure_iff.mpr hq

theorem secures_checkForSequence_ahead (h : Ahead 0 p) :
    Secures G checkForSequence (fun found q _ => Ahead found.toNat q) p s := by
  unfold checkForSequence
  refine Secures.bind_iff.mpr
    (((ahead_discipline free 0).keeps_awaitFirstData p s h).mono fun found q s hq => ?_)
  cases found with
  | true => exact secures_readSequence_ahead free hq
  | false => exact Secures.pure_iff.mpr hq

/-- **A step** that reports replies stored a batch before. -/
theorem ahead_stepOperation (report : ∀ p s, Ahead 1 p → G p s .reportReply) :
    Preserves G (Ahead 0) stepOperation := by
  have keeps : Discipline G (Ahead 0) := ahead_discipline free 0
  refine keeps.keeps_stepOperation fun p s h => Secures.bind_iff.mpr ?_
  refine (secures_checkForSequence_ahead free h).mono fun found q s hq => ?_
  cases found with
  | false => exact Secures.pure_iff.mpr hq
  | true =>
    refine Secures.bind_iff.mpr (Secures.perform_iff.mpr ⟨report q s hq, fun delivered => ?_⟩)
    cases delivered with
    | true => exact Secures.pure_iff.mpr (hq.report true)
    | false => exact keeps.keeps_note _ _ s (hq.report false)

end

/-! ### The whole work -/

/-- In a step, replies are reported as they should be.  What the step did so far is seen by
following it from its own start. -/
theorem justified_stepOperation : Preserves Justified (Ahead 0) stepOperation := by
  intro p s h t b run
  let due : Trace Listener → Listener → Effect → Prop := fun p _ effect =>
    effect = .reportReply → Ahead 1 p
  have hdue : Preserves due (Ahead 0) stepOperation :=
    ahead_stepOperation (fun _ _ _ hother hreport => absurd hreport hother) fun _ _ hq _ => hq
  obtain ⟨hcomes, hends⟩ := hdue p s h t b run
  refine ⟨fun mark effect next hb hreport => ⟨hcomes mark effect next hb hreport, ?_⟩, hends⟩
  subst hreport
  have hown : Ahead 1 t := (hdue [] s (Nat.le_refl 0) t b run).1 mark _ next hb rfl
  refine ⟨p, t, s, next, rfl, hb ▸ run, ?_⟩
  unfold Ahead at hown
  omega

variable {l : Listener}

theorem Works.justified (works : Works l t) :
    ∀ p d q, t = p ++ d :: q → Justified p d.mark d.effect :=
  works.admits (ahead_discipline (fun _ _ _ hother hreport => absurd hreport hother) 0)
    justified_stepOperation (Nat.le_refl 0)

/-- **A report is made only after a batch was stored in the same step**, whatever a listener is
asked to do. -/
theorem Works.reported (works : Works l t) {q : Trace Listener} (split : t = p ++ d :: q)
    (report : d.effect = .reportReply) : StoredInStep p d.mark :=
  (works.justified p d q split report).2

/-- **There are never more reports than batches that were stored**, whatever a listener is asked to
do. -/
theorem Works.ahead (works : Works l t) {q : Trace Listener} (split : t = p ++ q) :
    reports p ≤ stores p := by
  -- The induction is on what the listener did last.
  induction p using List.reverseRecOn generalizing q with
  | nil => exact Nat.le_refl 0
  | append_singleton p d ih =>
    rw [List.append_assoc] at split
    have hbefore : Ahead 0 p := ih split
    rcases reports_cases d with ⟨hreport, hstores, hone⟩ | hsilent
    · have hahead : Ahead 1 p := (works.justified p d q split hreport).1
      unfold Ahead at hahead
      rw [reports_append, stores_append, hone, hstores]
      omega
    · have hafter : Ahead 0 (p ++ [d]) := (hbefore.silent hsilent).mono (Nat.zero_le _)
      exact hafter

end Listener

end GroundLink
