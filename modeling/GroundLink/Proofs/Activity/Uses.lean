import GroundLink.Proofs.Activity.Halts

/-!
# The effects of a routine

`Routine.Uses P m` says that a routine comes to no effects but those of a kind `P`, whatever the
world answers.  `Routine.Plain P m` says so of a routine without loops, which therefore ends, too
(`Routine.Plain.loopFree`).  Most routines are plain, and the others are loops around plain ones.
-/

namespace GroundLink

namespace Activity

variable {σ α β : Type} {P : Effect → Prop}

/-- An activity without loops that only comes to effects of a kind. -/
inductive Plain (P : Effect → Prop) : Activity σ α → Prop
  | done (x : α) : Plain P (.done x)
  | act {mark : σ} {effect : Effect} {next : effect.Answer → Activity σ α} (used : P effect)
      (rest : ∀ answer, Plain P (next answer)) : Plain P (.act mark effect next)

namespace Plain

theorem bind {a : Activity σ α} {f : α → Activity σ β} (first : Plain P a)
    (second : ∀ x, Plain P (f x)) : Plain P (a.bind f) := by
  induction first with
  | done x => exact second x
  | act used _ ih => exact .act used ih

theorem loopFree {a : Activity σ α} (plain : Plain P a) : LoopFree a := by
  induction plain with
  | done x => exact .done x
  | act _ _ ih => exact .act ih

/-- **A plain activity ends**, whatever the world. -/
theorem halts {world : Trace σ → (effect : Effect) → effect.Answer} {a : Activity σ α}
    (plain : Plain P a) (p : Trace σ) : Halts world a p :=
  plain.loopFree.halts p

theorem secures {a : Activity σ α} (plain : Plain P a) (p : Trace σ) :
    Secures (fun _ _ effect => P effect) a (fun _ _ => True) p := by
  induction plain generalizing p with
  | done x => exact Secures.done_iff.mpr trivial
  | act used _ ih => exact Secures.act_iff.mpr ⟨used, fun answer => ih answer _⟩

end Plain

end Activity

namespace Routine

variable {σ α β : Type} {P : Effect → Prop}

/-! ### Plain routines -/

def Plain (P : Effect → Prop) (m : Routine σ α) : Prop := ∀ s, (m s).Plain P

theorem Plain.loopFree {m : Routine σ α} (plain : Plain P m) : LoopFree m :=
  fun s => (plain s).loopFree

theorem plain_pure (x : α) : Plain P (pure x : Routine σ α) := fun _ => .done _

theorem plain_bind {m : Routine σ α} {f : α → Routine σ β} (first : Plain P m)
    (second : ∀ x, Plain P (f x)) : Plain P (m >>= f) :=
  fun s => (first s).bind fun r => second r.1 r.2

theorem plain_get : Plain P (get : Routine σ σ) := fun _ => .done _

theorem plain_set (s : σ) : Plain P (set s : Routine σ PUnit) := fun _ => .done _

theorem plain_modify (f : σ → σ) : Plain P (modify f : Routine σ PUnit) := fun _ => .done _

theorem plain_perform {effect : Effect} (used : P effect) :
    Plain P (perform effect : Routine σ effect.Answer) :=
  fun _ => .act used fun _ => .done _

theorem plain_log {entries : List Log.Entry} (used : P (.log entries)) :
    Plain P (log entries : Routine σ Unit) := by
  unfold log
  split
  · exact plain_pure ()
  · exact plain_perform used

theorem plain_elapsedSince (used : P .now) (reading : Span) :
    Plain P (elapsedSince reading : Routine σ Span) :=
  plain_bind (plain_perform used) fun _ => plain_pure _

/-! ### Routines with loops -/

def Uses (P : Effect → Prop) (m : Routine σ α) : Prop :=
  ∀ p s, Secures (fun _ _ effect => P effect) m (fun _ _ _ => True) p s

theorem Plain.uses {m : Routine σ α} (plain : Plain P m) : Uses P m :=
  fun p s => (plain s).secures p

theorem uses_bind {m : Routine σ α} {f : α → Routine σ β} (first : Uses P m)
    (second : ∀ x, Uses P (f x)) : Uses P (m >>= f) :=
  fun p s => Secures.bind_iff.mpr <| (first p s).mono fun x q s' _ => second x q s'

theorem uses_iterate {ι : Type} {body : ι → Routine σ (ι ⊕ α)} (rounds : ∀ i, Uses P (body i))
    (start : ι) : Uses P (Routine.iterate start body) := by
  intro p s
  refine Secures.iterate (fun _ _ _ => True) (fun i q s' _ => ?_) trivial
  refine (rounds i q s').mono fun x _ _ _ => ?_
  cases x with
  | inl => trivial
  | inr => trivial

/-- **Every deed of a run is of that kind.** -/
theorem Uses.of_reaches {m : Routine σ α} (uses : Uses P m) {s : σ} {t : Trace σ}
    {b : Activity σ (α × σ)} (run : Activity.Reaches (m s) t b) : ∀ d ∈ t, P d.effect := by
  intro d hd
  obtain ⟨q, r, rfl⟩ := List.append_of_mem hd
  exact Activity.Secures.of_split (uses [] s) run

end Routine

end GroundLink
