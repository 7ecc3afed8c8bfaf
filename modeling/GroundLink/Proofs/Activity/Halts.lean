import GroundLink.Proofs.Activity.Secures

/-!
# Runs that end

A world answers every effect, given the deeds so far.  `Activity.Halts world a p` says that after
the deeds `p`, the activity `a` comes to its end in that world.

An activity without loops always ends (`Activity.LoopFree.halts`).  A loop ends if its rounds do,
and if something gets smaller with every round that is followed by another one
(`Routine.Halts.iterate`).  What the rounds do is known from the theory of `Routine.Secures`, so
that nothing has to be followed step by step again.
-/

namespace GroundLink

namespace Activity

variable {σ α β : Type} {world : Trace σ → (effect : Effect) → effect.Answer}

/-- **A whole run of two activities one after the other** is a whole run of each. -/
theorem Reaches.done_of_bind {a : Activity σ α} {f : α → Activity σ β} {t : Trace σ} {y : β}
    (run : Reaches (a.bind f) t (.done y)) :
    ∃ t₁ x t₂, t = t₁ ++ t₂ ∧ Reaches a t₁ (.done x) ∧ Reaches (f x) t₂ (.done y) := by
  rcases run.of_bind with ⟨b, first, hb⟩ | split
  · cases b with
    | done x =>
      rw [bind_done] at hb
      refine ⟨t, x, [], (List.append_nil t).symm, first, ?_⟩
      rw [← hb]
      exact .refl _
    | act => cases hb
    | loop => cases hb
  · exact split

/-! ### Worlds -/

/-- After the deeds `p`, the deeds `t` get the answers of a world. -/
def Follows (world : Trace σ → (effect : Effect) → effect.Answer) : Trace σ → Trace σ → Prop
  | _, [] => True
  | p, d :: t => d.answer = world p d.effect ∧ Follows world (p ++ [d]) t

theorem Follows.append {p t u : Trace σ} (first : Follows world p t)
    (second : Follows world (p ++ t) u) : Follows world p (t ++ u) := by
  induction t generalizing p with
  | nil =>
    rw [List.append_nil] at second
    exact second
  | cons d t ih =>
    obtain ⟨answer, rest⟩ := first
    refine ⟨answer, ih rest ?_⟩
    rw [List.append_assoc]
    exact second

theorem Follows.of_append {p t u : Trace σ} (h : Follows world p (t ++ u)) :
    Follows world p t ∧ Follows world (p ++ t) u := by
  induction t generalizing p with
  | nil =>
    rw [List.append_nil]
    exact ⟨trivial, h⟩
  | cons d t ih =>
    obtain ⟨answer, rest⟩ := h
    obtain ⟨first, second⟩ := ih rest
    rw [List.append_assoc] at second
    exact ⟨⟨answer, first⟩, second⟩

/-- Every deed gets the answer of the world. -/
theorem Follows.answer_eq {p t q r : Trace σ} {d : Deed σ} (h : Follows world p t)
    (ht : t = q ++ d :: r) : d.answer = world (p ++ q) d.effect := by
  induction q generalizing p t with
  | nil =>
    subst ht
    rw [List.append_nil]
    exact h.1
  | cons e q ih =>
    subst ht
    have hrest := ih h.2 rfl
    rw [List.append_assoc] at hrest
    exact hrest

/-- What is played gets the answers of the world. -/
theorem follows_play (world : Trace σ → (effect : Effect) → effect.Answer) (n : Nat) (p : Trace σ)
    (a : Activity σ α) : Follows world p (play world n p a).1 := by
  induction n generalizing p α with
  | zero => exact trivial
  | succ n ih =>
    cases a with
    | done x => exact trivial
    | act mark effect next => exact ⟨rfl, ih _ _⟩
    | loop start body next => exact ih _ _

/-- After the deeds `p`, the activity ends in a world. -/
def Halts (world : Trace σ → (effect : Effect) → effect.Answer) (a : Activity σ α)
    (p : Trace σ) : Prop :=
  ∃ t x, Reaches a t (.done x) ∧ Follows world p t

theorem Halts.bind {a : Activity σ α} {f : α → Activity σ β} {p : Trace σ} (first : Halts world a p)
    (second : ∀ t x, Reaches a t (.done x) → Follows world p t → Halts world (f x) (p ++ t)) :
    Halts world (a.bind f) p := by
  obtain ⟨t, x, run, follows⟩ := first
  obtain ⟨u, y, rest, follows'⟩ := second t x run follows
  exact ⟨t ++ u, y, (run.bind f).trans rest, follows.append follows'⟩

/-! ### Activities without loops -/

/-- An activity without loops. -/
inductive LoopFree : Activity σ α → Prop
  | done (x : α) : LoopFree (.done x)
  | act {mark : σ} {effect : Effect} {next : effect.Answer → Activity σ α}
      (rest : ∀ answer, LoopFree (next answer)) : LoopFree (.act mark effect next)

theorem LoopFree.bind {a : Activity σ α} {f : α → Activity σ β} (first : LoopFree a)
    (second : ∀ x, LoopFree (f x)) : LoopFree (a.bind f) := by
  induction first with
  | done x => exact second x
  | act _ ih => exact .act ih

/-- **An activity without loops ends**, whatever the world. -/
theorem LoopFree.halts {a : Activity σ α} (free : LoopFree a) (p : Trace σ) : Halts world a p := by
  induction free generalizing p with
  | done x => exact ⟨[], x, .refl _, trivial⟩
  | @act mark effect next _ ih =>
    obtain ⟨t, x, run, follows⟩ := ih (world p effect) (p ++ [⟨mark, effect, world p effect⟩])
    exact ⟨_ :: t, x, .act _ run, rfl, follows⟩

/-! ### Loops -/

/-- **A loop ends** if its rounds end and something gets smaller with every round that is followed
by another one. -/
theorem Halts.loop {ι γ : Type} {body : ι → Activity σ (ι ⊕ γ)} {next : γ → Activity σ α}
    (Inv : ι → Trace σ → Prop) (size : ι → Trace σ → Nat)
    (halts : ∀ i p, Inv i p → Halts world (body i) p)
    (again : ∀ i p t j, Inv i p → Reaches (body i) t (.done (.inl j)) → Follows world p t →
      Inv j (p ++ t) ∧ size j (p ++ t) < size i p)
    (after : ∀ i p t x, Inv i p → Reaches (body i) t (.done (.inr x)) → Follows world p t →
      Halts world (next x) (p ++ t))
    {start : ι} {p : Trace σ} (h : Inv start p) : Halts world (.loop start body next) p := by
  -- The induction is on the size, which every round makes smaller.
  induction hn : size start p using Nat.strongRecOn generalizing start p with
  | ind n ih =>
    obtain ⟨t, r, round, follows⟩ := halts start p h
    have hround : Reaches ((body start).bind (afterRound body next)) t (afterRound body next r) :=
      round.bind (afterRound body next)
    cases r with
    | inl j =>
      obtain ⟨hinv, hless⟩ := again start p t j h round follows
      obtain ⟨u, x, rest, follows'⟩ := ih (size j (p ++ t)) (hn ▸ hless) hinv rfl
      exact ⟨t ++ u, x, .loop (hround.trans rest), follows.append follows'⟩
    | inr x =>
      obtain ⟨u, y, rest, follows'⟩ := after start p t x h round follows
      exact ⟨t ++ u, y, .loop (hround.trans rest), follows.append follows'⟩

end Activity

/-! ### Routines -/

namespace Routine

variable {σ α β : Type} {world : Trace σ → (effect : Effect) → effect.Answer} {p : Trace σ} {s : σ}

def LoopFree (m : Routine σ α) : Prop := ∀ s, (m s).LoopFree

theorem loopFree_pure (x : α) : LoopFree (pure x : Routine σ α) := fun _ => .done _

theorem loopFree_bind {m : Routine σ α} {f : α → Routine σ β} (first : LoopFree m)
    (second : ∀ x, LoopFree (f x)) : LoopFree (m >>= f) :=
  fun s => Activity.LoopFree.bind (first s) fun r => second r.1 r.2

theorem loopFree_modify (f : σ → σ) : LoopFree (modify f : Routine σ PUnit) := fun _ => .done _

theorem loopFree_perform (effect : Effect) :
    LoopFree (perform effect : Routine σ effect.Answer) :=
  fun _ => .act fun _ => .done _

def Halts (world : Trace σ → (effect : Effect) → effect.Answer) (m : Routine σ α) (p : Trace σ)
    (s : σ) : Prop :=
  Activity.Halts world (m s) p

namespace Halts

theorem bind {m : Routine σ α} {f : α → Routine σ β} (first : Halts world m p s)
    (second : ∀ t x s', m.Completes s t x s' → Activity.Follows world p t →
      Halts world (f x) (p ++ t) s') : Halts world (m >>= f) p s :=
  Activity.Halts.bind first fun t r run follows => second t r.1 r.2 run follows

/-- **A loop of a routine ends** if its rounds have no loops and something gets smaller with every
round that is followed by another one. -/
theorem iterate {ι : Type} {body : ι → Routine σ (ι ⊕ α)} (Inv : ι → Trace σ → σ → Prop)
    (size : ι → Trace σ → σ → Nat) (free : ∀ i, LoopFree (body i))
    (again : ∀ i p s t j s', Inv i p s → (body i).Completes s t (.inl j) s' →
      Activity.Follows world p t → Inv j (p ++ t) s' ∧ size j (p ++ t) s' < size i p s)
    {start : ι} (h : Inv start p s) : Halts world (Routine.iterate start body) p s := by
  refine Activity.Halts.loop (fun i q => Inv i.1 q i.2) (fun i q => size i.1 q i.2) ?_ ?_ ?_ h
  · rintro ⟨i, s'⟩ q -
    refine Activity.LoopFree.halts (Activity.LoopFree.bind (free i s') ?_) q
    rintro ⟨j | x, s''⟩
    · exact .done _
    · exact .done _
  · rintro ⟨i, s'⟩ q t ⟨j, s''⟩ hi round follows
    -- What the loop makes of the result of a round is no deed.
    obtain ⟨t₁, ⟨r, s₁⟩, t₂, rfl, first, second⟩ := round.done_of_bind
    cases r with
    | inl j' =>
      cases second
      rw [List.append_nil] at follows ⊢
      exact again i q s' t₁ j s'' hi first follows
    | inr x => cases second
  · rintro ⟨i, s'⟩ q t ⟨x, s''⟩ - - -
    exact ⟨[], _, .refl _, trivial⟩

end Halts

end Routine

end GroundLink
