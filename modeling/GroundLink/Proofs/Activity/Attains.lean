import GroundLink.Proofs.Activity.Halts
import Mathlib.Algebra.GroupWithZero.Nat

/-!
# Runs within a budget

A world answers every effect, and every deed has a charge.  `Activity.Attains` says that an activity
comes to an end that `Q` admits, unless what it does before costs more than a budget.  So a loop
needs no measure of its own: it is enough that every round costs something, or makes something
smaller for free (`Routine.Attains.iterate`).

A world leaves an activity only one run (`Activity.Reaches.split_done`).  So what an activity
attains holds of every whole run within the budget (`Routine.Attains.of_completes`), and an activity
that never gets over its budget ends (`Routine.Attains.ends`).  A loop whose rounds all ask for
another round does not (`Routine.not_halts_iterate`).
-/

namespace GroundLink

def Trace.cost {σ : Type} (charge : Deed σ → Nat) (t : Trace σ) : Nat := (t.map charge).sum

theorem Trace.cost_append {σ : Type} (charge : Deed σ → Nat) (t u : Trace σ) :
    cost charge (t ++ u) = cost charge t + cost charge u := by
  rw [cost, cost, cost, List.map_append, List.sum_append]

theorem Trace.cost_zero {σ : Type} (t : Trace σ) : cost (fun _ => 0) t = 0 := by
  induction t with
  | nil => rfl
  | cons d t ih => exact (Nat.zero_add _).trans ih

namespace Activity

variable {σ α β : Type} {world : Trace σ → (effect : Effect) → effect.Answer}
  {charge : Deed σ → Nat} {budget : Nat}

/-! ### The only run in a world -/

/-- **A world leaves only one run**: whatever is done of it leads to its end. -/
theorem Reaches.split_done {a b : Activity σ α} {p t u : Trace σ} {x : α}
    (run : Reaches a t (.done x)) (follows : Follows world p t) (part : Reaches a u b)
    (follows' : Follows world p u) : ∃ v, t = u ++ v ∧ Reaches b v (.done x) := by
  -- The induction is on what is done; the whole run starts with the same deeds.
  induction part generalizing p t with
  | refl a => exact ⟨t, rfl, run⟩
  | @act mark effect next u b answer _ ih =>
    cases run with
    | act answer' rest =>
      obtain ⟨hanswer, hrest⟩ := follows
      obtain ⟨hanswer', hrest'⟩ := follows'
      obtain rfl : answer' = answer := hanswer.trans hanswer'.symm
      obtain ⟨v, rfl, hend⟩ := ih rest hrest hrest'
      exact ⟨v, rfl, hend⟩
  | loop _ ih =>
    cases run with
    | loop rest => exact ih rest follows follows'

/-- Two whole runs in a world are the same. -/
theorem Reaches.unique {a : Activity σ α} {p t u : Trace σ} {x y : α}
    (run : Reaches a t (.done x)) (follows : Follows world p t) (run' : Reaches a u (.done y))
    (follows' : Follows world p u) : u = t ∧ y = x := by
  obtain ⟨v, rfl, hend⟩ := run.split_done follows run' follows'
  cases hend
  exact ⟨(List.append_nil u).symm, rfl⟩

/-! ### What is attained -/

/-- After the deeds `p`, the activity comes in a world to a result that `Q` admits, with what it did
until then, unless that costs more than the budget. -/
def Attains (world : Trace σ → (effect : Effect) → effect.Answer) (charge : Deed σ → Nat)
    (budget : Nat) (a : Activity σ α) (Q : α → Trace σ → Prop) (p : Trace σ) : Prop :=
  ∃ t b, Reaches a t b ∧ Follows world p t ∧
    (budget < Trace.cost charge (p ++ t) ∨ ∃ x, b = .done x ∧ Q x t)

namespace Attains

theorem done {x : α} {Q : α → Trace σ → Prop} {p : Trace σ} (h : Q x []) :
    Attains world charge budget (.done x) Q p :=
  ⟨[], _, .refl _, trivial, .inr ⟨x, rfl, h⟩⟩

theorem act {mark : σ} {effect : Effect} {next : effect.Answer → Activity σ α}
    {Q : α → Trace σ → Prop} {p : Trace σ}
    (h : Attains world charge budget (next (world p effect))
      (fun x t => Q x (⟨mark, effect, world p effect⟩ :: t))
      (p ++ [⟨mark, effect, world p effect⟩])) :
    Attains world charge budget (.act mark effect next) Q p := by
  obtain ⟨t, b, run, follows, hend⟩ := h
  rw [List.append_assoc] at hend
  exact ⟨_ :: t, b, .act _ run, ⟨rfl, follows⟩, hend⟩

theorem bind {a : Activity σ α} {f : α → Activity σ β} {Q : α → Trace σ → Prop}
    {R : β → Trace σ → Prop} {p : Trace σ} (first : Attains world charge budget a Q p)
    (second : ∀ x t, Q x t →
      Attains world charge budget (f x) (fun y u => R y (t ++ u)) (p ++ t)) :
    Attains world charge budget (a.bind f) R p := by
  obtain ⟨t, b, run, follows, hover | ⟨x, rfl, hQ⟩⟩ := first
  · exact ⟨t, b.bind f, run.bind f, follows, .inl hover⟩
  · obtain ⟨u, c, rest, follows', hend⟩ := second x t hQ
    rw [List.append_assoc] at hend
    exact ⟨t ++ u, c, (run.bind f).trans rest, follows.append follows', hend⟩

/-- **A loop attains what its rounds attain**, if every round that is followed by another one costs
something, or makes something smaller. -/
theorem loop {ι γ : Type} {body : ι → Activity σ (ι ⊕ γ)} {next : γ → Activity σ α}
    {Q : α → Trace σ → Prop} {p : Trace σ} (Inv : ι → Trace σ → Prop)
    (size : ι → Trace σ → Nat)
    (round : ∀ i t, Inv i t → Attains world charge budget (body i)
      (Sum.elim
        (fun j u => Inv j (t ++ u) ∧ (0 < Trace.cost charge u ∨ size j (t ++ u) < size i t))
        (fun x u => Attains world charge budget (next x) (fun y v => Q y (t ++ u ++ v))
          (p ++ (t ++ u)))) (p ++ t))
    {start : ι} (h : Inv start []) : Attains world charge budget (.loop start body next) Q p := by
  -- The induction is on what is left of the budget, then on the size; the rounds did `t` so far.
  have main : ∀ (left n : Nat) i t, Inv i t →
      budget + 1 - Trace.cost charge (p ++ t) = left → size i t = n →
      Attains world charge budget (.loop i body next) (fun x u => Q x (t ++ u)) (p ++ t) := by
    intro left
    induction left using Nat.strongRecOn with
    | ind left ihLeft =>
      intro n
      induction n using Nat.strongRecOn with
      | ind n ihSize =>
        intro i t hi hleft hsize
        obtain ⟨u, b, run, follows, hover | ⟨r, rfl, hr⟩⟩ := round i t hi
        · exact ⟨u, _, .loop (run.bind _), follows, .inl hover⟩
        · have hround : Reaches ((body i).bind (afterRound body next)) u
              (afterRound body next r) := run.bind (afterRound body next)
          -- What follows the round is attained after its deeds.
          have hrest : Attains world charge budget (afterRound body next r)
              (fun x v => Q x (t ++ u ++ v)) (p ++ (t ++ u)) := by
            cases r with
            | inr x => exact hr
            | inl j =>
              obtain ⟨hinv, hless⟩ := hr
              have hcost : Trace.cost charge (p ++ (t ++ u)) =
                  Trace.cost charge (p ++ t) + Trace.cost charge u := by
                rw [← List.append_assoc, Trace.cost_append]
              by_cases hover : budget < Trace.cost charge (p ++ (t ++ u))
              · refine ⟨[], _, .refl _, trivial, .inl ?_⟩
                rw [List.append_nil]
                exact hover
              · by_cases hfree : Trace.cost charge u = 0
                · exact ihSize (size j (t ++ u)) (by omega) j (t ++ u) hinv (by omega) rfl
                · exact ihLeft _ (by omega) (size j (t ++ u)) j (t ++ u) hinv rfl rfl
          obtain ⟨v, c, rest, follows', hend⟩ := hrest
          rw [← List.append_assoc] at follows'
          refine ⟨u ++ v, c, .loop (hround.trans rest), follows.append follows', ?_⟩
          simpa only [List.append_assoc] using hend
  have hmain := main _ _ start [] h rfl rfl
  rw [List.append_nil] at hmain
  exact hmain

/-- What an activity attains holds of every whole run within the budget. -/
theorem of_done {a : Activity σ α} {Q : α → Trace σ → Prop} {p t : Trace σ} {x : α}
    (h : Attains world charge budget a Q p) (run : Reaches a t (.done x))
    (follows : Follows world p t) (within : Trace.cost charge (p ++ t) ≤ budget) : Q x t := by
  obtain ⟨u, b, part, follows', hend⟩ := h
  obtain ⟨v, rfl, hrest⟩ := run.split_done follows part follows'
  rcases hend with hover | ⟨y, rfl, hQ⟩
  · rw [← List.append_assoc, Trace.cost_append] at within
    omega
  · cases hrest
    rw [List.append_nil]
    exact hQ

/-- An activity that never gets over its budget comes to its end. -/
theorem ends {a : Activity σ α} {Q : α → Trace σ → Prop} {p : Trace σ}
    (h : Attains world charge budget a Q p)
    (within : ∀ t b, Reaches a t b → Follows world p t → Trace.cost charge (p ++ t) ≤ budget) :
    ∃ t x, Reaches a t (.done x) ∧ Follows world p t ∧ Q x t := by
  obtain ⟨t, b, run, follows, hover | ⟨x, rfl, hQ⟩⟩ := h
  · exact absurd (within t b run follows) (Nat.not_le.mpr hover)
  · exact ⟨t, x, run, follows, hQ⟩

end Attains

/-! ### Loops without an end -/

/-- **A loop never ends** if all its rounds do something and ask for another round. -/
theorem not_halts_loop {ι γ : Type} {body : ι → Activity σ (ι ⊕ γ)} {next : γ → Activity σ α}
    {p : Trace σ} (Inv : ι → Trace σ → Prop)
    (round : ∀ i t, Inv i t → ∃ u j, Reaches (body i) u (.done (.inl j)) ∧
      Follows world (p ++ t) u ∧ u ≠ [] ∧ Inv j (t ++ u))
    {start : ι} (h : Inv start []) : ¬ Halts world (.loop start body next) p := by
  -- The induction is on the deeds of a whole run: the first round takes some of them away.
  have main : ∀ (n : Nat) i t v x, Inv i t → v.length = n → Follows world (p ++ t) v →
      ¬ Reaches (.loop i body next) v (.done x) := by
    intro n
    induction n using Nat.strongRecOn with
    | ind n ih =>
      intro i t v x hi hn follows run
      cases run with
      | loop rest =>
        obtain ⟨v₁, r, v₂, rfl, first, second⟩ := rest.done_of_bind
        obtain ⟨follows₁, follows₂⟩ := follows.of_append
        obtain ⟨u, j, run, follows', busy, hinv⟩ := round i t hi
        obtain ⟨rfl, rfl⟩ := run.unique follows' first follows₁
        have hlength : 0 < v₁.length := List.length_pos_iff.mpr busy
        rw [List.append_assoc] at follows₂
        rw [List.length_append] at hn
        exact ih v₂.length (by omega) j (t ++ v₁) v₂ x hinv rfl follows₂ second
  rintro ⟨v, x, run, follows⟩
  rw [← List.append_nil p] at follows
  exact main _ start [] v x h rfl follows run

end Activity

/-! ### Routines -/

namespace Routine

variable {σ α β : Type} {world : Trace σ → (effect : Effect) → effect.Answer}
  {charge : Deed σ → Nat} {budget : Nat} {p t : Trace σ} {s s' : σ}

/-- After the deeds `p` and in the state `s`, the routine comes in a world to a result and a state
that `Q` admits, with what it did until then, unless that costs more than the budget. -/
def Attains (world : Trace σ → (effect : Effect) → effect.Answer) (charge : Deed σ → Nat)
    (budget : Nat) (m : Routine σ α) (Q : α → Trace σ → σ → Prop) (p : Trace σ) (s : σ) : Prop :=
  Activity.Attains world charge budget (m s) (fun r t => Q r.1 t r.2) p

theorem attains_pure {x : α} {Q : α → Trace σ → σ → Prop} (h : Q x [] s) :
    Attains world charge budget (pure x) Q p s :=
  Activity.Attains.done h

theorem attains_modify {f : σ → σ} {Q : PUnit → Trace σ → σ → Prop} (h : Q ⟨⟩ [] (f s)) :
    Attains world charge budget (modify f) Q p s :=
  Activity.Attains.done h

theorem attains_perform {effect : Effect} {Q : effect.Answer → Trace σ → σ → Prop}
    (h : Q (world p effect) [⟨s, effect, world p effect⟩] s) :
    Attains world charge budget (perform effect) Q p s :=
  Activity.Attains.act (Activity.Attains.done h)

theorem attains_get_bind {f : σ → Routine σ α} {Q : α → Trace σ → σ → Prop}
    (h : Attains world charge budget (f s) Q p s) : Attains world charge budget (get >>= f) Q p s :=
  h

theorem attains_set_bind {f : PUnit → Routine σ α} {Q : α → Trace σ → σ → Prop}
    (h : Attains world charge budget (f ⟨⟩) Q p s') :
    Attains world charge budget (set s' >>= f) Q p s :=
  h

theorem attains_modify_bind {f : σ → σ} {g : PUnit → Routine σ α} {Q : α → Trace σ → σ → Prop}
    (h : Attains world charge budget (g ⟨⟩) Q p (f s)) :
    Attains world charge budget (modify f >>= g) Q p s :=
  h

theorem attains_perform_bind {effect : Effect} {f : effect.Answer → Routine σ α}
    {Q : α → Trace σ → σ → Prop}
    (h : Attains world charge budget (f (world p effect))
      (fun x t s' => Q x (⟨s, effect, world p effect⟩ :: t) s')
      (p ++ [⟨s, effect, world p effect⟩]) s) :
    Attains world charge budget (perform effect >>= f) Q p s :=
  Activity.Attains.act h

theorem attains_elapsedSince_bind {reading : Span} {f : Span → Routine σ α}
    {Q : α → Trace σ → σ → Prop}
    (h : Attains world charge budget (f (world p .now - reading))
      (fun x t s' => Q x (⟨s, .now, world p .now⟩ :: t) s') (p ++ [⟨s, .now, world p .now⟩]) s) :
    Attains world charge budget (elapsedSince reading >>= f) Q p s :=
  Activity.Attains.act h

namespace Attains

theorem bind {m : Routine σ α} {f : α → Routine σ β} {Q : α → Trace σ → σ → Prop}
    {R : β → Trace σ → σ → Prop} (first : Attains world charge budget m Q p s)
    (second : ∀ x t s', Q x t s' →
      Attains world charge budget (f x) (fun y u s'' => R y (t ++ u) s'') (p ++ t) s') :
    Attains world charge budget (m >>= f) R p s :=
  Activity.Attains.bind first fun r t hQ => second r.1 t r.2 hQ

theorem mono {m : Routine σ α} {Q R : α → Trace σ → σ → Prop}
    (h : Attains world charge budget m Q p s) (hQR : ∀ x t s', Q x t s' → R x t s') :
    Attains world charge budget m R p s := by
  obtain ⟨t, b, run, follows, hend⟩ := h
  refine ⟨t, b, run, follows, hend.imp_right ?_⟩
  rintro ⟨r, hr, hQ⟩
  exact ⟨r, hr, hQR r.1 t r.2 hQ⟩

/-- **A loop of a routine attains what its rounds attain**, if every round that is followed by
another one costs something, or makes something smaller that may depend on all that was done. -/
theorem iterate_shrinking {ι : Type} {body : ι → Routine σ (ι ⊕ α)} {Q : α → Trace σ → σ → Prop}
    (Inv : ι → Trace σ → σ → Prop) (size : ι → Trace σ → σ → Nat)
    (round : ∀ i t s, Inv i t s → Attains world charge budget (body i)
      (Sum.elim
        (fun j u s' => Inv j (t ++ u) s' ∧
          (0 < Trace.cost charge u ∨ size j (t ++ u) s' < size i t s))
        (fun x u s' => Q x (t ++ u) s')) (p ++ t) s)
    {start : ι} (h : Inv start [] s) :
    Attains world charge budget (Routine.iterate start body) Q p s := by
  refine Activity.Attains.loop (fun i t => Inv i.1 t i.2) (fun i t => size i.1 t i.2) ?_ h
  rintro ⟨i, s'⟩ t hi
  refine Activity.Attains.bind (round i t s' hi) ?_
  -- What the loop makes of the result of a round is no deed.
  rintro ⟨j | x, s''⟩ u hr
  · refine Activity.Attains.done ?_
    rw [List.append_nil]
    exact hr
  · refine Activity.Attains.done (Activity.Attains.done ?_)
    rw [List.append_nil, List.append_nil]
    exact hr

/-- A loop of a routine whose rounds make something smaller that depends on where they start. -/
theorem iterate {ι : Type} {body : ι → Routine σ (ι ⊕ α)} {Q : α → Trace σ → σ → Prop}
    (Inv : ι → Trace σ → σ → Prop) (size : ι → σ → Nat)
    (round : ∀ i t s, Inv i t s → Attains world charge budget (body i)
      (Sum.elim
        (fun j u s' => Inv j (t ++ u) s' ∧ (0 < Trace.cost charge u ∨ size j s' < size i s))
        (fun x u s' => Q x (t ++ u) s')) (p ++ t) s)
    {start : ι} (h : Inv start [] s) :
    Attains world charge budget (Routine.iterate start body) Q p s :=
  iterate_shrinking Inv (fun i _ s => size i s) round h

/-- What a routine attains holds of every whole run within the budget. -/
theorem of_completes {m : Routine σ α} {Q : α → Trace σ → σ → Prop} {x : α}
    (h : Attains world charge budget m Q p s) (run : m.Completes s t x s')
    (follows : Activity.Follows world p t) (within : Trace.cost charge (p ++ t) ≤ budget) :
    Q x t s' :=
  Activity.Attains.of_done h run follows within

/-- A routine that never gets over its budget comes to its end. -/
theorem ends {m : Routine σ α} {Q : α → Trace σ → σ → Prop}
    (h : Attains world charge budget m Q p s)
    (within : ∀ t b, Activity.Reaches (m s) t b → Activity.Follows world p t →
      Trace.cost charge (p ++ t) ≤ budget) :
    ∃ t x s', m.Completes s t x s' ∧ Activity.Follows world p t ∧ Q x t s' := by
  obtain ⟨t, r, run, follows, hQ⟩ := Activity.Attains.ends h within
  exact ⟨t, r.1, r.2, run, follows, hQ⟩

/-- If nothing is charged, a routine comes to its end. -/
theorem ends_free {m : Routine σ α} {Q : α → Trace σ → σ → Prop}
    (h : Attains world (fun _ => 0) 0 m Q p s) :
    ∃ t x s', m.Completes s t x s' ∧ Activity.Follows world p t ∧ Q x t s' :=
  h.ends fun t _ _ _ => Nat.le_of_eq (Trace.cost_zero (p ++ t))

end Attains

/-! ### Routines without an end -/

theorem not_halts_of_first {m : Routine σ α} {f : α → Routine σ β} (h : ¬ Halts world m p s) :
    ¬ Halts world (m >>= f) p s := by
  rintro ⟨t, y, run, follows⟩
  obtain ⟨t₁, x, t₂, rfl, first, -⟩ := Activity.Reaches.done_of_bind run
  exact h ⟨t₁, x, first, follows.of_append.1⟩

theorem not_halts_of_second {m : Routine σ α} {f : α → Routine σ β} {x : α}
    (first : m.Completes s t x s') (follows : Activity.Follows world p t)
    (h : ¬ Halts world (f x) (p ++ t) s') : ¬ Halts world (m >>= f) p s := by
  rintro ⟨u, y, run, follows'⟩
  obtain ⟨u₁, r, u₂, rfl, first', second⟩ := Activity.Reaches.done_of_bind run
  obtain ⟨follows₁, follows₂⟩ := follows'.of_append
  obtain ⟨rfl, rfl⟩ := Activity.Reaches.unique first follows first' follows₁
  exact h ⟨u₂, y, second, follows₂⟩

/-- **A loop of a routine never ends** if all its rounds do something and ask for another round. -/
theorem not_halts_iterate {ι : Type} {body : ι → Routine σ (ι ⊕ α)}
    (Inv : ι → Trace σ → σ → Prop)
    (round : ∀ i t s, Inv i t s → ∃ u j s', (body i).Completes s u (.inl j) s' ∧
      Activity.Follows world (p ++ t) u ∧ u ≠ [] ∧ Inv j (t ++ u) s')
    {start : ι} (h : Inv start [] s) : ¬ Halts world (Routine.iterate start body) p s := by
  refine Activity.not_halts_loop (fun i t => Inv i.1 t i.2) ?_ h
  rintro ⟨i, s'⟩ t hi
  obtain ⟨u, j, s'', run, follows, busy, hinv⟩ := round i t s' hi
  exact ⟨u, (j, s''), run.bind _, follows, busy, hinv⟩

end Routine

end GroundLink
