import GroundLink.Proofs.Activity.Run

/-!
# What holds along every run

`Activity.Secures G a Q p` says that after the deeds `p`, the activity `a` only comes to effects
that `G` admits, and only ends with results that `Q` admits.  Both may speak of all the deeds so
far.  `Routine.Secures` is the same for somebody with a state.

There is one rule for each way in which an activity is put together.  All of them but the rule for
loops are equivalences, so that a routine without loops is worked through by rewriting; a loop needs
an invariant (`Routine.Secures.iterate`).
-/

namespace GroundLink

namespace Activity

variable {σ α β : Type} {G : Trace σ → σ → Effect → Prop}

/-- After the deeds `p`, every effect that `a` comes to is admitted by `G`, and every result that it
ends with is admitted by `Q`. -/
def Secures (G : Trace σ → σ → Effect → Prop) (a : Activity σ α) (Q : α → Trace σ → Prop)
    (p : Trace σ) : Prop :=
  ∀ t b, Reaches a t b →
    (∀ mark effect next, b = .act mark effect next → G (p ++ t) mark effect) ∧
    ∀ result, b = .done result → Q result (p ++ t)

namespace Secures

theorem mono {a : Activity σ α} {Q R : α → Trace σ → Prop} {p : Trace σ} (h : Secures G a Q p)
    (hQR : ∀ x q, Q x q → R x q) : Secures G a R p :=
  fun t b run => ⟨(h t b run).1, fun x hx => hQR x _ ((h t b run).2 x hx)⟩

theorem done_iff {x : α} {Q : α → Trace σ → Prop} {p : Trace σ} :
    Secures G (.done x) Q p ↔ Q x p := by
  constructor
  · intro h
    simpa using (h [] _ (.refl _)).2 x rfl
  · intro h t b run
    cases run
    simpa using h

theorem act_iff {mark : σ} {effect : Effect} {next : effect.Answer → Activity σ α}
    {Q : α → Trace σ → Prop} {p : Trace σ} :
    Secures G (.act mark effect next) Q p ↔
      G p mark effect ∧ ∀ answer, Secures G (next answer) Q (p ++ [⟨mark, effect, answer⟩]) := by
  constructor
  · intro h
    refine ⟨by simpa using (h [] _ (.refl _)).1 mark effect next rfl, fun answer t b run => ?_⟩
    simpa using h _ b (.act answer run)
  · rintro ⟨hG, h⟩ t b run
    cases run with
    | refl =>
      refine ⟨fun _ _ _ hb => ?_, by simp⟩
      cases hb
      simpa using hG
    | act answer rest => simpa using h answer _ b rest

theorem loop_iff {ι γ : Type} {start : ι} {body : ι → Activity σ (ι ⊕ γ)}
    {next : γ → Activity σ α} {Q : α → Trace σ → Prop} {p : Trace σ} :
    Secures G (.loop start body next) Q p ↔
      Secures G ((body start).bind (afterRound body next)) Q p := by
  constructor
  · intro h t b run
    exact h t b (.loop run)
  · intro h t b run
    cases run with
    | refl => simp
    | loop rest => exact h t b rest

theorem bind_iff {a : Activity σ α} {f : α → Activity σ β} {Q : β → Trace σ → Prop}
    {p : Trace σ} :
    Secures G (a.bind f) Q p ↔ Secures G a (fun x => Secures G (f x) Q) p := by
  constructor
  · intro h t b run
    refine ⟨fun mark effect next hb => ?_, fun x hb u c rest => ?_⟩
    · subst hb
      exact (h t _ (run.bind f)).1 mark effect _ rfl
    · subst hb
      simpa using h _ c ((run.bind f).trans rest)
  · intro h t b run
    -- The run ends within the first activity, or goes through it.
    rcases run.of_bind with ⟨a', first, rfl⟩ | ⟨t₁, x, t₂, rfl, first, second⟩
    · cases a' with
      | done x => simpa using (h t _ first).2 x rfl [] _ (.refl _)
      | act mark effect next =>
        refine ⟨fun _ _ _ hb => ?_, by simp⟩
        cases hb
        exact (h t _ first).1 mark effect next rfl
      | loop => simp
    · simpa using (h t₁ _ first).2 x rfl t₂ b second

/-- Every deed of a run is of an effect that was admitted. -/
theorem of_split {a b : Activity σ α} {Q : α → Trace σ → Prop} {p q r : Trace σ} {d : Deed σ}
    (h : Secures G a Q p) (run : Reaches a (q ++ d :: r) b) : G (p ++ q) d.mark d.effect := by
  obtain ⟨next, before, -⟩ := run.split
  exact (h q _ before).1 d.mark d.effect next rfl

/-- **A loop secures what its rounds secure**, given an invariant that every round keeps. -/
theorem loop {ι γ : Type} {body : ι → Activity σ (ι ⊕ γ)} {next : γ → Activity σ α}
    {Q : α → Trace σ → Prop} (Inv : ι → Trace σ → Prop)
    (round : ∀ i p, Inv i p → Secures G (body i)
      (Sum.elim Inv fun x => Secures G (next x) Q) p)
    {start : ι} {p : Trace σ} (h : Inv start p) : Secures G (.loop start body next) Q p := by
  -- The induction is on the run; what is left of the current round is `c`.
  have main : ∀ (a b : Activity σ α) (t : Trace σ), Reaches a t b → ∀ c q,
      a = c.bind (afterRound body next) →
      Secures G c (Sum.elim Inv fun x => Secures G (next x) Q) q →
      (∀ mark effect next, b = .act mark effect next → G (q ++ t) mark effect) ∧
        ∀ result, b = .done result → Q result (q ++ t) := by
    intro a b t run
    induction run with
    | refl a =>
      rintro c q rfl hc
      cases c with
      | done x =>
        rw [done_iff] at hc
        cases x with
        | inl i => simp [afterRound]
        | inr x => exact hc [] _ (.refl _)
      | act mark effect next' =>
        refine ⟨fun _ _ _ hb => ?_, by simp⟩
        cases hb
        simpa using (act_iff.mp hc).1
      | loop => simp
    | @act mark effect next' t b answer rest ih =>
      intro c q ha hc
      cases c with
      | done x =>
        rw [done_iff] at hc
        cases x with
        | inl i => simp [afterRound] at ha
        | inr x =>
          refine hc _ b ?_
          rw [show next x = _ from ha.symm]
          exact .act answer rest
      | act _ _ inner =>
        simp only [bind_act, Activity.act.injEq] at ha
        obtain ⟨rfl, rfl, hnext⟩ := ha
        obtain rfl := eq_of_heq hnext
        simpa using ih (inner answer) _ rfl ((act_iff.mp hc).2 answer)
      | loop => simp at ha
    | @loop ι' γ' start' body' next' t b rest ih =>
      intro c q ha hc
      cases c with
      | done x =>
        rw [done_iff] at hc
        cases x with
        -- The round is over and the next one starts, with the invariant.
        | inl i =>
          simp only [bind_done, afterRound, Activity.loop.injEq] at ha
          obtain ⟨rfl, rfl, hstart, hbody, hnext⟩ := ha
          obtain rfl := eq_of_heq hstart
          obtain rfl := eq_of_heq hbody
          obtain rfl := eq_of_heq hnext
          exact ih _ q rfl (round _ q hc)
        | inr x =>
          refine hc _ b ?_
          rw [show next x = _ from ha.symm]
          exact .loop rest
      | act => simp at ha
      | loop start'' body'' inner =>
        simp only [bind_loop, Activity.loop.injEq] at ha
        obtain ⟨rfl, rfl, hstart, hbody, hnext⟩ := ha
        obtain rfl := eq_of_heq hstart
        obtain rfl := eq_of_heq hbody
        obtain rfl := eq_of_heq hnext
        refine ih _ q ?_ (loop_iff.mp hc)
        rw [bind_assoc]
        simp only [afterRound_bind]
  intro t b run
  exact main _ b t run (.done (.inl start)) p rfl (done_iff.mpr h)

end Secures

end Activity

/-! ### Routines -/

namespace Routine

variable {σ α β : Type} {G : Trace σ → σ → Effect → Prop} {p : Trace σ} {s : σ}

/-- A whole run of a routine: from the state `s` it does `t`, and ends with a result and the state
`s'`. -/
def Completes (m : Routine σ α) (s : σ) (t : Trace σ) (x : α) (s' : σ) : Prop :=
  Activity.Reaches (m s) t (.done (x, s'))

/-- After the deeds `p` and in the state `s`, every effect that the routine comes to is admitted by
`G`, and every result with the state that it leaves behind is admitted by `Q`. -/
def Secures (G : Trace σ → σ → Effect → Prop) (m : Routine σ α) (Q : α → Trace σ → σ → Prop)
    (p : Trace σ) (s : σ) : Prop :=
  Activity.Secures G (m s) (fun r q => Q r.1 q r.2) p

namespace Secures

theorem mono {m : Routine σ α} {Q R : α → Trace σ → σ → Prop} (h : Secures G m Q p s)
    (hQR : ∀ x q s', Q x q s' → R x q s') : Secures G m R p s :=
  Activity.Secures.mono h fun r q => hQR r.1 q r.2

/-- What holds at the end of every run holds at the end of a given one. -/
theorem of_completes {m : Routine σ α} {Q : α → Trace σ → σ → Prop} (h : Secures G m Q p s)
    {t : Trace σ} {x : α} {s' : σ} (run : m.Completes s t x s') : Q x (p ++ t) s' :=
  (h t _ run).2 (x, s') rfl

/-- Every end of a routine is the end of a whole run of it. -/
theorem mono_completes {m : Routine σ α} {P Q : α → Trace σ → σ → Prop}
    (h : Secures G m (fun x q s' => ∃ t, q = p ++ t ∧ P x t s') p s)
    (hPQ : ∀ x t s', m.Completes s t x s' → P x t s' → Q x (p ++ t) s') : Secures G m Q p s := by
  intro t b run
  refine ⟨(h t b run).1, fun r hr => ?_⟩
  obtain ⟨u, hu, hP⟩ := (h t b run).2 r hr
  obtain rfl := List.append_cancel_left hu
  rw [hr] at run
  exact hPQ r.1 t r.2 run hP

@[simp]
theorem pure_iff {x : α} {Q : α → Trace σ → σ → Prop} :
    Secures G (pure x : Routine σ α) Q p s ↔ Q x p s :=
  Activity.Secures.done_iff

@[simp]
theorem bind_iff {m : Routine σ α} {f : α → Routine σ β} {Q : β → Trace σ → σ → Prop} :
    Secures G (m >>= f) Q p s ↔ Secures G m (fun x => Secures G (f x) Q) p s :=
  Activity.Secures.bind_iff

@[simp]
theorem get_iff {Q : σ → Trace σ → σ → Prop} :
    Secures G (get : Routine σ σ) Q p s ↔ Q s p s :=
  Activity.Secures.done_iff

@[simp]
theorem set_iff {s' : σ} {Q : PUnit → Trace σ → σ → Prop} :
    Secures G (set s' : Routine σ PUnit) Q p s ↔ Q ⟨⟩ p s' :=
  Activity.Secures.done_iff

@[simp]
theorem modify_iff {f : σ → σ} {Q : PUnit → Trace σ → σ → Prop} :
    Secures G (modify f : Routine σ PUnit) Q p s ↔ Q ⟨⟩ p (f s) :=
  Activity.Secures.done_iff

@[simp]
theorem perform_iff {effect : Effect} {Q : effect.Answer → Trace σ → σ → Prop} :
    @Secures σ (no_index effect.Answer) G (perform effect) Q p s ↔
      G p s effect ∧ ∀ answer, Q answer (p ++ [⟨s, effect, answer⟩]) s := by
  rw [Secures, perform, Activity.Secures.act_iff]
  simp only [Activity.Secures.done_iff]

/-- **A loop of a routine secures what its rounds secure**, given an invariant that every round
keeps. -/
theorem iterate {ι : Type} {body : ι → Routine σ (ι ⊕ α)} {Q : α → Trace σ → σ → Prop}
    (Inv : ι → Trace σ → σ → Prop)
    (round : ∀ i p s, Inv i p s → Secures G (body i) (Sum.elim Inv Q) p s)
    {start : ι} (h : Inv start p s) : Secures G (Routine.iterate start body) Q p s := by
  refine Activity.Secures.loop (fun i p => Inv i.1 p i.2) ?_ h
  rintro ⟨i, s'⟩ q hi
  refine Activity.Secures.bind_iff.mpr (Activity.Secures.mono (round i q s' hi) ?_)
  rintro ⟨j | x, s''⟩ q' hr
  · exact Activity.Secures.done_iff.mpr hr
  · refine Activity.Secures.done_iff.mpr ?_
    simpa only [Sum.elim_inr, Activity.Secures.done_iff] using hr

end Secures

end Routine

end GroundLink
