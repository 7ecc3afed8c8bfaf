import GroundLink.Activity.Basic

/-!
# Runs of activities

A run of an activity is recorded as the list of its deeds: the effects that took place, each with
the state that it is marked with and the answer that it got.  Nothing is assumed about the answers,
so what holds of all runs holds whatever the world, the other activities and the clock do.

`Activity.Reaches a t b` says that `b` is left of `a` after the deeds `t`.  The statements that the
rest of the theory is built on are `Reaches.of_bind`, which takes a run of two activities one after
the other apart, and `Reaches.split`, by which every deed of a run was the next thing to do when it
was done.
-/

namespace GroundLink

/-- An effect that took place, with the state that it is marked with and its answer. -/
structure Deed (σ : Type) where
  mark : σ
  effect : Effect
  answer : effect.Answer

abbrev Trace (σ : Type) := List (Deed σ)

/-- Something that happens: others do something, or somebody does something in a state. -/
inductive Happening (ε σ : Type) where
  | other (x : ε)
  | own (d : Deed σ)

namespace Happening

variable {ε σ : Type}

def deeds (h : List (Happening ε σ)) : Trace σ :=
  h.filterMap fun
    | .other _ => none
    | .own d => some d

/-- What others do. -/
def others (h : List (Happening ε σ)) : List ε :=
  h.filterMap fun
    | .other x => some x
    | .own _ => none

/-- A trace with no happenings in between. -/
@[simp]
theorem deeds_map_own (t : Trace σ) : deeds (t.map (.own : Deed σ → Happening ε σ)) = t := by
  rw [deeds, List.filterMap_map]
  exact List.filterMap_some

@[simp]
theorem others_map_own (t : Trace σ) : others (t.map (.own : Deed σ → Happening ε σ)) = [] := by
  rw [others, List.filterMap_map, List.filterMap_eq_nil_iff]
  exact fun _ _ => rfl

@[simp]
theorem deeds_append (h h' : List (Happening ε σ)) : deeds (h ++ h') = deeds h ++ deeds h' :=
  List.filterMap_append

theorem deeds_concat_other (h : List (Happening ε σ)) (x : ε) :
    deeds (h ++ [.other x]) = deeds h := by
  rw [deeds_append]
  exact List.append_nil _

theorem deeds_concat_own (h : List (Happening ε σ)) (d : Deed σ) :
    deeds (h ++ [.own d]) = deeds h ++ [d] :=
  deeds_append h [.own d]

/-- An own deed was done after some happenings and before others. -/
theorem deeds_split {h : List (Happening ε σ)} {p q : Trace σ} {d : Deed σ}
    (hdeeds : deeds h = p ++ d :: q) :
    ∃ h₁ h₂, h = h₁ ++ .own d :: h₂ ∧ deeds h₁ = p ∧ deeds h₂ = q := by
  induction h generalizing p with
  | nil => simp [deeds] at hdeeds
  | cons x h ih =>
    cases x with
    -- What others do before the deed belongs to the first part.
    | other x =>
      obtain ⟨h₁, h₂, rfl, rfl, rfl⟩ := ih hdeeds
      exact ⟨.other x :: h₁, h₂, rfl, rfl, rfl⟩
    | own e =>
      have hcons : e :: deeds h = p ++ d :: q := hdeeds
      cases p with
      | nil =>
        obtain ⟨rfl, rfl⟩ := List.cons.inj hcons
        exact ⟨[], h, rfl, rfl, rfl⟩
      | cons e' p =>
        obtain ⟨rfl, hrest⟩ := List.cons.inj hcons
        obtain ⟨h₁, h₂, rfl, rfl, rfl⟩ := ih hrest
        exact ⟨.own e :: h₁, h₂, rfl, rfl, rfl⟩

end Happening

/-- The answers of a world in which nothing goes on and nothing fails. -/
def Effect.calm : (effect : Effect) → effect.Answer
  | .now => 0
  | .today => default
  | .send _ => .ok ()
  | .poll => .ok (false, [])
  | .available => .ok false
  | .conclude _ => (.ok (), .ok ())
  | .request _ => true
  | .nextRequest | .awaitRequest _ => .nothing
  | .reportReply => true
  | .takeReply => false
  | .takeTelemetry => []
  | .writeFile _ _ => .ok ()
  | .isRunning => true
  | .claimExit => true
  | .sleep _ | .log _ | .announceMode _ | .clearReplies | .store _ | .stop => ()

namespace Activity

variable {σ α β : Type}

/-! ### The laws of `bind` -/

@[simp]
theorem bind_done (x : α) (f : α → Activity σ β) : (done x : Activity σ α).bind f = f x := rfl

@[simp]
theorem bind_act (mark : σ) (effect : Effect) (next : effect.Answer → Activity σ α)
    (f : α → Activity σ β) :
    (act mark effect next).bind f = act mark effect fun answer => (next answer).bind f := rfl

@[simp]
theorem bind_loop {ι γ : Type} (start : ι) (body : ι → Activity σ (ι ⊕ γ))
    (next : γ → Activity σ α) (f : α → Activity σ β) :
    (loop start body next).bind f = loop start body fun x => (next x).bind f := rfl

theorem bind_assoc {γ : Type} (a : Activity σ α) (f : α → Activity σ β) (g : β → Activity σ γ) :
    (a.bind f).bind g = a.bind fun x => (f x).bind g := by
  induction a with
  | done x => rfl
  | act mark effect next ih =>
    simp only [bind_act]
    congr 1
    funext answer
    exact ih answer f
  | loop start body next _ ih =>
    simp only [bind_loop]
    congr 1
    funext x
    exact ih x f

/-- What follows a round of a loop, and then something else. -/
theorem afterRound_bind {ι γ : Type} (body : ι → Activity σ (ι ⊕ γ)) (next : γ → Activity σ α)
    (f : α → Activity σ β) (x : ι ⊕ γ) :
    (afterRound body next x).bind f = afterRound body (fun y => (next y).bind f) x := by
  cases x <;> rfl

/-! ### Runs -/

/-- `Reaches a t b`: after the deeds `t`, what is left of `a` is `b`. -/
inductive Reaches : Activity σ α → Trace σ → Activity σ α → Prop
  | refl (a : Activity σ α) : Reaches a [] a
  | act {mark : σ} {effect : Effect} {next : effect.Answer → Activity σ α} {t : Trace σ}
      {b : Activity σ α} (answer : effect.Answer) (rest : Reaches (next answer) t b) :
      Reaches (.act mark effect next) (⟨mark, effect, answer⟩ :: t) b
  | loop {ι γ : Type} {start : ι} {body : ι → Activity σ (ι ⊕ γ)} {next : γ → Activity σ α}
      {t : Trace σ} {b : Activity σ α}
      (rest : Reaches ((body start).bind (afterRound body next)) t b) :
      Reaches (.loop start body next) t b

/-- The activity is about to do something in a state, or is done and leaves that state behind. -/
inductive Stands : Activity σ (α × σ) → σ → Prop
  | act (mark : σ) (effect : Effect) (next : effect.Answer → Activity σ (α × σ)) :
      Stands (.act mark effect next) mark
  | done (x : α) (s : σ) : Stands (.done (x, s)) s

namespace Reaches

theorem trans {a b c : Activity σ α} {t u : Trace σ} (first : Reaches a t b)
    (second : Reaches b u c) : Reaches a (t ++ u) c := by
  induction first with
  | refl a => exact second
  | act answer _ ih => exact .act answer (ih second)
  | loop _ ih => exact .loop (ih second)

theorem bind {a b : Activity σ α} {t : Trace σ} (run : Reaches a t b) (f : α → Activity σ β) :
    Reaches (a.bind f) t (b.bind f) := by
  induction run with
  | refl a => exact .refl _
  | act answer _ ih => exact .act answer ih
  | loop _ ih =>
    -- The laws of `bind` move `f` behind the rounds that are left.
    refine .loop ?_
    rw [bind_assoc] at ih
    simpa only [afterRound_bind] using ih

/-- **A run of two activities one after the other** is a run of the first, or a run of the first to
its end and a run of the second. -/
theorem of_bind {a : Activity σ α} {f : α → Activity σ β} {t : Trace σ} {b : Activity σ β}
    (run : Reaches (a.bind f) t b) :
    (∃ a', Reaches a t a' ∧ b = a'.bind f) ∨
      ∃ t₁ x t₂, t = t₁ ++ t₂ ∧ Reaches a t₁ (.done x) ∧ Reaches (f x) t₂ b := by
  generalize hc : a.bind f = c at run
  induction run generalizing a with
  | refl c => exact .inl ⟨a, .refl a, hc.symm⟩
  | @act mark effect next t b answer rest ih =>
    cases a with
    | done x =>
      rw [bind_done] at hc
      refine .inr ⟨[], x, _, rfl, .refl _, ?_⟩
      rw [hc]
      exact .act answer rest
    | act _ _ inner =>
      simp only [bind_act, Activity.act.injEq] at hc
      obtain ⟨rfl, rfl, hnext⟩ := hc
      obtain rfl := eq_of_heq hnext
      rcases ih rfl with ⟨a', run, rfl⟩ | ⟨t₁, x, t₂, rfl, run, rest⟩
      · exact .inl ⟨a', .act answer run, rfl⟩
      · exact .inr ⟨_ :: t₁, x, t₂, rfl, .act answer run, rest⟩
    | loop => simp at hc
  | @loop ι γ start body next t b rest ih =>
    cases a with
    | done x =>
      -- The first activity is over, so the loop belongs to the second.
      rw [bind_done] at hc
      refine .inr ⟨[], x, t, rfl, .refl _, ?_⟩
      rw [hc]
      exact .loop rest
    | act => simp at hc
    | loop start' body' inner =>
      simp only [bind_loop, Activity.loop.injEq] at hc
      obtain ⟨rfl, rfl, hstart, hbody, hnext⟩ := hc
      obtain rfl := eq_of_heq hstart
      obtain rfl := eq_of_heq hbody
      obtain rfl := eq_of_heq hnext
      -- The round and what follows it are one activity, so the induction hypothesis applies to it.
      have hround : ((body' start').bind (afterRound body' inner)).bind f =
          (body' start').bind (afterRound body' fun x => (inner x).bind f) := by
        rw [bind_assoc]
        simp only [afterRound_bind]
      rcases ih hround with ⟨a', run, rfl⟩ | ⟨t₁, x, t₂, rfl, run, rest⟩
      · exact .inl ⟨a', .loop run, rfl⟩
      · exact .inr ⟨t₁, x, t₂, rfl, .loop run, rest⟩

/-- **Every deed of a run was the next thing to do** when those before it were done. -/
theorem split {a b : Activity σ α} {p q : Trace σ} {d : Deed σ}
    (run : Reaches a (p ++ d :: q) b) :
    ∃ next, Reaches a p (.act d.mark d.effect next) ∧ Reaches (next d.answer) q b := by
  -- The induction is on the run: the deed is the first one of it or among the rest.
  generalize ht : p ++ d :: q = t at run
  induction run generalizing p with
  | refl a => simp at ht
  | @act mark effect next t b answer rest ih =>
    cases p with
    | nil =>
      simp only [List.nil_append, List.cons.injEq] at ht
      obtain ⟨rfl, rfl⟩ := ht
      exact ⟨next, .refl _, rest⟩
    | cons e p =>
      simp only [List.cons_append, List.cons.injEq] at ht
      obtain ⟨rfl, ht⟩ := ht
      obtain ⟨next', first, second⟩ := ih ht
      exact ⟨next', .act answer first, second⟩
  | loop _ ih =>
    obtain ⟨next, first, second⟩ := ih ht
    exact ⟨next, .loop first, second⟩

end Reaches

/-! ### Runs against given answers -/

/-- The first `n` rounds and deeds of an activity, and what is left of it, if every effect gets the
answer that `world` gives after the deeds so far. -/
def play (world : Trace σ → (effect : Effect) → effect.Answer) :
    Nat → Trace σ → Activity σ α → Trace σ × Activity σ α
  | 0, _, a => ([], a)
  | _ + 1, _, .done x => ([], .done x)
  | n + 1, p, .act mark effect next =>
    let answer := world p effect
    let (t, b) := play world n (p ++ [⟨mark, effect, answer⟩]) (next answer)
    (⟨mark, effect, answer⟩ :: t, b)
  | n + 1, p, .loop start body next => play world n p ((body start).bind (afterRound body next))

/-- What is played is a run. -/
theorem reaches_play (world : Trace σ → (effect : Effect) → effect.Answer) (n : Nat) (p : Trace σ)
    (a : Activity σ α) : Reaches a (play world n p a).1 (play world n p a).2 := by
  induction n generalizing p α with
  | zero => exact .refl a
  | succ n ih =>
    cases a with
    | done x => exact .refl _
    | act mark effect next => exact .act _ (ih _ _)
    | loop start body next => exact .loop (ih _ _)

/-- The result of an activity of which nothing is left. -/
def result? : Activity σ α → Option α
  | .done x => some x
  | _ => none

/-- An activity is played to its result. -/
theorem reaches_play_result {world : Trace σ → (effect : Effect) → effect.Answer} {n : Nat}
    {p : Trace σ} {a : Activity σ α} {x : α} (h : (play world n p a).2.result? = some x) :
    Reaches a (play world n p a).1 (.done x) := by
  have run := reaches_play world n p a
  generalize (play world n p a).2 = b at run h
  cases b with
  | done y =>
    obtain rfl := Option.some.inj h
    exact run
  | act | loop => cases h

theorem reaches_play_done {world : Trace σ → (effect : Effect) → effect.Answer} {n : Nat}
    {p : Trace σ} {a : Activity σ α} (done : (play world n p a).2.result?.isSome = true) :
    ∃ x, Reaches a (play world n p a).1 (.done x) := by
  obtain ⟨x, hx⟩ := Option.isSome_iff_exists.mp done
  exact ⟨x, reaches_play_result hx⟩

end Activity

end GroundLink
