import GroundLink.Proofs.Listener.Discipline
import GroundLink.Proofs.Listener.Sound

/-!
# The work of a listener, routine by routine

One rule for each routine of the listener: the invariant that it needs, and the invariant that it
leaves behind.  At every effect that a routine comes to, the listener is sound (`Listener.Admits`);
where it looks for requests or uses the link, the mode that it announced is the one that it is in.

* `Listener.Steady` holds between any two deeds, except while an operation begins or ends.
* `Listener.OnDuty` adds that a change is only given up after it was withdrawn.
* `Listener.AtWork` holds during an operation.
-/

namespace GroundLink.Listener

open Routine (Secures)

/-! ### Invariants -/

def announcedBy (p : Trace Listener) : Mode :=
  p.foldl (fun mode e => match e.effect with | .announceMode mode' => mode' | _ => mode) .listener

/-- The listener looks for requests or uses the link. -/
def Attends : Effect → Prop
  | .nextRequest | .awaitRequest _ | .poll | .available => True
  | _ => False

/-- The operation of a mode is about to begin: it is taken up, and its mode is being announced. -/
def IsEntering (mode : Mode) (effect : Effect) : Prop :=
  effect = .log [Log.debug ("TM listener entering mode " ++ mode.label)] ∨
    effect = .announceMode mode

/-- The mode of the listener is announced, and outside of operations it is the default mode. -/
structure Tidy (p : Trace Listener) (s : Listener) : Prop where
  announced : announcedBy p = s.mode
  idle : s.inOperation = false → s.mode = .listener ∧ s.isFinished = false

/-- The invariant between two deeds.  The listener is `tidy` if it started out so. -/
structure Steady (l : Listener) (tidy duty : Prop) (p : Trace Listener) (s : Listener) : Prop where
  sound : Sound l duty p s s.pending
  busy : (docket l p).isBusy = s.inOperation
  tidied : tidy → Tidy p s

/-- The invariant while pending modes are taken up: one that will not be was withdrawn. -/
structure OnDuty (l : Listener) (tidy duty : Prop) (p : Trace Listener) (s : Listener) : Prop
    extends Steady l tidy duty p s where
  firm : duty → s.pending.isSome = true → s.isActive = false ∨ s.isShutDown = true →
    Withdrawn l p (record l p s).last

/-- The listener takes up every mode that is pending. -/
def Open (duty : Prop) (s : Listener) : Prop :=
  duty → s.isActive = true ∧ s.isShutDown = false

/-- The invariant during an operation. -/
structure AtWork (l : Listener) (tidy duty : Prop) (p : Trace Listener) (s : Listener) : Prop
    extends OnDuty l tidy duty p s where
  working : s.inOperation = true
  ready : duty → s.isFinished = false → s.isShutDown = false → s.isActive = true

/-- What holds whenever the listener comes to an effect. -/
def Admits (l : Listener) (tidy duty : Prop) (p : Trace Listener) (s : Listener) (effect : Effect) :
    Prop :=
  (∃ slot, Sound l duty p s slot ∧
    (slot = s.pending ∨ s.pending = none ∧ ∃ mode, slot = some mode ∧ IsEntering mode effect)) ∧
    (tidy → Attends effect → Tidy p s)

variable {l s s' : Listener} {tidy duty : Prop} {p t : Trace Listener} {e : Deed Listener}

/-! ### Deeds that concern no request -/

/-- An effect that neither looks for requests nor announces a mode. -/
def IsQuiet : Effect → Prop
  | .nextRequest | .awaitRequest _ | .announceMode _ => False
  | _ => True

def Quiet (s : Listener) (t : Trace Listener) : Prop := ∀ e ∈ t, e.mark = s ∧ IsQuiet e.effect

theorem IsQuiet.incoming_eq (h : IsQuiet e.effect) : e.incoming? = none := by
  obtain ⟨mark, effect, answer⟩ := e
  cases effect <;> first | rfl | exact absurd h id

theorem IsQuiet.handled_eq (h : IsQuiet e.effect) : e.handled? = none := by
  rw [Deed.handled?, h.incoming_eq]

theorem announcedBy_append (p : Trace Listener) (e : Deed Listener) :
    announcedBy (p ++ [e]) =
      match e.effect with
      | .announceMode mode => mode
      | _ => announcedBy p := by
  rw [announcedBy, List.foldl_append]
  rfl

theorem IsQuiet.announcedBy_eq (h : IsQuiet e.effect) : announcedBy (p ++ [e]) = announcedBy p := by
  rw [announcedBy_append]
  split
  · rename_i heffect
    rw [heffect] at h
    exact absurd h id
  · rfl

theorem announcedBy_look {x : Incoming} (looks : e.incoming? = some x) :
    announcedBy (p ++ [e]) = announcedBy p := by
  obtain ⟨mark, effect, answer⟩ := e
  rw [announcedBy_append]
  cases effect <;> first | rfl | simp [Deed.incoming?] at looks

theorem Quiet.nil (s : Listener) : Quiet s [] := by simp [Quiet]

theorem Quiet.single (s : Listener) {effect : Effect} (h : IsQuiet effect)
    (answer : effect.Answer) : Quiet s [⟨s, effect, answer⟩] := by
  intro e he
  obtain rfl := List.mem_singleton.mp he
  exact ⟨rfl, h⟩

theorem Quiet.append {u : Trace Listener} (ht : Quiet s t) (hu : Quiet s u) : Quiet s (t ++ u) := by
  intro e he
  rcases List.mem_append.mp he with he | he
  · exact ht e he
  · exact hu e he

/-- Quiet deeds change nothing. -/
theorem Steady.act (h : Steady l tidy duty p s) (ht : Quiet s t) :
    Steady l tidy duty (p ++ t) s := by
  induction t generalizing p with
  | nil => simpa using h
  | cons e t ih =>
    obtain ⟨⟨rfl, quiet⟩, hrest⟩ := List.forall_mem_cons.mp ht
    have hstep : Steady l tidy duty (p ++ [e]) e.mark :=
      { sound := h.sound.act quiet.handled_eq
        busy := docket_append_isBusy l p e
        tidied := fun htidy =>
          { announced := quiet.announcedBy_eq.trans (h.tidied htidy).announced
            idle := (h.tidied htidy).idle } }
    have := ih hstep hrest
    rwa [List.append_assoc] at this

theorem Quiet.record_eq (ht : Quiet s t) : record l (p ++ t) s = record l p s := by
  induction t generalizing p with
  | nil => simp
  | cons e t ih =>
    obtain ⟨⟨rfl, quiet⟩, hrest⟩ := List.forall_mem_cons.mp ht
    rw [← List.singleton_append, ← List.append_assoc, ih hrest,
      record_append quiet.handled_eq rfl]

theorem OnDuty.act (h : OnDuty l tidy duty p s) (ht : Quiet s t) :
    OnDuty l tidy duty (p ++ t) s where
  toSteady := h.toSteady.act ht
  firm hduty hpending hgone := by
    rw [ht.record_eq]
    exact (h.firm hduty hpending hgone).append t

theorem AtWork.act (h : AtWork l tidy duty p s) (ht : Quiet s t) :
    AtWork l tidy duty (p ++ t) s where
  toOnDuty := h.toOnDuty.act ht
  working := h.working
  ready := h.ready

theorem AtWork.isOpen (h : AtWork l tidy duty p s) (unfinished : s.isFinished = false)
    (awake : s.isShutDown = false) : Open duty s :=
  fun hduty => ⟨h.ready hduty unfinished awake, awake⟩

/-! ### Looks for requests -/

theorem handled_eq {r : Request} (looks : e.incoming? = some (.request r)) :
    e.handled? = some r := by
  rw [Deed.handled?, looks]

/-- **A request is handled**, on duty or not. -/
theorem Steady.handle (h : Steady l tidy duty p e.mark) {r : Request}
    (looks : e.incoming? = some (.request r)) :
    Steady l tidy duty (p ++ [e]) (e.mark.handle r).1 where
  sound := h.sound.handle (handled_eq looks)
  busy := by rw [docket_append_isBusy, handle_inOperation]
  tidied htidy :=
    { announced := by
        rw [announcedBy_look looks, handle_mode]
        exact (h.tidied htidy).announced
      idle := by
        rw [handle_inOperation, handle_mode]
        intro idle
        rw [handle_isFinished_of_idle idle]
        exact (h.tidied htidy).idle idle }

/-- A look that finds nothing changes nothing. -/
theorem Steady.look (h : Steady l tidy duty p e.mark) (looks : e.incoming? = some .nothing) :
    Steady l tidy duty (p ++ [e]) e.mark where
  sound := h.sound.act (by rw [Deed.handled?, looks])
  busy := docket_append_isBusy l p e
  tidied htidy :=
    { announced := (announcedBy_look looks).trans (h.tidied htidy).announced
      idle := (h.tidied htidy).idle }

/-- If there is nobody left to make requests, the listener shuts down. -/
theorem Steady.disconnect (h : Steady l tidy duty p e.mark)
    (looks : e.incoming? = some .disconnected) :
    Steady l tidy duty (p ++ [e]) { e.mark with isShutDown := true } where
  sound := by
    have hact : Sound l duty (p ++ [e]) e.mark e.mark.pending :=
      h.sound.act (by rw [Deed.handled?, looks])
    exact hact.amend (docket_append_isBusy l p e) rfl (fun _ => rfl) hact.concluded fun _ => rfl
  busy := docket_append_isBusy l p e
  tidied htidy :=
    { announced := (announcedBy_look looks).trans (h.tidied htidy).announced
      idle := (h.tidied htidy).idle }

/-- On duty, a request that keeps a pending mode from being taken up withdraws it. -/
theorem OnDuty.handle (h : OnDuty l tidy duty p e.mark) (isOpen : Open duty e.mark) {r : Request}
    (looks : e.incoming? = some (.request r)) :
    OnDuty l tidy duty (p ++ [e]) (e.mark.handle r).1 where
  toSteady := h.toSteady.handle looks
  firm hduty hpending hgone := by
    obtain ⟨active, awake⟩ := isOpen hduty
    -- Only a request that stops the reading keeps pending modes from being taken up.
    have hstops : (e.mark.handle r).2.1 = true := by
      cases goesOn : (e.mark.handle r).2.1 with
      | true => rfl
      | false =>
        obtain ⟨active', awake'⟩ := handle_goesOn goesOn active
        rw [active', awake', awake] at hgone
        simp at hgone
    rw [record_append_handled (handled_eq looks) (handle_inOperation e.mark r)]
    cases r with
    | changeMode =>
      have : e.mark.isActive = false ∨ e.mark.isShutDown = true := hgone
      simp [active, awake] at this
    | finishOperation =>
      rw [handle_finishOperation] at hgone
      split at hgone
      all_goals simp [active, awake] at hgone
    | setActive active' =>
      cases active' with
      | true => simp [Listener.handle] at hstops
      | false =>
        have hovertakes : Overtakes e := .of_handled (handled_eq looks) (.inl rfl)
        exact .of_overtakes h.sound.valid hpending hovertakes
    | shutDown =>
      have hovertakes : Overtakes e := .of_handled (handled_eq looks) (.inr rfl)
      exact .of_overtakes h.sound.valid hpending hovertakes

theorem OnDuty.look (h : OnDuty l tidy duty p e.mark) (looks : e.incoming? = some .nothing) :
    OnDuty l tidy duty (p ++ [e]) e.mark where
  toSteady := h.toSteady.look looks
  firm hduty hpending hgone := by
    rw [record_append (by rw [Deed.handled?, looks]) rfl]
    exact (h.firm hduty hpending hgone).append [e]

theorem OnDuty.disconnect (h : OnDuty l tidy duty p e.mark)
    (looks : e.incoming? = some .disconnected) :
    OnDuty l tidy duty (p ++ [e]) { e.mark with isShutDown := true } where
  toSteady := h.toSteady.disconnect looks
  firm _ hpending _ := by
    have hrecord : record l (p ++ [e]) { e.mark with isShutDown := true } = record l p e.mark :=
      record_append (by rw [Deed.handled?, looks]) rfl
    have hovertakes : Overtakes e := by
      rw [Overtakes, looks]
      trivial
    rw [hrecord]
    exact .of_overtakes h.sound.valid hpending hovertakes

/-! ### Rules for routines without requests -/

theorem Steady.admits (h : Steady l tidy duty p s) (effect : Effect) :
    Admits l tidy duty p s effect :=
  ⟨⟨s.pending, h.sound, .inl rfl⟩, fun htidy _ => h.tidied htidy⟩

theorem secures_quiet (h : Steady l tidy duty p s) {effect : Effect} (quiet : IsQuiet effect)
    {Q : effect.Answer → Trace Listener → Listener → Prop}
    (hQ : ∀ answer, Quiet s [⟨s, effect, answer⟩] → Q answer (p ++ [⟨s, effect, answer⟩]) s) :
    Secures (Admits l tidy duty) (Routine.perform effect) Q p s :=
  Secures.perform_iff.mpr ⟨h.admits effect, fun answer => hQ answer (.single s quiet answer)⟩

theorem secures_log (h : Steady l tidy duty p s) {entries : List Log.Entry}
    {Q : Unit → Trace Listener → Listener → Prop} (hQ : ∀ t, Quiet s t → Q () (p ++ t) s) :
    Secures (Admits l tidy duty) (Routine.log entries) Q p s := by
  unfold Routine.log
  split
  · simpa using hQ [] (.nil s)
  · exact secures_quiet h (by trivial) fun _ ht => hQ _ ht

theorem secures_pollOnce (h : Steady l tidy duty p s)
    {Q : Bool → Trace Listener → Listener → Prop} (hQ : ∀ b t, Quiet s t → Q b (p ++ t) s) :
    Secures (Admits l tidy duty) pollOnce Q p s := by
  rw [pollOnce, Secures.bind_iff]
  refine secures_quiet h (by trivial) fun polled hpoll => ?_
  split
  · split
    · rw [Secures.bind_iff]
      refine secures_quiet (h.act hpoll) (by trivial) fun _ hstore => Secures.pure_iff.mpr ?_
      rw [List.append_assoc]
      exact hQ true _ (hpoll.append hstore)
    · exact Secures.pure_iff.mpr (hQ false _ hpoll)
  · rw [Secures.bind_iff]
    refine secures_quiet (h.act hpoll) (by trivial) fun _ hnote => Secures.pure_iff.mpr ?_
    rw [List.append_assoc]
    exact hQ false _ (hpoll.append hnote)

theorem secures_isDataAvailable (h : Steady l tidy duty p s)
    {Q : Bool → Trace Listener → Listener → Prop} (hQ : ∀ b t, Quiet s t → Q b (p ++ t) s) :
    Secures (Admits l tidy duty) isDataAvailable Q p s := by
  rw [isDataAvailable, Secures.bind_iff]
  refine secures_quiet h (by trivial) fun available hlook => ?_
  split
  · exact Secures.pure_iff.mpr (hQ _ _ hlook)
  · rw [Secures.bind_iff]
    refine secures_quiet (h.act hlook) (by trivial) fun _ hnote => Secures.pure_iff.mpr ?_
    rw [List.append_assoc]
    exact hQ false _ (hlook.append hnote)

theorem secures_elapsedSince (h : Steady l tidy duty p s) {reading : Span}
    {Q : Span → Trace Listener → Listener → Prop} (hQ : ∀ time t, Quiet s t → Q time (p ++ t) s) :
    Secures (Admits l tidy duty) (Routine.elapsedSince reading) Q p s := by
  rw [Routine.elapsedSince, Secures.bind_iff]
  exact secures_quiet h (by trivial) fun _ ht => Secures.pure_iff.mpr (hQ _ _ ht)

/-! ### Rules for routines that handle requests -/

/-- A request that was received is handled, and what it logs is quiet. -/
theorem secures_accept {r : Request} (h : Steady l tidy duty p (s.handle r).1)
    {Q : Bool → Trace Listener → Listener → Prop}
    (hQ : ∀ t, Quiet (s.handle r).1 t → Q (s.handle r).2.1 (p ++ t) (s.handle r).1) :
    Secures (Admits l tidy duty) (accept r) Q p s := by
  simp only [accept, Secures.bind_iff, Secures.get_iff, Secures.set_iff]
  exact secures_log h fun t ht => Secures.pure_iff.mpr (hQ t ht)

/-- **Handling requests**: either the listener still takes up every mode, or a reading activity is
stopped, and during an operation that is because it ends. -/
theorem secures_handleRequests (h : OnDuty l tidy duty p s) (isOpen : Open duty s)
    {Q : Bool → Trace Listener → Listener → Prop}
    (goesOn : ∀ p' s', OnDuty l tidy duty p' s' → Open duty s' → s'.inOperation = s.inOperation →
      Q false p' s')
    (stops : ∀ p' s', OnDuty l tidy duty p' s' → s'.inOperation = s.inOperation →
      (s.inOperation = true → s'.isFinished = true ∨ s'.isShutDown = true) → Q true p' s') :
    Secures (Admits l tidy duty) handleRequests Q p s := by
  -- Invariant: still on duty, and nothing heard so far that ends the operation.
  refine Secures.iterate (fun _ p' s' => OnDuty l tidy duty p' s' ∧ Open duty s' ∧
    s'.inOperation = s.inOperation) ?_ ⟨h, isOpen, rfl⟩
  rintro _ p' s' ⟨h', isOpen', hsame⟩
  rw [Secures.bind_iff]
  refine Secures.perform_iff.mpr ⟨h'.admits _, fun incoming => ?_⟩
  cases incoming with
  | request r =>
    have hnext : OnDuty l tidy duty (p' ++ [⟨s', .nextRequest, .request r⟩]) (s'.handle r).1 :=
      OnDuty.handle (e := ⟨s', .nextRequest, .request r⟩) h' isOpen' rfl
    simp only [Secures.bind_iff]
    refine secures_accept hnext.toSteady fun t ht => ?_
    have hdone := hnext.act ht
    have hinop : (s'.handle r).1.inOperation = s.inOperation := by rw [handle_inOperation, hsame]
    cases hstops : (s'.handle r).2.1 with
    -- A request that stops the round finishes the operation, if one is running.
    | true =>
      refine Secures.pure_iff.mpr (stops _ _ hdone hinop fun working => ?_)
      exact handle_stops (hsame.trans working) hstops
    | false =>
      refine Secures.pure_iff.mpr ⟨hdone, fun hduty => ?_, hinop⟩
      obtain ⟨active, awake⟩ := isOpen' hduty
      obtain ⟨active', awake'⟩ := handle_goesOn hstops active
      exact ⟨active', awake'.trans awake⟩
  | nothing =>
    refine Secures.pure_iff.mpr (goesOn _ _ ?_ isOpen' hsame)
    exact OnDuty.look (e := ⟨s', .nextRequest, .nothing⟩) h' rfl
  | disconnected =>
    simp only [shutDown, Secures.bind_iff, Secures.modify_iff, Secures.pure_iff]
    refine stops _ _ ?_ hsame fun _ => .inr rfl
    exact OnDuty.disconnect (e := ⟨s', .nextRequest, .disconnected⟩) h' rfl

/-! ### Rules for the work during an operation -/

/-- During an operation, handling requests leaves the listener at work. -/
theorem AtWork.secures_handleRequests (h : AtWork l tidy duty p s) (isOpen : Open duty s)
    {Q : Bool → Trace Listener → Listener → Prop}
    (goesOn : ∀ p' s', AtWork l tidy duty p' s' → Open duty s' → Q false p' s')
    (stops : ∀ p' s', AtWork l tidy duty p' s' → Q true p' s') :
    Secures (Admits l tidy duty) handleRequests Q p s := by
  refine Listener.secures_handleRequests h.toOnDuty isOpen ?_ ?_
  -- As long as the listener takes up every mode, it is active.
  · intro p' s' h' isOpen' hsame
    have hready : duty → s'.isFinished = false → s'.isShutDown = false → s'.isActive = true :=
      fun hduty _ _ => (isOpen' hduty).1
    exact goesOn p' s' ⟨h', hsame.trans h.working, hready⟩ isOpen'
  · intro p' s' h' hsame hends
    refine stops p' s' ⟨h', hsame.trans h.working, fun _ unfinished awake => ?_⟩
    rcases hends h.working with finished | gone
    · simp [unfinished] at finished
    · simp [awake] at gone

theorem secures_readSequence (h : AtWork l tidy duty p s) (isOpen : Open duty s)
    {Q : Bool → Trace Listener → Listener → Prop}
    (hQ : ∀ b p' s', AtWork l tidy duty p' s' → Q b p' s') :
    Secures (Admits l tidy duty) readSequence Q p s := by
  rw [readSequence, Secures.bind_iff]
  refine secures_quiet h.toSteady (by trivial) fun start hstart => ?_
  -- Invariant: the operation goes on, whatever the polls bring.
  refine Secures.iterate (fun _ p' s' => AtWork l tidy duty p' s' ∧ Open duty s') ?_
    ⟨h.act hstart, isOpen⟩
  rintro received p' s' ⟨h', isOpen'⟩
  rw [Secures.bind_iff]
  refine secures_pollOnce h'.toSteady fun polled t ht => ?_
  simp only [Secures.bind_iff, Secures.get_iff]
  refine secures_elapsedSince (h'.act ht).toSteady fun time u hu => ?_
  have hnow := (h'.act ht).act hu
  split
  · exact Secures.pure_iff.mpr (hQ _ _ _ hnow)
  · rw [Secures.bind_iff]
    refine hnow.secures_handleRequests isOpen' ?_ ?_
    · intro p'' s'' h'' isOpen''
      rw [if_neg Bool.false_ne_true, Secures.bind_iff]
      refine secures_quiet h''.toSteady (by trivial) fun _ hsleep => ?_
      exact Secures.pure_iff.mpr ⟨h''.act hsleep, isOpen''⟩
    · intro p'' s'' h''
      exact Secures.pure_iff.mpr (hQ _ _ _ h'')

theorem secures_awaitFirstData (h : AtWork l tidy duty p s) (isOpen : Open duty s)
    {Q : Bool → Trace Listener → Listener → Prop}
    (found : ∀ p' s', AtWork l tidy duty p' s' → Open duty s' → Q true p' s')
    (nothing : ∀ p' s', AtWork l tidy duty p' s' → Q false p' s') :
    Secures (Admits l tidy duty) awaitFirstData Q p s := by
  rw [awaitFirstData, Secures.bind_iff]
  refine secures_quiet h.toSteady (by trivial) fun start hstart => ?_
  refine Secures.iterate (fun _ p' s' => AtWork l tidy duty p' s' ∧ Open duty s') ?_
    ⟨h.act hstart, isOpen⟩
  rintro _ p' s' ⟨h', isOpen'⟩
  simp only [Secures.bind_iff, Secures.get_iff]
  refine secures_elapsedSince h'.toSteady fun time t ht => ?_
  have hnow := h'.act ht
  split
  · exact Secures.pure_iff.mpr (nothing _ _ hnow)
  · rw [Secures.bind_iff]
    refine hnow.secures_handleRequests isOpen' ?_ ?_
    · -- Nothing ended the operation: look for data, and pause if there is none.
      intro p'' s'' h'' isOpen''
      rw [if_neg Bool.false_ne_true, Secures.bind_iff]
      refine secures_isDataAvailable h''.toSteady fun available u hu => ?_
      have hlooked := h''.act hu
      cases available with
      | true => exact Secures.pure_iff.mpr (found _ _ hlooked isOpen'')
      | false =>
        rw [if_neg Bool.false_ne_true, Secures.bind_iff]
        refine secures_quiet hlooked.toSteady (by trivial) fun _ hsleep => ?_
        exact Secures.pure_iff.mpr ⟨hlooked.act hsleep, isOpen''⟩
    · -- The operation was ended by a request.
      intro p'' s'' h''
      exact Secures.pure_iff.mpr (nothing _ _ h'')

theorem secures_checkForSequence (h : AtWork l tidy duty p s) (isOpen : Open duty s)
    {Q : Bool → Trace Listener → Listener → Prop}
    (hQ : ∀ b p' s', AtWork l tidy duty p' s' → Q b p' s') :
    Secures (Admits l tidy duty) checkForSequence Q p s := by
  rw [checkForSequence, Secures.bind_iff]
  refine secures_awaitFirstData h isOpen ?_ ?_
  · intro p' s' h' isOpen'
    exact secures_readSequence h' isOpen' hQ
  · intro p' s' h'
    exact Secures.pure_iff.mpr (hQ false p' s' h')

/-- In the default mode there is nothing to do in an operation. -/
theorem AtWork.finish (h : AtWork l tidy duty p s) (mode : s.mode = .listener) :
    AtWork l tidy duty p { s with isFinished := true } where
  sound := by
    refine h.sound.amend h.busy rfl (fun _ => rfl) (fun _ _ => ?_) id
    obtain ⟨op, hlast, hmode⟩ := h.sound.running h.working
    exact ⟨op, hlast, .inl (hmode.trans mode)⟩
  busy := h.busy
  tidied htidy := ⟨(h.tidied htidy).announced, fun idle => by simp [h.working] at idle⟩
  firm := h.firm
  working := h.working
  ready := by simp

/-- The listener counts the steps of its operations. -/
theorem AtWork.count (h : AtWork l tidy duty p s) (steps : Nat) :
    AtWork l tidy duty p { s with steps } where
  sound := h.sound.amend h.busy rfl (fun _ => rfl) h.sound.concluded id
  busy := h.busy
  tidied htidy := ⟨(h.tidied htidy).announced, (h.tidied htidy).idle⟩
  firm := h.firm
  working := h.working
  ready := h.ready

theorem secures_collectReplies (h : AtWork l tidy duty p s) (isOpen : Open duty s)
    {Q : Unit → Trace Listener → Listener → Prop}
    (hQ : ∀ p' s', AtWork l tidy duty p' s' → Q () p' s') :
    Secures (Admits l tidy duty) collectReplies Q p s := by
  -- What the three modes have in common that report replies.
  have collects : Secures (Admits l tidy duty) reportSequence Q p s := by
    rw [reportSequence, Secures.bind_iff]
    refine secures_checkForSequence h isOpen fun received p' s' h' => ?_
    cases received with
    | false => exact Secures.pure_iff.mpr (hQ _ _ h')
    | true =>
      rw [if_pos rfl, Secures.bind_iff]
      refine secures_quiet h'.toSteady (by trivial) fun delivered hreport => ?_
      split
      · exact secures_quiet (h'.act hreport).toSteady (by trivial) fun _ hnote =>
          hQ _ _ ((h'.act hreport).act hnote)
      · exact Secures.pure_iff.mpr (hQ _ _ (h'.act hreport))
  rw [collectReplies, Secures.bind_iff, Secures.get_iff]
  split
  case h_1 hmode => exact Secures.modify_iff.mpr (hQ _ _ (h.finish hmode))
  case h_5 =>
    rw [Secures.bind_iff]
    refine secures_pollOnce h.toSteady fun received t ht => ?_
    split
    · exact secures_quiet (h.act ht).toSteady (by trivial) fun _ hsleep =>
        hQ _ _ ((h.act ht).act hsleep)
    · exact Secures.pure_iff.mpr (hQ _ _ (h.act ht))
  all_goals exact collects

theorem secures_stepOperation (h : AtWork l tidy duty p s) (isOpen : Open duty s)
    {Q : Unit → Trace Listener → Listener → Prop}
    (hQ : ∀ p' s', AtWork l tidy duty p' s' → Q () p' s') :
    Secures (Admits l tidy duty) stepOperation Q p s := by
  rw [stepOperation, Secures.bind_iff]
  refine secures_collectReplies h isOpen fun p' s' h' => ?_
  exact Secures.modify_iff.mpr (hQ _ _ (h'.count (s'.steps + 1)))

/-! ### A whole operation -/

/-- After its mode is announced and its start is noted, an operation is at work. -/
theorem Sound.atWork (h : Sound l duty p s (some s.mode)) (idle : s.inOperation = false)
    (busy : (docket l p).isBusy = s.inOperation) (announced : announcedBy p = s.mode)
    (taken : s.pending = none) (active : s.isActive = true) (awake : s.isShutDown = false)
    (start : Span) :
    AtWork l tidy duty (p ++ [⟨{ s with inOperation := true, isFinished := false }, .now, start⟩])
      { s with inOperation := true, isFinished := false } where
  sound := by
    have hbegun := (h.begin busy idle awake).act
      (e := ⟨{ s with inOperation := true, isFinished := false }, .now, start⟩) rfl
    simpa only [taken] using hbegun
  busy := docket_append_isBusy l p _
  tidied _ :=
    { announced := (announcedBy_append p _).trans announced
      idle := by simp }
  firm _ hpending := by simp [taken] at hpending
  working := rfl
  ready _ _ _ := active

theorem secures_announce {mode : Mode}
    (h : Admits l tidy duty p { s with mode } (.announceMode mode))
    {Q : Unit → Trace Listener → Listener → Prop}
    (hQ : Q () (p ++ [⟨{ s with mode }, .announceMode mode, ()⟩]) { s with mode }) :
    Secures (Admits l tidy duty) (announce mode) Q p s := by
  rw [announce, Secures.bind_iff, Secures.modify_iff]
  exact Secures.perform_iff.mpr ⟨h, fun _ => hQ⟩

/-- When an operation has ended, the default mode is announced. -/
theorem secures_end (h : AtWork l tidy duty p s)
    (cause : TimedOut p ∨ s.isShutDown = true ∨ (record l p s).Concluded)
    {Q : Unit → Trace Listener → Listener → Prop}
    (hQ : ∀ p' s', OnDuty l tidy duty p' s' → s'.inOperation = false → Q () p' s') :
    Secures (Admits l tidy duty) (do
      modify fun l => { l with inOperation := false, isFinished := false }
      announce .listener) Q p s := by
  have hended := h.sound.conclude h.busy cause
  rw [Secures.bind_iff, Secures.modify_iff]
  refine secures_announce ⟨⟨_, hended, .inl rfl⟩, fun _ h => absurd h id⟩ (hQ _ _ ?_ rfl)
  exact
    { sound := hended.act (e := ⟨_, .announceMode .listener, ()⟩) rfl
      busy := docket_append_isBusy l p _
      tidied := fun _ => ⟨announcedBy_append p _, fun _ => ⟨rfl, rfl⟩⟩
      firm := by
        intro hduty hpending hgone
        rw [record_append rfl rfl, record_of_idle h.busy rfl]
        exact (h.firm hduty hpending hgone).append _ }

/-- **The loop of an operation** ends for a reason. -/
theorem secures_operationLoop {mode : Mode} {start : Span} (h : AtWork l tidy duty p s)
    {Q : Unit → Trace Listener → Listener → Prop}
    (hQ : ∀ p' s', AtWork l tidy duty p' s' →
      TimedOut p' ∨ s'.isShutDown = true ∨ (record l p' s').Concluded → Q () p' s') :
    Secures (Admits l tidy duty) (Routine.iterate () fun _ => operationRound mode start) Q p s := by
  refine Secures.iterate (fun _ p' s' => AtWork l tidy duty p' s') ?_ h
  intro _ p' s' h'
  rw [operationRound, Secures.bind_iff, Secures.get_iff]
  split
  -- The loop ends before its next step: finished, or told to shut down.
  case isTrue ends =>
    refine Secures.pure_iff.mpr (hQ _ _ h' (.inr ?_))
    rcases Bool.or_eq_true_iff.mp ends with finished | gone
    · exact .inr (h'.sound.concluded h'.working finished)
    · exact .inl gone
  case isFalse goesOn =>
    rw [Bool.or_eq_true, not_or, Bool.not_eq_true, Bool.not_eq_true] at goesOn
    have isOpen : Open duty s' := h'.isOpen goesOn.1 goesOn.2
    rw [Secures.bind_iff]
    refine secures_elapsedSince h'.toSteady fun time t ht => ?_
    have hnow := h'.act ht
    split
    · -- The time is up, which is logged.
      rw [Secures.bind_iff]
      refine secures_quiet hnow.toSteady (by trivial) fun _ hnote => Secures.pure_iff.mpr ?_
      exact hQ _ _ (hnow.act hnote) (.inl ⟨_, s', mode, rfl⟩)
    · rw [Secures.bind_iff]
      refine hnow.secures_handleRequests isOpen ?_ ?_
      · intro p'' s'' h'' isOpen''
        rw [Bool.not_false, if_pos rfl, Secures.bind_iff]
        exact secures_stepOperation h'' isOpen'' fun _ _ h => Secures.pure_iff.mpr h
      · intro p'' s'' h''
        exact Secures.pure_iff.mpr h''

/-- **An operation runs**: it begins for the change that was taken up, and when it has ended, the
listener is on duty again. -/
theorem secures_runOperation {mode : Mode} (sound : Sound l duty p s (some mode))
    (tidied : tidy → Tidy p s) (idle : s.inOperation = false) (taken : s.pending = none)
    (active : s.isActive = true) (awake : s.isShutDown = false)
    {Q : Unit → Trace Listener → Listener → Prop}
    (hQ : ∀ p' s', OnDuty l tidy duty p' s' → s'.inOperation = false → Q () p' s') :
    Secures (Admits l tidy duty) (runOperation mode) Q p s := by
  rw [runOperation_eq, Secures.bind_iff]
  refine Secures.perform_iff.mpr ⟨⟨⟨_, sound, .inr ⟨taken, mode, rfl, .inl rfl⟩⟩, fun htidy _ =>
    tidied htidy⟩, fun _ => ?_⟩
  have hnoted := sound.act
    (e := ⟨s, .log [Log.debug ("TM listener entering mode " ++ mode.label)], ()⟩) rfl
  -- The mode is announced first; the operation has not begun, and nothing is pending meanwhile.
  have hentering : Sound l duty _ { s with mode } (some mode) :=
    hnoted.amend (docket_append_isBusy l p _) rfl (fun working => by simp [idle] at working)
      (fun working => by simp [idle] at working) id
  rw [Secures.bind_iff]
  refine secures_announce ⟨⟨_, hentering, .inr ⟨taken, mode, rfl, .inr rfl⟩⟩, fun _ h =>
    absurd h id⟩ ?_
  have hannounced := hentering.act (e := ⟨{ s with mode }, .announceMode mode, ()⟩) rfl
  have hbusy := docket_append_isBusy l (p ++ [⟨s, .log [Log.debug ("TM listener entering mode " ++
    mode.label)], ()⟩]) ⟨{ s with mode }, .announceMode mode, ()⟩
  rw [Secures.bind_iff, Secures.modify_iff, Secures.bind_iff]
  refine Secures.perform_iff.mpr ⟨⟨⟨none, hannounced.begin hbusy idle awake, .inl taken.symm⟩,
    fun _ h => absurd h id⟩, fun start => ?_⟩
  -- From here on the operation is running.
  have hwork : AtWork l tidy duty _ { s with mode, inOperation := true, isFinished := false } :=
    hannounced.atWork idle hbusy (announcedBy_append _ _) taken active awake start
  rw [Secures.bind_iff]
  exact secures_operationLoop hwork fun p' s' h' cause => secures_end h' cause hQ

/-! ### The whole work -/

/-- A pending mode that is not taken up was withdrawn. -/
theorem OnDuty.drop (h : OnDuty l tidy duty p s)
    (gone : s.isShutDown || !s.isActive) : OnDuty l tidy duty p { s with pending := none } where
  sound := by
    have hgone : s.isActive = false ∨ s.isShutDown = true := by
      rcases Bool.or_eq_true_iff.mp gone with gone | gone
      · exact .inr gone
      · exact .inl (by simpa using gone)
    have hdropped := h.sound.drop fun hduty hpending => h.firm hduty hpending hgone
    exact hdropped.amend h.busy rfl (fun _ => rfl) hdropped.concluded id
  busy := h.busy
  tidied htidy := ⟨(h.tidied htidy).announced, (h.tidied htidy).idle⟩
  firm := by simp

/-- After the requests, the link is polled and all modes that are pending are taken up. -/
theorem secures_takeUp (h : OnDuty l tidy duty p s) (idle : s.inOperation = false)
    {Q : Unit → Trace Listener → Listener → Prop}
    (hQ : ∀ p' s', OnDuty l tidy duty p' s' → s'.inOperation = false → s'.pending = none →
      Q () p' s') :
    Secures (Admits l tidy duty) (do
      let _ ← pollOnce
      Routine.iterate () fun _ => do
        let l ← get
        match l.pending with
        | none => return .inr ()
        | some mode =>
          set { l with pending := none }
          if l.isShutDown || !l.isActive then return .inr ()
          runOperation mode
          return .inl ()) Q p s := by
  rw [Secures.bind_iff]
  refine secures_pollOnce h.toSteady fun _ t ht => ?_
  refine Secures.iterate (fun _ p' s' => OnDuty l tidy duty p' s' ∧ s'.inOperation = false) ?_
    ⟨h.act ht, idle⟩
  rintro _ p' s' ⟨h', idle'⟩
  simp only [Secures.bind_iff, Secures.get_iff]
  split
  case h_1 hnone => exact Secures.pure_iff.mpr (hQ _ _ h' idle' hnone)
  case h_2 mode hsome =>
    simp only [Secures.bind_iff, Secures.set_iff]
    split
    case isTrue gone => exact Secures.pure_iff.mpr (hQ _ _ (h'.drop gone) idle' rfl)
    case isFalse taken =>
      rw [Bool.or_eq_true, not_or, Bool.not_eq_true, Bool.not_eq_true, Bool.not_eq_false'] at taken
      have hsound : Sound l duty p' s' (some mode) := by
        rw [← hsome]
        exact h'.sound
      -- The mode is not pending any more, but its operation is about to begin.
      have htaken : Sound l duty p' { s' with pending := none } (some mode) :=
        hsound.amend h'.busy rfl (fun _ => rfl) hsound.concluded id
      have htidied : tidy → Tidy p' { s' with pending := none } := fun htidy =>
        ⟨(h'.tidied htidy).announced, (h'.tidied htidy).idle⟩
      rw [Secures.bind_iff]
      refine secures_runOperation htaken htidied idle' rfl taken.2 taken.1
        fun p'' s'' h'' idle'' => ?_
      exact Secures.pure_iff.mpr ⟨h'', idle''⟩

/-- **A round of the listener** takes up all modes that are pending. -/
theorem secures_defaultOperation (h : OnDuty l tidy duty p s) (isOpen : Open duty s)
    (idle : s.inOperation = false) {Q : Unit → Trace Listener → Listener → Prop}
    (hQ : ∀ p' s', OnDuty l tidy duty p' s' → s'.inOperation = false → s'.pending = none →
      Q () p' s') : Secures (Admits l tidy duty) defaultOperation Q p s := by
  rw [defaultOperation, Secures.bind_iff]
  refine secures_handleRequests h isOpen ?_ ?_
  · intro p' s' h' _ hsame
    exact secures_takeUp h' (hsame.trans idle) hQ
  · intro p' s' h' hsame _
    exact secures_takeUp h' (hsame.trans idle) hQ

/-- While it is inactive, the listener keeps the last mode that was asked for. -/
theorem secures_idle (h : Steady l tidy duty p s) (idle : s.inOperation = false)
    {Q : Unit → Trace Listener → Listener → Prop}
    (hQ : ∀ p' s', Steady l tidy duty p' s' → s'.inOperation = false → Q () p' s') :
    Secures (Admits l tidy duty) Listener.idle Q p s := by
  rw [Listener.idle, Secures.bind_iff]
  refine Secures.perform_iff.mpr ⟨h.admits _, fun incoming => ?_⟩
  cases incoming with
  | request r =>
    have hnext : Steady l tidy duty
        (p ++ [⟨s, .awaitRequest Settings.inactiveInterval, .request r⟩]) (s.handle r).1 :=
      Steady.handle (e := ⟨s, .awaitRequest Settings.inactiveInterval, .request r⟩) h rfl
    simp only [Secures.bind_iff]
    refine secures_accept hnext fun t ht => Secures.pure_iff.mpr (hQ _ _ (hnext.act ht) ?_)
    rw [handle_inOperation, idle]
  | nothing =>
    refine Secures.pure_iff.mpr (hQ _ _ ?_ idle)
    exact Steady.look (e := ⟨s, .awaitRequest Settings.inactiveInterval, .nothing⟩) h rfl
  | disconnected =>
    refine Secures.modify_iff.mpr (hQ _ _ ?_ idle)
    exact Steady.disconnect (e := ⟨s, .awaitRequest Settings.inactiveInterval, .disconnected⟩) h rfl

/-- **The whole work of the listener.** -/
theorem secures_perform (h : Steady l tidy duty p s) (idle : s.inOperation = false)
    {Q : Unit → Trace Listener → Listener → Prop}
    (hQ : ∀ p' s', Steady l tidy duty p' s' → s'.inOperation = false → Q () p' s') :
    Secures (Admits l tidy duty) perform Q p s := by
  rw [perform, Secures.bind_iff]
  refine secures_quiet h (by trivial) fun _ hstarted => ?_
  rw [Secures.bind_iff]
  refine Secures.iterate (fun _ p s => Steady l tidy duty p s ∧ s.inOperation = false) ?_
    ⟨h.act hstarted, idle⟩
  rintro _ p s ⟨h, idle⟩
  simp only [Secures.bind_iff, Secures.get_iff]
  split
  · refine Secures.pure_iff.mpr (secures_quiet h (by trivial) fun _ hstopped => ?_)
    exact hQ _ _ (h.act hstopped) idle
  · rename_i awake
    rw [Bool.not_eq_true] at awake
    split
    · rename_i active
      -- A listener that is active and not shut down takes up whatever is pending.
      have hduty : OnDuty l tidy duty p s :=
        { h with firm := fun _ _ hgone => by simp [active, awake] at hgone }
      rw [Secures.bind_iff]
      refine secures_defaultOperation hduty (fun _ => ⟨active, awake⟩) idle
        fun p' s' h' idle' _ => ?_
      rw [Secures.bind_iff]
      refine secures_quiet h'.toSteady (by trivial) fun _ hsleep => Secures.pure_iff.mpr ?_
      exact ⟨h'.toSteady.act hsleep, idle'⟩
    · rw [Secures.bind_iff]
      exact secures_idle h idle fun p' s' h' idle' => Secures.pure_iff.mpr ⟨h', idle'⟩

end GroundLink.Listener
