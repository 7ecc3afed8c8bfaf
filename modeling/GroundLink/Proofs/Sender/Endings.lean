import GroundLink.Proofs.Sender.Dispatch
import GroundLink.Proofs.Sender.Plain

/-!
# Waits that end

Whether a call of a sender comes to an end depends on its waits, and on nothing else.  In a world in
which a sender that looks for a reply often enough finds one, or is told by the clock that the time
for it is up (`Sender.WaitsEnd`), both loops end: a wait has only so many rounds before the
telecommand is sent again, it is sent again only so often, and the queue gets shorter with every
wait.
-/

namespace GroundLink

/-- How often a sender has looked for a reply since its last transmission. -/
def Deed.looksAfter (d : Deed Sender) (looks : Nat) : Nat :=
  match d.effect with
  | .send _ => 0
  | .takeReply => looks + 1
  | _ => looks

namespace Sender

open Activity (Follows Reaches)
open Routine

/-- How often a sender has looked for a reply since its last transmission. -/
def looks (t : Trace Sender) : Nat := t.foldl (fun looks d => d.looksAfter looks) 0

/-- **The waits of a routine end** in a world, after the deeds `p` and from the state `s`: whenever
it looks for a reply and has looked `n` times since its last transmission, it finds one, or the
clock shows that the time for it is up. -/
def WaitsEnd (world : Trace Sender → (effect : Effect) → effect.Answer) (n : Nat) {α : Type}
    (m : Routine Sender α) (p : Trace Sender) (s : Sender) : Prop :=
  ∀ t r next, Reaches (m s) t (.act r .takeReply next) → Follows world p t → n ≤ looks (p ++ t) →
    world (p ++ t) .takeReply = true ∨
      ∃ start, r.started = some start ∧
        r.tcTimeout ≤ world (p ++ t ++ [⟨r, .takeReply, false⟩]) .now - start

variable {world : Trace Sender → (effect : Effect) → effect.Answer} {n : Nat} {α β : Type}
  {p t u : Trace Sender} {r s s' : Sender} {tc : Telecommand.Packed} {start : Span}

/-! ### Parts of a routine -/

namespace WaitsEnd

theorem of_bind_left {m : Routine Sender α} {f : α → Routine Sender β}
    (h : WaitsEnd world n (m >>= f) p s) : WaitsEnd world n m p s :=
  fun t r _ run => h t r _ (run.bind fun x => f x.1 x.2)

theorem of_bind_right {m : Routine Sender α} {f : α → Routine Sender β} {x : α}
    (h : WaitsEnd world n (m >>= f) p s) (run : m.Completes s t x s')
    (follows : Follows world p t) :
    WaitsEnd world n (f x) (p ++ t) s' := by
  intro u r next rest followsRest long
  have hwhole : Reaches ((m >>= f) s) (t ++ u) (.act r .takeReply next) :=
    (run.bind fun x => f x.1 x.2).trans rest
  have hend := h (t ++ u) r next hwhole (follows.append followsRest)
  rw [← List.append_assoc] at hend
  exact hend long

/-- The first of two routines ends, and then the second. -/
theorem halts_bind {m : Routine Sender α} {f : α → Routine Sender β}
    (h : WaitsEnd world n (m >>= f) p s) (first : WaitsEnd world n m p s → Halts world m p s)
    (second : ∀ t x s', m.Completes s t x s' → Follows world p t →
      WaitsEnd world n (f x) (p ++ t) s' → Halts world (f x) (p ++ t) s') :
    Halts world (m >>= f) p s :=
  Halts.bind (first h.of_bind_left) fun t x s' run follows =>
    second t x s' run follows (h.of_bind_right run follows)

variable {ι : Type} {body : ι → Routine Sender (ι ⊕ α)} {i j : ι}

/-- The next round of a loop. -/
theorem of_round (h : WaitsEnd world n (Routine.iterate i body) p s)
    (round : (body i).Completes s t (.inl j) s') (follows : Follows world p t) :
    WaitsEnd world n (Routine.iterate j body) (p ++ t) s' := by
  intro u r next rest followsRest long
  have hwhole : Reaches (Routine.iterate i body s) (t ++ u) (.act r .takeReply next) :=
    .loop (((round.bind _).bind _).trans rest)
  have hend := h (t ++ u) r next hwhole (follows.append followsRest)
  rw [← List.append_assoc] at hend
  exact hend long

theorem of_body (h : WaitsEnd world n (Routine.iterate i body) p s) :
    WaitsEnd world n (body i) p s :=
  fun t r _ run => h t r _ (.loop ((run.bind _).bind _))

end WaitsEnd

/-! ### One round less -/

theorem looks_append_logs {v : Trace Sender} (h : Logs r v) (t : Trace Sender) :
    looks (t ++ v) = looks t := by
  unfold looks
  rw [List.foldl_append]
  generalize t.foldl (fun looks d => d.looksAfter looks) 0 = k
  induction v with
  | nil => rfl
  | cons d v ih =>
    obtain ⟨hd, hrest⟩ := List.forall_mem_cons.mp h
    obtain ⟨mark, effect, answer⟩ := d
    obtain ⟨-, entries, heffect⟩ := hd
    cases heffect
    exact ih hrest

theorem looks_concat (t : Trace Sender) (d : Deed Sender) :
    looks (t ++ [d]) = d.looksAfter (looks t) := by
  unfold looks
  rw [List.foldl_append]
  rfl

/-- How many rounds of waiting there are left, at most. -/
def roundsLeft (n : Nat) (p : Trace Sender) (s : Sender) : Nat :=
  (Settings.maxResends - s.resends) * (n + 2) + (n + 1 - looks p)

theorem roundsLeft_lt (n : Nat) (p : Trace Sender) (s : Sender) :
    roundsLeft n p s < 6 * (n + 2) := by
  have hresends : (Settings.maxResends - s.resends) * (n + 2) ≤ 5 * (n + 2) :=
    Nat.mul_le_mul_right _ (Nat.sub_le _ _)
  unfold roundsLeft
  omega

/-- **A round without a reply** ends the wait, or leaves fewer rounds. -/
theorem Check.settles_or_lt (step : Check tc s start t s')
    (follows : Follows world p (emptyRound s t s'))
    (due : n ≤ looks p → s.tcTimeout ≤ world (p ++ [⟨s, .takeReply, false⟩]) .now - start) :
    (s'.isPending = false ∧ s'.isAnswered = true) ∨
      (s'.isPending = s.isPending ∧ s'.isAnswered = s.isAnswered ∧
        roundsLeft n (p ++ emptyRound s t s') s' < roundsLeft n p s) := by
  cases step with
  | exhausted => exact .inl ⟨rfl, rfl⟩
  | givenUp => exact .inl ⟨rfl, rfl⟩
  | waiting reading few early =>
    have hreading : reading = world (p ++ [⟨s, .takeReply, false⟩]) .now := follows.2.1
    rw [hreading] at early
    -- The time is not up yet, so that there were fewer looks than `n`.
    have hearly : looks p < n := Nat.lt_of_not_le fun long => early (due long)
    have hlooks : looks (p ++ emptyRound s [⟨s, .now, reading⟩] s) = looks p + 1 := by
      unfold looks
      rw [List.foldl_append]
      rfl
    refine .inr ⟨rfl, rfl, ?_⟩
    unfold roundsLeft
    rw [hlooks]
    omega
  | repeated reading restart entry printer printed failure sent few _ _ hp hf =>
    have hlooks : ∀ m m' : Sender, looks ((p ++ ⟨s, .takeReply, false⟩ ::
        ([⟨s, .now, reading⟩, ⟨s, .log [entry], ()⟩] ++ printed)) ++ [⟨m, .send tc, sent⟩] ++
          failure ++ [⟨m, .now, restart⟩] ++ [⟨m', .sleep Settings.checkInterval, ()⟩]) = 0 := by
      intro m m'
      rw [looks_concat, looks_concat, looks_append_logs hf, looks_concat]
      rfl
    refine .inr ⟨rfl, rfl, ?_⟩
    -- The count of looks starts again, but one retransmission less is left.
    have hmore : Settings.maxResends - s.resends = Settings.maxResends - (s.resends + 1) + 1 := by
      omega
    have hround := hlooks { s with printer }
      { s with printer, resends := s.resends + 1, started := some restart }
    simp only [List.append_assoc, List.cons_append, List.nil_append] at hround
    unfold roundsLeft emptyRound
    simp only [List.append_assoc, List.cons_append, List.nil_append]
    rw [hround, hmore, Nat.succ_mul]
    omega

/-! ### The wait for a single telecommand -/

/-- A round of waiting for a reply, if it is not the last one. -/
theorem secures_awaitRound_again (last : s.last = some tc) (started : s.started = some start) :
    Secures (Looks fun _ _ => True) awaitRound
      (fun x q s' => x = .inl () → s.isPending = true ∧
        ((q = p ++ [⟨s, .takeReply, true⟩] ∧ s' = s.settled) ∨
          ∃ t, q = p ++ emptyRound s t s' ∧ Check tc s start t s')) p s := by
  unfold awaitRound
  rw [Secures.bind_iff, Secures.get_iff]
  cases pending : s.isPending with
  | false =>
    rw [Bool.not_false, if_pos rfl, Secures.pure_iff]
    exact nofun
  | true =>
    rw [Bool.not_true, if_neg Bool.false_ne_true, Secures.bind_iff]
    refine secures_checkForFirstReply last started trivial ?_ fun t s' step => ?_
    · exact Secures.pure_iff.mpr fun _ => ⟨rfl, .inl ⟨rfl, rfl⟩⟩
    · exact Secures.pure_iff.mpr fun _ => ⟨rfl, .inr ⟨t, rfl, step⟩⟩

/-- A look that finds nothing, although a sender looked often enough, comes when the time is up. -/
theorem WaitsEnd.due {m : Routine Sender α} {next : Bool → Activity Sender (α × Sender)}
    (h : WaitsEnd world n m p s) (looks_at : m s = .act s .takeReply next)
    (started : s.started = some start) (answer : false = world p .takeReply) :
    n ≤ looks p → s.tcTimeout ≤ world (p ++ [⟨s, .takeReply, false⟩]) .now - start := by
  intro long
  have hstart : Reaches (m s) [] (.act s .takeReply next) := looks_at ▸ .refl _
  have hend := h [] s next hstart trivial (by rwa [List.append_nil])
  rw [List.append_nil] at hend
  rcases hend with found | ⟨start', hstart', hdue⟩
  · rw [← answer] at found
    cases found
  · rw [started] at hstart'
    cases hstart'
    exact hdue

/-- A round starts with a look for a reply, while the telecommand waits. -/
theorem awaitRound_looks (pending : s.isPending = true) :
    ∃ next, awaitRound s = .act s .takeReply next := by
  cases s
  cases pending
  exact ⟨_, rfl⟩

/-- **The wait for a single telecommand ends.** -/
theorem WaitsEnd.halts_awaitReply (h : WaitsEnd world n awaitReply p r) (last : r.last = some tc)
    (started : r.started = some start) : Halts world awaitReply p r := by
  rw [awaitReply_eq] at h ⊢
  -- Measure: the rounds that are left while a reply is pending.
  refine Halts.iterate
    (fun _ q s => WaitsEnd world n (Routine.iterate () fun _ => awaitRound) q s ∧
      s.last = some tc ∧ ∃ start, s.started = some start)
    (fun _ q s => if s.isPending then 1 + roundsLeft n q s else 0)
    (fun _ => plain_awaitRound.loopFree) ?_ ⟨h, last, start, started⟩
  rintro ⟨⟩ q s t ⟨⟩ s' ⟨waitsEnd, last, start, started⟩ round follows
  have hnext := waitsEnd.of_round round follows
  obtain ⟨pending, ⟨hq, rfl⟩ | ⟨v, hq, step⟩⟩ :=
    (secures_awaitRound_again last started (p := q)).of_completes round rfl
  · refine ⟨⟨hnext, last, start, started⟩, ?_⟩
    have hsettled : s.settled.isPending = false := rfl
    rw [hsettled, if_neg Bool.false_ne_true, if_pos pending]
    omega
  · obtain rfl := List.append_cancel_left hq
    obtain ⟨next, hlooks⟩ := awaitRound_looks pending
    have hdue := waitsEnd.of_body.due hlooks started follows.1
    refine ⟨⟨hnext, step.ready last started⟩, ?_⟩
    rw [if_pos pending]
    rcases step.settles_or_lt follows hdue with ⟨settled, -⟩ | ⟨same, -, hless⟩
    · rw [settled, if_neg Bool.false_ne_true]
      omega
    · rw [same, pending, if_pos rfl]
      omega

/-! ### The waits for the telecommands of a queue -/

theorem plain_moveOn (queue : Queue) : Plain IsOwn (moveOn queue) := by
  refine plain_bind plain_printTelemetry fun _ => ?_
  refine plain_bind (plain_sendNext queue) fun sent => ?_
  split
  · exact plain_pure _
  · exact plain_bind (plain_perform trivial) fun _ => plain_pure _
  · exact plain_pure _

theorem plain_othersRound (queue : Queue) : Plain IsOwn (othersRound queue) := by
  have hlooked : Plain IsOwn (do
      if !(← get).isAnswered then
        checkForTimeout
        return .inl queue
      moveOn queue : Routine Sender (Queue ⊕ Except Link.Error Unit × Queue)) := by
    refine plain_bind plain_get fun s => ?_
    split
    · exact plain_bind plain_checkForTimeout fun _ => plain_pure _
    · exact plain_moveOn queue
  refine plain_bind (plain_perform trivial) fun replied => ?_
  cases replied with
  | true => exact plain_bind (plain_modify _) fun _ => hlooked
  | false => exact hlooked

/-- A telecommand was just sent, and the queue got shorter. -/
structure Moved (queue rest : Queue) (s' : Sender) : Prop where
  shorter : rest.length < queue.length
  unanswered : s'.isAnswered = false
  ready : ∃ tc start, s'.last = some tc ∧ s'.started = some start

theorem secures_sendNext_moved (queue : Queue) :
    Secures (Looks fun _ _ => True) (sendNext queue)
      (fun x _ s' => ∀ rest, x = (.ok true, rest) → Moved queue rest s') p s := by
  refine secures_sendNext_split queue (fun t s' _ _ => nofun) ?_
  rintro directives tc rest t s₁ start sent u s₂ hqueue - - htransmits rest' hx
  rcases sent with cause | ⟨⟩
  · cases hx
  · cases hx
    obtain ⟨last, started, -, unanswered, -, -⟩ := htransmits.ready
    refine ⟨?_, unanswered, tc, start, last, started⟩
    rw [hqueue, List.length_append, List.length_cons]
    omega

/-- A round of the sequential sender, if it is not the last one. -/
theorem secures_othersRound_again (queue : Queue) (last : s.last = some tc)
    (started : s.started = some start) :
    Secures (Looks fun _ _ => True) (othersRound queue)
      (fun x q s' => ∀ rest, x = .inl rest → Moved queue rest s' ∨
        (rest = queue ∧ s.isAnswered = false ∧
          ∃ t, q = p ++ emptyRound s t s' ∧ Check tc s start t s')) p s := by
  -- Moving on takes a telecommand off the queue, or it is the last round.
  have hmove (q : Trace Sender) (s₁ : Sender) : Secures (Looks fun _ _ => True) (moveOn queue)
      (fun x _ s' => ∀ rest, x = .inl rest → Moved queue rest s') q s₁ := by
    unfold moveOn
    rw [Secures.bind_iff]
    refine secures_printTelemetry fun batches printer printed hprinted => ?_
    rw [Secures.bind_iff]
    refine (secures_sendNext_moved queue).mono fun x q' s' hmoved => ?_
    split
    · refine Secures.pure_iff.mpr fun rest hrest => ?_
      cases hrest
      exact hmoved _ rfl
    · rw [Secures.bind_iff]
      exact secures_note (Secures.pure_iff.mpr nofun)
    · exact Secures.pure_iff.mpr nofun
  unfold othersRound
  rw [Secures.bind_iff]
  refine Secures.perform_iff.mpr ⟨fun _ => trivial, fun replied => ?_⟩
  cases replied with
  | true =>
    rw [if_pos rfl, Secures.bind_iff, Secures.modify_iff, Secures.bind_iff, Secures.get_iff,
      Bool.not_true, if_neg Bool.false_ne_true]
    exact (hmove _ _).mono fun x q s' h rest hrest => .inl (h rest hrest)
  | false =>
    rw [if_neg Bool.false_ne_true, Secures.bind_iff, Secures.get_iff]
    cases answered : s.isAnswered with
    | true =>
      rw [Bool.not_true, if_neg Bool.false_ne_true]
      exact (hmove _ _).mono fun x q s' h rest hrest => .inl (h rest hrest)
    | false =>
      rw [Bool.not_false, if_pos rfl, Secures.bind_iff]
      refine secures_checkForTimeout last started fun t s' step => Secures.pure_iff.mpr ?_
      rintro rest hrest
      cases hrest
      exact .inr ⟨rfl, rfl, t, by simp [emptyRound], step⟩

/-- **The waits for the telecommands of a queue end.** -/
theorem WaitsEnd.halts_sendOthers {queue : Queue} (h : WaitsEnd world n (sendOthers queue) p r)
    (last : r.last = some tc) (started : r.started = some start) :
    Halts world (sendOthers queue) p r := by
  rw [sendOthers_eq] at h ⊢
  -- Measure: the queue weighs more than all rounds of one wait, so that a shorter queue
  -- pays for the wait of its next telecommand.
  refine Halts.iterate
    (fun rest q s => WaitsEnd world n (Routine.iterate rest othersRound) q s ∧
      ∃ tc start, s.last = some tc ∧ s.started = some start)
    (fun rest q s => rest.length * (6 * (n + 2) + 1) +
      if s.isAnswered then 0 else 1 + roundsLeft n q s)
    (fun rest => (plain_othersRound rest).loopFree) ?_ ⟨h, tc, start, last, started⟩
  rintro rest q s t rest' s' ⟨waitsEnd, tc, start, last, started⟩ round follows
  have hnext := waitsEnd.of_round round follows
  have hround := (secures_othersRound_again rest last started (p := q)).of_completes round rest' rfl
  have hleft := roundsLeft_lt n (q ++ t) s'
  rcases hround with ⟨shorter, unanswered, ready⟩ | ⟨rfl, unanswered, v, hq, step⟩
  · refine ⟨⟨hnext, ready⟩, ?_⟩
    have hqueue : (rest'.length + 1) * (6 * (n + 2) + 1) ≤ rest.length * (6 * (n + 2) + 1) :=
      Nat.mul_le_mul_right _ shorter
    rw [Nat.succ_mul] at hqueue
    rw [unanswered, if_neg Bool.false_ne_true]
    omega
  · obtain rfl := List.append_cancel_left hq
    obtain ⟨hlast, restart, hrestart⟩ := step.ready last started
    have hdue := waitsEnd.of_body.due rfl started follows.1
    refine ⟨⟨hnext, tc, restart, hlast, hrestart⟩, ?_⟩
    rw [unanswered, if_neg Bool.false_ne_true]
    rcases step.settles_or_lt follows hdue with ⟨-, answered⟩ | ⟨-, same, hless⟩
    · rw [answered, if_pos rfl]
      omega
    · rw [same, unanswered, if_neg Bool.false_ne_true]
      omega

/-! ### Whole calls -/

/-- **The work of the sender of a single telecommand ends.** -/
theorem WaitsEnd.halts_sendSingle (h : WaitsEnd world n (sendSingle tc) p s) :
    Halts world (sendSingle tc) p s := by
  unfold sendSingle at h ⊢
  refine h.halts_bind (fun _ => (plain_enterMode _ s).halts p) fun t entered s₁ _ _ h => ?_
  cases entered with
  | false => exact (loopFree_pure _ s₁).halts _
  | true =>
    rw [Bool.not_true, if_neg Bool.false_ne_true] at h ⊢
    refine h.halts_bind (fun _ => (loopFree_modify _ s₁).halts _) fun t _ s₂ run _ h => ?_
    cases run
    refine h.halts_bind (fun _ => (plain_sendLast _).halts _) fun u sent r run _ h => ?_
    obtain ⟨start, transmits⟩ := exists_transmits_of_completes run
    obtain ⟨last, started, -⟩ := transmits.ready
    rcases sent with cause | ⟨⟩
    · exact (plain_conclude (.error cause) r).halts _
    · refine h.halts_bind (fun h => h.halts_awaitReply last started) ?_
      exact fun _ _ s' _ _ _ => (plain_conclude (.ok ()) s').halts _

theorem WaitsEnd.halts_sendQueue {queue : Queue} (h : WaitsEnd world n (sendQueue queue) p s) :
    Halts world (sendQueue queue) p s := by
  unfold sendQueue at h ⊢
  refine h.halts_bind (fun _ => (plain_sendNext queue s).halts p) ?_
  rintro t ⟨sent, rest⟩ s₁ run - h
  rcases sent with cause | _ | _
  · exact (loopFree_pure _ s₁).halts _
  · exact (loopFree_bind (loopFree_perform _) (fun _ => loopFree_pure _) s₁).halts _
  · have hmoved := (secures_sendNext_moved queue (p := p)).of_completes run rest rfl
    obtain ⟨tc, start, last, started⟩ := hmoved.ready
    exact WaitsEnd.halts_sendOthers h last started

/-- **The work of the sequential sender ends.** -/
theorem WaitsEnd.halts_sendSequentially {mode : Listener.Mode} {queue : Queue}
    (h : WaitsEnd world n (sendSequentially mode queue) p s) :
    Halts world (sendSequentially mode queue) p s := by
  unfold sendSequentially at h ⊢
  refine h.halts_bind (fun _ => (plain_enterMode _ s).halts p) fun t entered s₁ _ _ h => ?_
  cases entered with
  | false => exact (loopFree_pure _ s₁).halts _
  | true =>
    rw [Bool.not_true, if_neg Bool.false_ne_true] at h ⊢
    refine h.halts_bind (fun h => h.halts_sendQueue) fun t sent s₂ _ _ _ => ?_
    exact (plain_bind (plain_finish _) (fun _ => plain_pure _) s₂).halts _

end Sender

end GroundLink
