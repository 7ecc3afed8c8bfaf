import GroundLink.Proofs.Client.Race
import Mathlib.Data.List.Induction

/-!
# The farewell is last

Exactly one of the calls that race to leave the client wins.  It sends the farewell and closes the
link in one go, so that nothing is transmitted after the farewell, and it tells the listener to shut
down, even if the farewell could not be sent (`Client.closes_once`).

`Client.Standing` is the invariant of a race.  The right to close the client is taken if and only if
a call was granted it, which happens once, and only that call closes the link.
-/

namespace GroundLink.Client

open Activity (Reaches)
open Bench (World)
open Turn (farewell grant)

variable {apid : UInt16} {w : World} {h h' h'' : List Turn} {x : Turn} {kind : Effect → Bool}

/-! ### The invariant -/

/-- How things stand after some turns. -/
structure Standing (w : World) (h : List Turn) : Prop where
  closes : (after w h).link.Closes
  closings : (after w h).faults.closings = 0
  /-- The right to close the client is taken if a call was granted it. -/
  claimed : (after w h).isExited = true ↔ ∃ k, grant k ∈ h
  /-- No two calls were granted the right. -/
  unique : ∀ {j k}, grant j ∈ h → grant k ∈ h → j = k
  stopped : ∀ k, .did (.exit k) ⟨(), .stop, ()⟩ ∈ h → (after w h).isRunning = false
  closed : ∀ x ∈ h, x.does concludes = true → (after w h).link.isClosed = true
  /-- Only a call that was granted the right did one of the last things. -/
  granted : ∀ {kind}, IsLast kind → ∀ x ∈ h, x.does kind = true →
    ∃ k d, x = .did (.exit k) d ∧ grant k ∈ h
  once : ∀ {kind}, IsLast kind → h.countP (Turn.does kind) ≤ 1

/-- A world in which a client can be closed: its link refuses transmissions once it is closed and
does not fail to close, and nobody has claimed the right to close the client yet. -/
structure IsOpen (w : World) : Prop where
  closes : w.link.Closes
  closings : w.faults.closings = 0
  isExited : w.isExited = false

theorem IsOpen.standing (isOpen : IsOpen w) : Standing w [] where
  closes := isOpen.closes
  closings := isOpen.closings
  claimed := by simp [after, isOpen.isExited]
  unique hj := absurd hj List.not_mem_nil
  stopped _ hk := absurd hk List.not_mem_nil
  closed _ hx := absurd hx List.not_mem_nil
  granted _ _ hx := absurd hx List.not_mem_nil
  once _ := Nat.zero_le _

namespace Standing

variable (standing : Standing w h) (possible : x.IsPossible (after w h))
  (admitted : Admitted apid h x)
include standing admitted

/-- **A last thing is done for the first time.** -/
theorem first (last : IsLast kind) (does : x.does kind = true) : ∀ y ∈ h, y.does kind = false := by
  intro y hy
  by_contra hdoes
  rw [Bool.not_eq_false] at hdoes
  -- Both are done by the call that was granted the right, which does them once.
  obtain ⟨k, d, rfl, hk, hnone⟩ := admitted.of_last last does
  obtain ⟨j, e, rfl, hj⟩ := standing.granted last y hy hdoes
  obtain rfl : j = k := standing.unique hj hk
  have hnot : kind e.effect = false := hnone e hy
  exact absurd (hnot.symm.trans hdoes) Bool.false_ne_true

include possible

/-- A turn is a claim, or leaves the right to close the client alone. -/
theorem claims_or_steady :
    (∃ k answer, x = .did (.exit k) ⟨(), .claimExit, answer⟩ ∧ answer = !(after w h).isExited) ∨
      (after w h).Steady (x.act (after w h)) ∧ ∀ k, x ≠ grant k := by
  cases x with
  | other change => exact .inr ⟨possible.toSteady, nofun⟩
  | did who d =>
    obtain ⟨mark, effect, answer⟩ := d
    by_cases claim : effect = .claimExit
    · subst claim
      obtain ⟨k, rfl⟩ := admitted.of_claim rfl
      exact .inl ⟨k, answer, rfl, possible⟩
    · refine .inr ⟨World.perform_steady standing.closes standing.closings claim, ?_⟩
      rintro k hgrant
      cases hgrant
      exact claim rfl

/-- A turn leaves a link that can be closed, and does not let the client go on. -/
theorem act_keeps : (x.act (after w h)).link.Closes ∧ (x.act (after w h)).faults.closings = 0 ∧
    ((after w h).isRunning = false → (x.act (after w h)).isRunning = false) := by
  rcases standing.claims_or_steady possible admitted with ⟨k, answer, rfl, -⟩ | ⟨steady, -⟩
  · exact ⟨standing.closes, standing.closings, id⟩
  · exact ⟨steady.closes standing.closes, steady.closings.trans standing.closings, steady.stopped⟩

/-- A link is closed by the farewell, and stays closed. -/
theorem act_isClosed (closed : (after w h).link.isClosed = true ∨ x.does concludes = true) :
    (x.act (after w h)).link.isClosed = true := by
  cases hdoes : x.does concludes with
  | true =>
    obtain ⟨k, ⟨mark, effect, answer⟩, rfl, -, -⟩ := admitted.of_last .concludes hdoes
    cases effect with
    | conclude tc => exact (World.conclude_closes standing.closes standing.closings tc).2.2.1
    | _ => cases hdoes
  | false =>
    have hclosed : (after w h).link.isClosed = true := by simpa [hdoes] using closed
    exact (act_silent possible hclosed hdoes).link.isClosed.trans hclosed

/-- The right to close the client is taken with the first grant. -/
theorem act_claimed : (x.act (after w h)).isExited = true ↔ ∃ k, grant k ∈ h ++ [x] := by
  rcases standing.claims_or_steady possible admitted with ⟨k, answer, rfl, hanswer⟩ | ⟨steady, hx⟩
  · refine ⟨fun _ => ?_, fun _ => rfl⟩
    -- The claim is refused if the right was granted before, and granted otherwise.
    cases hexited : (after w h).isExited with
    | true =>
      obtain ⟨j, hj⟩ := standing.claimed.mp hexited
      exact ⟨j, List.mem_append_left _ hj⟩
    | false =>
      obtain rfl : answer = true := by rw [hanswer, hexited, Bool.not_false]
      exact ⟨k, List.mem_append_right _ List.mem_cons_self⟩
  · rw [steady.isExited, standing.claimed]
    constructor
    · exact fun ⟨k, hk⟩ => ⟨k, List.mem_append_left _ hk⟩
    · rintro ⟨k, hk⟩
      rcases List.mem_append.mp hk with hk | hk
      · exact ⟨k, hk⟩
      · exact absurd (List.mem_singleton.mp hk).symm (hx k)

omit admitted in
/-- The right is granted only while it is there. -/
theorem not_granted {k : Nat} (grants : x = grant k) (j : Nat) : grant j ∉ h := by
  intro hj
  have hexited : (after w h).isExited = true := standing.claimed.mpr ⟨j, hj⟩
  subst grants
  have hanswer : true = !(after w h).isExited := possible
  rw [hexited] at hanswer
  cases hanswer

omit admitted in
/-- No turn makes a second grant. -/
theorem step_unique {j k : Nat} (hj : grant j ∈ h ++ [x]) (hk : grant k ∈ h ++ [x]) : j = k := by
  rcases List.mem_append.mp hj with hj | hj
  · rcases List.mem_append.mp hk with hk | hk
    · exact standing.unique hj hk
    · exact absurd hj (standing.not_granted possible (List.mem_singleton.mp hk).symm j)
  · rcases List.mem_append.mp hk with hk | hk
    · exact absurd hk (standing.not_granted possible (List.mem_singleton.mp hj).symm k)
    · have hsame : grant j = grant k :=
        (List.mem_singleton.mp hj).trans (List.mem_singleton.mp hk).symm
      cases hsame
      rfl

omit possible in
/-- No turn repeats a last thing. -/
theorem step_once (last : IsLast kind) : (h ++ [x]).countP (Turn.does kind) ≤ 1 := by
  rw [List.countP_append, List.countP_singleton]
  cases does : x.does kind with
  | false => simpa using standing.once last
  | true =>
    have hnone : h.countP (Turn.does kind) = 0 := by
      rw [List.countP_eq_zero]
      intro y hy
      rw [standing.first admitted last does y hy]
      exact Bool.false_ne_true
    rw [hnone]
    exact Nat.le_refl 1

/-- **One turn** keeps the invariant. -/
theorem step : Standing w (h ++ [x]) := by
  have hact : after w (h ++ [x]) = x.act (after w h) := after_concat w h x
  obtain ⟨hcloses, hclosings, hstopped⟩ := standing.act_keeps possible admitted
  constructor
  case closes => exact hact ▸ hcloses
  case closings => exact hact ▸ hclosings
  case claimed => exact hact ▸ standing.act_claimed possible admitted
  case unique => exact standing.step_unique possible
  case stopped =>
    intro k hk
    rw [hact]
    rcases List.mem_append.mp hk with hk | hk
    · exact hstopped (standing.stopped k hk)
    · rw [← List.mem_singleton.mp hk]
      rfl
  -- The link was closed by a turn before, or this turn closes it.
  case closed =>
    intro y hy does
    rw [hact]
    refine standing.act_isClosed possible admitted ?_
    rcases List.mem_append.mp hy with hy | hy
    · exact .inl (standing.closed y hy does)
    · exact .inr (List.mem_singleton.mp hy ▸ does)
  case granted =>
    intro kind last y hy does
    rcases List.mem_append.mp hy with hy | hy
    · obtain ⟨k, d, rfl, hk⟩ := standing.granted last y hy does
      exact ⟨k, d, rfl, List.mem_append_left _ hk⟩
    · obtain rfl := List.mem_singleton.mp hy
      obtain ⟨k, d, rfl, hk, -⟩ := admitted.of_last last does
      exact ⟨k, d, rfl, List.mem_append_left _ hk⟩
  case once => exact standing.step_once admitted

end Standing

/-- **How things stand** at any moment. -/
theorem standing (isOpen : IsOpen w) (happens : Happens w (h ++ h')) (acts : Acts apid (h ++ h')) :
    Standing w h := by
  -- The induction is on whose turn it was last; what comes later does not matter.
  induction h using List.reverseRecOn generalizing h' with
  | nil => exact isOpen.standing
  | append_singleton h x ih =>
    rw [List.append_assoc] at happens acts
    exact (ih happens acts).step happens.possible acts.admitted

/-! ### After the farewell -/

/-- **Nothing is transmitted after the farewell.** -/
theorem silent_after (isOpen : IsOpen w) (concluded : x.does concludes = true)
    (happens : Happens w (h ++ x :: h' ++ h'')) (acts : Acts apid (h ++ x :: h' ++ h'')) :
    (after w (h ++ [x])).Silent (after w (h ++ x :: h')) := by
  -- The induction is on whose turn it was last.
  induction h' using List.reverseRecOn generalizing h'' with
  | nil => exact .refl _
  | append_singleton h' y ih =>
    have hlist : h ++ x :: (h' ++ [y]) = (h ++ x :: h') ++ [y] := by simp
    rw [hlist, List.append_assoc] at happens acts
    have hstanding := standing isOpen happens acts
    have hx : x ∈ h ++ x :: h' := List.mem_append_right _ List.mem_cons_self
    have hclosed := hstanding.closed x hx concluded
    -- Only a second farewell could still get through, as it is sent before the link is closed.
    have hother : y.does concludes = false := by
      by_contra does
      rw [Bool.not_eq_false] at does
      have hnot := hstanding.first acts.admitted .concludes does x hx
      exact absurd (hnot.symm.trans concluded) Bool.false_ne_true
    rw [hlist, after_concat w (h ++ x :: h') y]
    exact (ih happens acts).trans (act_silent happens.possible hclosed hother)

/-- **Only the farewell concludes.**  It is sent by a call that was granted the right, and the link
is closed with it, whether or not it could be sent. -/
theorem Standing.eq_farewell (standing : Standing w h) (possible : x.IsPossible (after w h))
    (admitted : Admitted apid h x) (concluded : x.does concludes = true) :
    ∃ k sent, x = farewell apid k sent ∧ grant k ∈ h ∧ (x.act (after w h)).sent =
      if sent.isOk then (after w h).sent.push ((after w h).now, (Telecommand.farewell apid).pack)
      else (after w h).sent := by
  obtain ⟨k, ⟨mark, effect, answer⟩, rfl, hk, -⟩ := admitted.of_last .concludes concluded
  cases effect with
  | conclude tc =>
    obtain ⟨rfl, -⟩ : tc = (Telecommand.farewell apid).pack ∧ _ := admitted
    obtain ⟨hanswer, -, -, -, hsent⟩ := World.conclude_closes standing.closes standing.closings
      (Telecommand.farewell apid).pack
    obtain rfl : answer = _ := Eq.trans possible hanswer
    exact ⟨k, _, rfl, hk, hsent.trans (World.send_sent _ _)⟩
  | _ => cases concluded

/-- **Sending fails after the farewell.** -/
theorem refused_after (isOpen : IsOpen w) (concluded : x.does concludes = true)
    (happens : Happens w (h ++ x :: h')) (acts : Acts apid (h ++ x :: h')) {who : Party}
    {m : who.State} {tc : Telecommand.Packed} {sent : Except Link.Error Unit}
    (sends : .did who ⟨m, .send tc, sent⟩ ∈ h') : ∃ cause, sent = .error cause := by
  obtain ⟨h₁, h₂, rfl⟩ := List.append_of_mem sends
  have hlist : h ++ x :: (h₁ ++ .did who ⟨m, .send tc, sent⟩ :: h₂) =
      (h ++ x :: h₁) ++ .did who ⟨m, .send tc, sent⟩ :: h₂ := by
    simp
  rw [hlist] at happens acts
  have hx : x ∈ h ++ x :: h₁ := List.mem_append_right _ List.mem_cons_self
  have hclosed := (standing isOpen happens acts).closed x hx concluded
  obtain ⟨cause, hcause⟩ := (World.send_fails hclosed tc).1
  have hanswer : sent = ((after w (h ++ x :: h₁)).send tc).1 := happens.possible
  exact ⟨cause, hanswer.trans hcause⟩

/-! ### How the client is closed -/

def Returned (apid : UInt16) (k : Nat) (h : List Turn) : Prop :=
  (exit apid).Completes () (deeds (.exit k) h) () ()

theorem Returned.returns {k : Nat} (returned : Returned apid k h) : Returns (deeds (.exit k) h) :=
  (secures_exit apid).of_completes returned

/-- **How a client is closed** in a race. -/
structure ClosesOnce (apid : UInt16) (w : World) (h : List Turn) : Prop where
  /-- Over all calls, the farewell is sent at most once. -/
  once : h.countP (Turn.does concludes) ≤ 1
  /-- The farewell is sent by a call that was granted the right to close the client, and the link is
  closed with it, even if it could not be sent.  What was transmitted in the end is what was
  transmitted before, and the farewell if it could be sent.  Later attempts to send fail. -/
  last : ∀ h₁ x h₂, h = h₁ ++ x :: h₂ → x.does concludes = true →
    ∃ k sent, x = farewell apid k sent ∧ grant k ∈ h₁ ∧
      ((after w h).sent =
        if sent.isOk then
          (after w h₁).sent.push ((after w h₁).now, (Telecommand.farewell apid).pack)
        else (after w h₁).sent) ∧
      (after w h).link.output = (after w (h₁ ++ [x])).link.output ∧
      ∀ who m tc refused, .did who ⟨m, .send tc, refused⟩ ∈ h₂ → ∃ cause, refused = .error cause
  /-- If any call has returned, exactly one call was granted the right to close the client. -/
  winner : (∃ k, Returned apid k h) → ∃ k, grant k ∈ h ∧ ∀ j, grant j ∈ h → j = k
  /-- Once the call that was granted the right has returned, the link was closed exactly once and
  the listener was told exactly once to shut down, whether or not the farewell could be sent. -/
  closed : ∀ k, grant k ∈ h → Returned apid k h →
    h.countP (Turn.does concludes) = 1 ∧ (after w h).link.isClosed = true ∧
      h.countP (Turn.does shutsDown) = 1
  /-- A listener that is still there gets the request to shut down. -/
  delivered : ∀ h₁ who m told h₂, h = h₁ ++ .did who ⟨m, .request .shutDown, told⟩ :: h₂ →
    told = (after w h₁).hasListener ∧
      (told = true → (after w (h₁ ++ [.did who ⟨m, .request .shutDown, told⟩])).requests =
        (after w h₁).requests ++ [.shutDown])
  /-- Once any call has returned, the client is told to stop. -/
  stopped : ∀ k, Returned apid k h → (after w h).isRunning = false

/-- What a call did of the last things was done exactly once. -/
theorem Standing.countP_eq_one {k : Nat} (standing : Standing w h) (last : IsLast kind)
    (did : ∃ d ∈ deeds (.exit k) h, kind d.effect = true) : h.countP (Turn.does kind) = 1 := by
  obtain ⟨d, hd, does⟩ := did
  have hpos : 0 < h.countP (Turn.does kind) := List.countP_pos_iff.mpr ⟨_, mem_deeds.mp hd, does⟩
  have honce := standing.once last
  omega

/-- **Some call wins** as soon as any call claimed the right: a claim is only refused if the right
was granted before. -/
theorem exists_grant (isOpen : IsOpen w) (happens : Happens w h) (acts : Acts apid h) {k : Nat}
    {granted : Bool} (claimed : .did (.exit k) ⟨(), .claimExit, granted⟩ ∈ h) :
    ∃ k, grant k ∈ h := by
  obtain ⟨h₁, h₂, rfl⟩ := List.append_of_mem claimed
  cases granted with
  | true => exact ⟨k, claimed⟩
  | false =>
    have hanswer : false = !(after w h₁).isExited := happens.possible
    have hexited : (after w h₁).isExited = true := by simpa using hanswer
    obtain ⟨j, hj⟩ := (standing isOpen happens acts).claimed.mp hexited
    exact ⟨j, List.mem_append_left _ hj⟩

/-- **A client is closed once**, and its farewell is the last transmission.  Any number of calls to
leave the client race with each other, with a sender that makes any calls, with a listener that does
whatever it is asked to do, and with others that use neither the link nor the right to close the
client, on a link that refuses transmissions once it is closed (`Client.ClosesOnce`).  A call always
returns, whatever the world answers. -/
theorem closes_once (isOpen : IsOpen w) (happens : Happens w h) (acts : Acts apid h) :
    ClosesOnce apid w h ∧ ∀ world, ∃ t, (exit apid).Completes () t () () ∧
      Activity.Follows world [] t := by
  have hstanding : Standing w h := by
    rw [← List.append_nil h] at happens acts
    exact standing isOpen happens acts
  have hcloses : ClosesOnce apid w h := by
    constructor
    case once => exact hstanding.once .concludes
    -- The farewell ends the output: behind it, all turns leave the link alone.
    case last =>
      rintro h₁ x h₂ rfl concluded
      obtain ⟨k, sent, hx, hk, hsent⟩ := (standing isOpen happens acts).eq_farewell
        happens.possible acts.admitted concluded
      have hsilent : (after w (h₁ ++ [x])).Silent (after w (h₁ ++ x :: h₂)) := by
        rw [← List.append_nil (h₁ ++ x :: h₂)] at happens acts
        exact silent_after isOpen concluded happens acts
      refine ⟨k, sent, hx, hk, ?_, hsilent.link.output, ?_⟩
      · rw [hsilent.sent, after_concat]
        exact hsent
      · exact fun who m tc refused sends => refused_after isOpen concluded happens acts sends
    -- Some call returned, so the right was granted, and two grants are one.
    case winner =>
      rintro ⟨j, returned⟩
      obtain ⟨granted, claimed⟩ := returned.returns.claimed
      obtain ⟨k, hk⟩ := exists_grant isOpen happens acts (mem_deeds.mp claimed)
      exact ⟨k, hk, fun i hi => hstanding.unique hi hk⟩
    case closed =>
      intro k hk returned
      have hgranted : Granted (deeds (.exit k) h) := mem_deeds.mpr hk
      obtain ⟨d, hd, concluded⟩ := returned.returns.concluded hgranted
      have htold := returned.returns.toldListener hgranted
      refine ⟨hstanding.countP_eq_one .concludes ⟨d, hd, concluded⟩, ?_,
        hstanding.countP_eq_one .shutsDown htold⟩
      exact hstanding.closed _ (mem_deeds.mp hd) concluded
    -- A request only reaches the channel while there is a listener.
    case delivered =>
      rintro h₁ who m told h₂ rfl
      have htold : told = (after w h₁).hasListener := happens.possible
      refine ⟨htold, fun there => ?_⟩
      rw [after_concat]
      show (ite _ _ (after w h₁) : World).requests = _
      rw [if_pos (htold.symm.trans there)]
    case stopped =>
      exact fun k returned => hstanding.stopped k (mem_deeds.mp returned.returns.stopped)
  exact ⟨hcloses, exit_returns apid⟩

/-! ### A race -/

/-- The answers to a call that is granted the right, but cannot send the farewell. -/
def unlucky (_ : Trace Unit) : (effect : Effect) → effect.Answer
  | .conclude _ => (.error Bench.injected, .ok ())
  | effect => effect.calm

/-- The answers to a call that comes too late. -/
def late (_ : Trace Unit) : (effect : Effect) → effect.Answer
  | .claimExit => false
  | effect => effect.calm

/-- The answers to a sender whose link is closed. -/
def refusing (_ : Trace Sender) : (effect : Effect) → effect.Answer
  | .send _ => .error .closed
  | effect => effect.calm

def winnerDeeds : Trace Unit := (Activity.play unlucky 9 [] (exit 42 ())).1

def loserDeeds : Trace Unit := (Activity.play late 9 [] (exit 42 ())).1

/-- What a sender does whose telecommand is refused. -/
def refusedDeeds : Trace Sender :=
  (Activity.play refusing 20 [] ((Sender.Call.single default).run
    (.make {} (Printer.make .short false false)))).1

def pollDeeds : Trace Listener :=
  (Activity.play (fun _ => Effect.calm) 20 [] (Listener.pollOnce (.make {}))).1

/-- Two calls and a sender get into each other's way: the second call claims the right too late, and
the sender is about to send when the link is closed. -/
def race : List Turn :=
  (winnerDeeds.take 2).map (.did (.exit 0)) ++ loserDeeds.map (.did (.exit 1)) ++
    (refusedDeeds.take 4).map (.did .sender) ++ (winnerDeeds.drop 2).map (.did (.exit 0)) ++
    pollDeeds.map (.did .listener) ++ (refusedDeeds.drop 4).map (.did .sender)

/-- A world in which the farewell will be lost. -/
def lossy : World :=
  { World.make (.recorder (.make .silent)) [] with faults := { Bench.Faults.none with sends := 1 } }

/-- The call that wins cannot send its farewell.  Still the link is closed once, the listener is
told once to shut down, and the telecommand of the sender is refused. -/
theorem closes_once_race : IsOpen lossy ∧ Happens lossy race ∧ Acts 42 race ∧
    Returned 42 0 race ∧ Returned 42 1 race ∧ grant 0 ∈ race ∧
    farewell 42 0 (.error Bench.injected) ∈ race ∧
    race.countP (Turn.does concludes) = 1 ∧ race.countP (Turn.does shutsDown) = 1 ∧
    (after lossy race).sent = #[] ∧ (after lossy race).isRunning = false := by
  have isOpen : IsOpen lossy := ⟨.recorder _, rfl, rfl⟩
  have happens : Happens lossy race :=
    ⟨rfl, rfl, rfl, rfl, rfl, rfl, rfl, rfl, rfl, rfl, rfl, rfl, rfl, rfl, rfl, trivial⟩
  have returned : Returned 42 0 race ∧ Returned 42 1 race :=
    ⟨Activity.reaches_play unlucky 9 [] (exit 42 ()), Activity.reaches_play late 9 [] (exit 42 ())⟩
  have acts : Acts 42 race := by
    refine ⟨fun k => ?_, ⟨.make {} (Printer.make .short false false), ?_⟩, ⟨.make {}, ?_⟩⟩
    · match k with
      | 0 => exact ⟨_, returned.1⟩
      | 1 => exact ⟨_, returned.2⟩
      | k + 2 => exact ⟨_, Reaches.refl (exit 42 ())⟩
    · exact .going (.single default) (Activity.reaches_play refusing 20 [] _)
    · exact .going .pollOnce (Activity.reaches_play (fun _ => Effect.calm) 20 [] _)
  have hgrant : grant 0 ∈ race := List.mem_of_getElem? (show race[1]? = some (grant 0) from rfl)
  have hfarewell : farewell 42 0 (.error Bench.injected) ∈ race :=
    List.mem_of_getElem? (show race[9]? = some _ from rfl)
  obtain ⟨closes, -⟩ := closes_once isOpen happens acts
  obtain ⟨hconcluded, -, htold⟩ := closes.closed 0 hgrant returned.1
  exact ⟨isOpen, happens, acts, returned.1, returned.2, hgrant, hfarewell, hconcluded, htold, rfl,
    closes.stopped 1 returned.2⟩

end GroundLink.Client
