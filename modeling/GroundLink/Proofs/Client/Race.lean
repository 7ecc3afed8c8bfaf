import GroundLink.Proofs.Bench.Closing
import GroundLink.Proofs.Client.Exit
import GroundLink.Proofs.Listener.Discipline
import GroundLink.Proofs.Sender.Calls

/-!
# A race to leave the client

Any number of calls to leave the client race with each other, with a sender and with the listener,
in whatever order their deeds come.  A race is a list of turns (`Client.Turn`).  The world answers
every deed, so each turn is possible only in some worlds (`Client.Happens`), and every party does
what its routines do (`Client.Acts`).

What a turn may be after those before it is all that the theory needs to know of these routines
(`Client.Acts.admitted`).
-/

namespace GroundLink.Client

open Activity (Reaches)
open Bench (World)

/-! ### Turns -/

/-- Those who act: any number of calls to leave, a sender and a listener. -/
inductive Party where
  | exit (call : Nat)
  | sender
  | listener
  deriving DecidableEq

abbrev Party.State : Party → Type
  | exit _ => Unit
  | sender => Sender
  | listener => Listener

/-- One thing that happens: a deed of a party, or others change the world. -/
inductive Turn where
  | did (who : Party) (d : Deed who.State)
  | other (change : World → World)

namespace Turn

def act (w : World) : Turn → World
  | .did _ d => (w.perform d.effect).2
  | .other change => change w

/-- What can happen in a world.  The world answers every deed.  Others transmit nothing, neither
close nor open the link, leave the right to close the client alone, and do not let a client go on
that was told to stop.  The clock, the telemetry and everything else is theirs. -/
def IsPossible (w : World) : Turn → Prop
  | .did _ d => d.answer = (w.perform d.effect).1
  | .other change => w.Idle (change w)

def deed? (who : Party) : Turn → Option (Deed who.State)
  | .did party d => if h : party = who then some (h ▸ d) else none
  | .other _ => none

/-- Whether an effect of a kind takes place. -/
def does (kind : Effect → Bool) : Turn → Bool
  | .did _ d => kind d.effect
  | .other _ => false

/-- A call is granted the right to close the client. -/
def grant (call : Nat) : Turn := .did (.exit call) ⟨(), .claimExit, true⟩

/-- A call sends the farewell, with success or not, and closes the link. -/
def farewell (apid : UInt16) (call : Nat) (sent : Except Link.Error Unit) : Turn :=
  .did (.exit call) ⟨(), .conclude (Telecommand.farewell apid).pack, (sent, .ok ())⟩

end Turn

def deeds (who : Party) (h : List Turn) : Trace who.State := h.filterMap (Turn.deed? who)

def after (w : World) (h : List Turn) : World := h.foldl Turn.act w

def Happens (w : World) : List Turn → Prop
  | [] => True
  | x :: h => x.IsPossible w ∧ Happens (x.act w) h

/-- All parties act as they do: the calls leave the client, the sender makes one call after another,
and the listener does whatever it is asked to do. -/
structure Acts (apid : UInt16) (h : List Turn) : Prop where
  exits : ∀ k, ∃ b, Reaches (exit apid ()) (deeds (.exit k) h) b
  sender : ∃ s, Sender.Calls s (deeds .sender h)
  listener : ∃ l, Listener.Works l (deeds .listener h)

open Turn (grant)

variable {apid : UInt16} {w : World} {h h' : List Turn} {x : Turn} {kind : Effect → Bool}

theorem deed?_eq_some_iff {who : Party} {d : Deed who.State} :
    x.deed? who = some d ↔ x = .did who d := by
  constructor
  · intro hx
    cases x with
    | other => cases hx
    | did party e =>
      obtain ⟨rfl, he⟩ := Option.dite_none_right_eq_some.mp hx
      obtain rfl : e = d := Option.some.inj he
      rfl
  · rintro rfl
    exact dif_pos rfl

theorem mem_deeds {who : Party} {d : Deed who.State} : d ∈ deeds who h ↔ .did who d ∈ h := by
  rw [deeds, List.mem_filterMap]
  constructor
  · rintro ⟨x, hx, hd⟩
    rw [deed?_eq_some_iff.mp hd] at hx
    exact hx
  · exact fun hd => ⟨_, hd, deed?_eq_some_iff.mpr rfl⟩

theorem deeds_middle (who : Party) (d : Deed who.State) (h h' : List Turn) :
    deeds who (h ++ .did who d :: h') = deeds who h ++ d :: deeds who h' := by
  have hself : (Turn.did who d).deed? who = some d := deed?_eq_some_iff.mpr rfl
  rw [deeds, List.filterMap_append, List.filterMap_cons_some hself]
  rfl

theorem after_append (w : World) (h h' : List Turn) : after w (h ++ h') = after (after w h) h' :=
  List.foldl_append

theorem after_concat (w : World) (h : List Turn) (x : Turn) :
    after w (h ++ [x]) = x.act (after w h) :=
  after_append w h [x]

/-- Every turn was possible after those before it. -/
theorem Happens.possible (happens : Happens w (h ++ x :: h')) : x.IsPossible (after w h) := by
  induction h generalizing w with
  | nil => exact happens.1
  | cons y h ih => exact ih happens.2

/-- Nothing is transmitted over a closed link. -/
theorem act_silent (possible : x.IsPossible w) (closed : w.link.isClosed = true)
    (other : x.does concludes = false) : w.Silent (x.act w) := by
  cases x with
  | other change => exact possible.toSilent
  | did who d =>
    refine World.perform_silent closed fun tc conclude => ?_
    rw [Turn.does, conclude] at other
    cases other

/-! ### What the parties come to -/

/-- What a turn may be after those before it. -/
def Admitted (apid : UInt16) (h : List Turn) : Turn → Prop
  | .did (.exit k) d => Admits apid (deeds (.exit k) h) () d.effect
  | .did .sender d => Sender.IsOwn d.effect
  | .did .listener d => Listener.IsOwn d.effect
  | .other _ => True

theorem Acts.admitted (acts : Acts apid (h ++ x :: h')) : Admitted apid h x := by
  cases x with
  | other => trivial
  | did who d =>
    have hsplit := deeds_middle who d h h'
    cases who with
    | exit k =>
      obtain ⟨b, run⟩ := acts.exits k
      rw [hsplit] at run
      exact Activity.Secures.of_split (secures_exit apid) run
    | sender =>
      obtain ⟨s, calls⟩ := acts.sender
      refine calls.own d ?_
      rw [hsplit]
      exact List.mem_append_right _ List.mem_cons_self
    | listener =>
      obtain ⟨l, works⟩ := acts.listener
      refine works.own d ?_
      rw [hsplit]
      exact List.mem_append_right _ List.mem_cons_self

/-- The last things that a call does with the right to close the client. -/
inductive IsLast : (Effect → Bool) → Prop
  | concludes : IsLast concludes
  | shutsDown : IsLast shutsDown

theorem IsLast.not_sender (last : IsLast kind) {effect : Effect} (own : Sender.IsOwn effect) :
    kind effect = false := by
  cases last with
  | concludes => cases effect <;> first | rfl | exact absurd own id
  | shutsDown =>
    cases effect with
    | request r => cases r <;> first | rfl | exact absurd own id
    | _ => rfl

theorem IsLast.not_listener (last : IsLast kind) {effect : Effect} (own : Listener.IsOwn effect) :
    kind effect = false := by
  cases last with
  | concludes => cases effect <;> first | rfl | exact absurd own id
  | shutsDown => cases effect <;> first | rfl | exact absurd own id

/-- Only a call that was granted the right does one of the last things, and only once. -/
theorem Admitted.of_last (admitted : Admitted apid h x) (last : IsLast kind)
    (does : x.does kind = true) : ∃ k d, x = .did (.exit k) d ∧ grant k ∈ h ∧
      ∀ e, .did (.exit k) e ∈ h → kind e.effect = false := by
  cases x with
  | other => cases does
  | did who d =>
    obtain ⟨mark, effect, answer⟩ := d
    cases who with
    | exit k =>
      have hlast : Granted (deeds (.exit k) h) ∧
          ∀ e ∈ deeds (.exit k) h, kind e.effect = false := by
        cases last with
        | concludes => cases effect <;> first | exact admitted.2 | cases does
        | shutsDown => cases effect <;> first | exact admitted.2 | cases does
      exact ⟨k, _, rfl, mem_deeds.mp hlast.1, fun e he => hlast.2 e (mem_deeds.mpr he)⟩
    | sender =>
      have hnone : kind effect = false := last.not_sender admitted
      exact absurd (hnone.symm.trans does) Bool.false_ne_true
    | listener =>
      have hnone : kind effect = false := last.not_listener admitted
      exact absurd (hnone.symm.trans does) Bool.false_ne_true

/-- Only a call claims the right to close the client. -/
theorem Admitted.of_claim (admitted : Admitted apid h x) {who : Party} {m : who.State}
    {answer : Bool} (claim : x = .did who ⟨m, .claimExit, answer⟩) : ∃ k, who = .exit k := by
  subst claim
  cases who with
  | exit k => exact ⟨k, rfl⟩
  | sender => exact absurd admitted id
  | listener => exact absurd admitted id

end GroundLink.Client
