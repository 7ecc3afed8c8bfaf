import GroundLink.Client.Exit
import GroundLink.Proofs.Activity.Uses

/-!
# One call to leave

Every call to leave the client first stops it and then claims the right to close it.  Only a call
that was granted this right sends the farewell, closes the link and tells the listener to shut down,
each of them once and whatever fails on the way (`Client.secures_exit`).  A call has no loops, so it
always returns (`Client.exit_returns`).
-/

namespace GroundLink.Client

open Routine (Secures plain_pure plain_bind plain_perform)

variable {apid : UInt16} {p t u : Trace Unit}

/-- Whether an effect sends a last telecommand and closes the link. -/
def concludes : Effect → Bool
  | .conclude _ => true
  | _ => false

def shutsDown : Effect → Bool
  | .request .shutDown => true
  | _ => false

def Granted (t : Trace Unit) : Prop := ⟨(), .claimExit, true⟩ ∈ t

/-- What a call comes to after its deeds `p`.  With the right to close the client, it sends the
farewell and closes the link once, and tells the listener to shut down once. -/
def Admits (apid : UInt16) (p : Trace Unit) (_ : Unit) : Effect → Prop
  | .stop | .claimExit | .log _ => True
  | .conclude tc => tc = (Telecommand.farewell apid).pack ∧ Granted p ∧
      ∀ d ∈ p, concludes d.effect = false
  | .request r => r = .shutDown ∧ Granted p ∧ ∀ d ∈ p, shutsDown d.effect = false
  | _ => False

/-- What a call has done when it returns. -/
structure Returns (t : Trace Unit) : Prop where
  stopped : ⟨(), .stop, ()⟩ ∈ t
  claimed : ∃ granted, ⟨(), .claimExit, granted⟩ ∈ t
  concluded : Granted t → ∃ d ∈ t, concludes d.effect = true
  toldListener : Granted t → ∃ d ∈ t, shutsDown d.effect = true

/-! ### Lines in the log -/

/-- Lines are added to the log, and nothing else is done. -/
def Notes (t : Trace Unit) : Prop := ∀ d ∈ t, ∃ entries, d.effect = .log entries

theorem Notes.not_shutsDown (h : Notes t) : ∀ d ∈ t, shutsDown d.effect = false := by
  intro d hd
  obtain ⟨entries, heffect⟩ := h d hd
  rw [heffect]
  rfl

theorem secures_note {entry : Log.Entry} {Q : Unit → Trace Unit → Unit → Prop}
    (h : ∀ u, Notes u → Q () (p ++ u) ()) : Secures (Admits apid) (Routine.note entry) Q p () :=
  Secures.perform_iff.mpr ⟨trivial, fun _ => h _ fun d hd => by
    rw [List.mem_singleton.mp hd]
    exact ⟨_, rfl⟩⟩

theorem secures_noteFailure {what : String} {result : Except Link.Error Unit}
    {Q : Unit → Trace Unit → Unit → Prop} (h : ∀ u, Notes u → Q () (p ++ u) ()) :
    Secures (Admits apid) (noteFailure what result) Q p () := by
  cases result with
  | ok =>
    have hnothing := h [] fun d hd => absurd hd List.not_mem_nil
    rw [List.append_nil] at hnothing
    exact Secures.pure_iff.mpr hnothing
  | error cause => exact secures_note h

/-! ### The whole call -/

/-- What has been done by a call that has closed the link and is about to tell the listener. -/
structure Closed (p : Trace Unit) : Prop where
  stopped : ⟨(), .stop, ()⟩ ∈ p
  granted : Granted p
  concluded : ∃ d ∈ p, concludes d.effect = true
  untold : ∀ d ∈ p, shutsDown d.effect = false

theorem Closed.append (h : Closed p) (notes : Notes u) : Closed (p ++ u) where
  stopped := List.mem_append_left _ h.stopped
  granted := List.mem_append_left _ h.granted
  concluded := h.concluded.imp fun _ hd => ⟨List.mem_append_left _ hd.1, hd.2⟩
  untold d hd := (List.mem_append.mp hd).elim (h.untold d) (notes.not_shutsDown d)

/-- The listener was told, whether or not it is still there. -/
theorem Closed.returns (h : Closed p) (told : Bool) (u : Trace Unit) :
    Returns (p ++ [⟨(), .request .shutDown, told⟩] ++ u) where
  stopped := by simp [h.stopped]
  claimed := ⟨true, by simp [show ⟨(), .claimExit, true⟩ ∈ p from h.granted]⟩
  concluded _ := h.concluded.imp fun _ hd => ⟨by simp [hd.1], hd.2⟩
  toldListener _ := ⟨⟨(), .request .shutDown, told⟩, by simp, rfl⟩

/-- **The rest of a call** that has closed the link.  Nothing of it depends on whether the farewell
was sent. -/
theorem Closed.secures (h : Closed p) (sent closed : Except Link.Error Unit) :
    Secures (Admits apid) (do
      noteFailure "sending the shutdown telecommand" sent
      noteFailure "closing the communication interface" closed
      if !(← Routine.request .shutDown) then
        Routine.note (Log.debug "TM listener already stopped")) (fun _ t _ => Returns t) p () := by
  refine Secures.bind_iff.mpr (secures_noteFailure fun u hu => ?_)
  refine Secures.bind_iff.mpr (secures_noteFailure fun u' hu' => ?_)
  have hready : Closed (p ++ u ++ u') := (h.append hu).append hu'
  refine Secures.bind_iff.mpr (Secures.perform_iff.mpr ⟨?_, fun told => ?_⟩)
  · exact ⟨rfl, hready.granted, hready.untold⟩
  cases told with
  | true =>
    have hreturns := hready.returns true []
    rw [List.append_nil] at hreturns
    exact Secures.pure_iff.mpr hreturns
  | false => exact secures_note fun u'' _ => hready.returns false u''

/-- **A call to leave**, whatever it is answered. -/
theorem secures_exit (apid : UInt16) :
    Secures (Admits apid) (exit apid) (fun _ t _ => Returns t) [] () := by
  unfold exit stop
  refine Secures.bind_iff.mpr (Secures.perform_iff.mpr ⟨trivial, fun _ => ?_⟩)
  refine Secures.bind_iff.mpr (Secures.perform_iff.mpr ⟨trivial, fun granted => ?_⟩)
  cases granted with
  | false =>
    refine Secures.pure_iff.mpr ⟨by simp, ⟨false, by simp⟩, ?_, ?_⟩
    · simp [Granted]
    · simp [Granted]
  | true =>
    refine Secures.bind_iff.mpr (Secures.perform_iff.mpr ⟨trivial, fun _ => ?_⟩)
    refine Secures.bind_iff.mpr (Secures.perform_iff.mpr ⟨?_, fun ⟨sent, closed⟩ => ?_⟩)
    · exact ⟨rfl, by simp [Granted], by simp [concludes]⟩
    · refine Closed.secures ⟨by simp, by simp [Granted], ?_, by simp [shutsDown]⟩ sent closed
      simp [concludes]

/-! ### Returning -/

theorem plain_noteFailure (what : String) (result : Except Link.Error Unit) :
    Routine.Plain (fun _ => True) (noteFailure what result) := by
  cases result with
  | ok => exact plain_pure ()
  | error cause => exact plain_perform trivial

/-- **A call to leave always returns**, whatever the world answers. -/
theorem exit_returns (apid : UInt16) (world : Trace Unit → (effect : Effect) → effect.Answer) :
    ∃ t, (exit apid).Completes () t () () ∧ Activity.Follows world [] t := by
  have hplain : Routine.Plain (fun _ => True) (exit apid) := by
    refine plain_bind (plain_perform trivial) fun _ => ?_
    refine plain_bind (plain_perform trivial) fun granted => ?_
    cases granted with
    | false => exact plain_pure ()
    | true =>
      refine plain_bind (plain_perform trivial) fun _ => ?_
      refine plain_bind (plain_perform trivial) fun ⟨sent, closed⟩ => ?_
      refine plain_bind (plain_noteFailure _ sent) fun _ => ?_
      refine plain_bind (plain_noteFailure _ closed) fun _ => ?_
      refine plain_bind (plain_perform trivial) fun told => ?_
      cases told with
      | true => exact plain_pure ()
      | false => exact plain_perform trivial
  have hhalts : Activity.Halts world (exit apid ()) [] := (hplain ()).halts []
  obtain ⟨t, ⟨⟨⟩, ⟨⟩⟩, run, follows⟩ := hhalts
  exact ⟨t, run, follows⟩

end GroundLink.Client
