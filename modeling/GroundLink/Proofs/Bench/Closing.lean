import GroundLink.Bench.World
import GroundLink.Proofs.Link.Closed

/-!
# A world in which the client is closed

What one effect can do to a world that matters for closing the client.  Nothing but the claim itself
gives the right to close the client away, and nothing lets the client go on that was told to stop
(`World.perform_steady`).  Once the link is closed, nothing is transmitted by any effect
(`World.perform_silent`), and sending fails (`World.send_fails`).
-/

namespace GroundLink.Bench.World

/-- Between two worlds the right to close the client was not given away, a client that was told to
stop was not told to go on, and a link that can be closed is still there. -/
structure Steady (w w' : World) : Prop where
  closes : w.link.Closes → w'.link.Closes
  closings : w'.faults.closings = w.faults.closings
  isExited : w'.isExited = w.isExited
  stopped : w.isRunning = false → w'.isRunning = false

/-- Between two worlds nothing was transmitted, and the link was neither closed nor opened. -/
structure Silent (w w' : World) : Prop where
  link : w.link.Silent w'.link
  sent : w'.sent = w.sent

structure Idle (w w' : World) : Prop extends Steady w w', Silent w w'

variable {w w' w'' : World}

theorem Steady.trans (first : Steady w w') (second : Steady w' w'') : Steady w w'' where
  closes h := second.closes (first.closes h)
  closings := second.closings.trans first.closings
  isExited := second.isExited.trans first.isExited
  stopped h := second.stopped (first.stopped h)

theorem Silent.refl (w : World) : Silent w w := ⟨.refl _, rfl⟩

theorem Silent.trans (first : Silent w w') (second : Silent w' w'') : Silent w w'' where
  link :=
    ⟨second.link.isClosed.trans first.link.isClosed, second.link.output.trans first.link.output⟩
  sent := second.sent.trans first.sent

/-- What closing the client depends on is as it was. -/
theorem Idle.of_eq (link : w'.link = w.link) (sent : w'.sent = w.sent)
    (closings : w'.faults.closings = w.faults.closings) (isExited : w'.isExited = w.isExited)
    (isRunning : w'.isRunning = w.isRunning) : Idle w w' where
  closes h := link ▸ h
  closings := closings
  isExited := isExited
  stopped h := isRunning ▸ h
  link := link ▸ .refl w.link
  sent := sent

/-! ### The link -/

/-- The outcome of an operation on the link changes nothing else. -/
theorem settle_steady {α : Type} {o : Link.Outcome Link α}
    (closes : w.link.Closes → o.link.Closes) : Steady w (w.settle o).2 :=
  ⟨closes, rfl, rfl, id⟩

theorem send_steady (w : World) (tc : Telecommand.Packed) : Steady w (w.send tc).2 := by
  unfold send
  split
  · exact ⟨id, rfl, rfl, id⟩
  · have hsettled : Steady w (w.settle (w.link.send tc)).2 := settle_steady fun h => h.send tc
    show Steady w (ite _ _ _ : World)
    split
    · exact ⟨hsettled.closes, hsettled.closings, hsettled.isExited, hsettled.stopped⟩
    · exact hsettled

/-- **Sending fails** over a closed link, and nothing is transmitted. -/
theorem send_fails (closed : w.link.isClosed = true) (tc : Telecommand.Packed) :
    (∃ cause, (w.send tc).1 = .error cause) ∧ Silent w (w.send tc).2 := by
  unfold send
  split
  · exact ⟨⟨_, rfl⟩, .refl _, rfl⟩
  · rw [Link.send_of_isClosed closed]
    exact ⟨⟨_, rfl⟩, .refl _, rfl⟩

/-- What was sent is what was sent before, and the telecommand if it could be sent. -/
theorem send_sent (w : World) (tc : Telecommand.Packed) :
    (w.send tc).2.sent = if (w.send tc).1.isOk then w.sent.push (w.now, tc) else w.sent := by
  unfold send
  split
  · rfl
  · show (ite _ _ _ : World).sent = _
    split
    · rfl
    · rfl

theorem poll_idle (w : World) : Idle w w.poll.2 := by
  unfold poll
  split
  · exact .of_eq rfl rfl rfl rfl rfl
  · exact ⟨settle_steady fun h => h.poll, w.link.poll_silent, rfl⟩

theorem available_idle (w : World) : Idle w w.available.2 := by
  unfold available
  split
  · exact .of_eq rfl rfl rfl rfl rfl
  · exact ⟨settle_steady fun h => h.available, w.link.available_silent, rfl⟩

/-- **Closing succeeds** if it is not made to fail, and transmits nothing. -/
theorem close_closes (closes : w.link.Closes) (sound : w.faults.closings = 0) :
    w.close.1 = .ok () ∧ Steady w w.close.2 ∧ w.close.2.link.isClosed = true ∧
      w.close.2.link.output = w.link.output ∧ w.close.2.sent = w.sent := by
  obtain ⟨hresult, hcloses, hclosed, houtput⟩ := closes.close
  have hclose : w.close = (w.link.close.result,
      { (w.settle w.link.close).2 with isClosed := w.isClosed || w.link.close.result.isOk }) := by
    unfold close
    rw [sound, if_neg (Nat.lt_irrefl 0)]
    rfl
  rw [hclose]
  exact ⟨hresult, ⟨fun _ => hcloses, rfl, rfl, id⟩, hclosed, houtput, rfl⟩

/-- **The last transmission.**  Whether or not it succeeds, the link is closed then. -/
theorem conclude_closes (closes : w.link.Closes) (sound : w.faults.closings = 0)
    (tc : Telecommand.Packed) :
    (w.perform (.conclude tc)).1 = ((w.send tc).1, .ok ()) ∧
      Steady w (w.perform (.conclude tc)).2 ∧
      (w.perform (.conclude tc)).2.link.isClosed = true ∧
      (w.perform (.conclude tc)).2.link.output = (w.send tc).2.link.output ∧
      (w.perform (.conclude tc)).2.sent = (w.send tc).2.sent := by
  have hsteady := w.send_steady tc
  obtain ⟨hresult, hclosed, hlink, houtput, hsent⟩ :=
    close_closes (hsteady.closes closes) (hsteady.closings.trans sound)
  refine ⟨?_, hsteady.trans hclosed, hlink, houtput, hsent⟩
  show ((w.send tc).1, (w.send tc).2.close.1) = _
  rw [hresult]

/-! ### The channels -/

theorem request_idle (w : World) (r : Listener.Request) : Idle w (w.request r).2 := by
  show Idle w (ite _ _ w)
  split <;> exact .of_eq rfl rfl rfl rfl rfl

theorem nextRequest_idle (w : World) : Idle w w.nextRequest.2 := by
  unfold nextRequest
  split <;> exact .of_eq rfl rfl rfl rfl rfl

theorem reportReply_idle (w : World) : Idle w (w.perform .reportReply).2 := by
  show Idle w (ite _ _ w)
  split <;> exact .of_eq rfl rfl rfl rfl rfl

/-! ### Effects -/

/-- An effect that transmits, closes the link or claims the right to close the client. -/
def Closing : Effect → Prop
  | .send _ | .conclude _ | .claimExit => True
  | _ => False

/-- **Any other effect does not matter** for closing the client. -/
theorem perform_idle {effect : Effect} (idle : ¬ Closing effect) : Idle w (w.perform effect).2 := by
  cases effect with
  | send => exact absurd trivial idle
  | conclude => exact absurd trivial idle
  | claimExit => exact absurd trivial idle
  | poll => exact w.poll_idle
  | available => exact w.available_idle
  | request r => exact w.request_idle r
  | reportReply => exact w.reportReply_idle
  | nextRequest => exact w.nextRequest_idle
  | awaitRequest => exact w.nextRequest_idle
  | writeFile path text =>
    unfold perform
    dsimp only
    generalize w.files.writeOutput path text.toUTF8 = written
    exact .of_eq rfl rfl rfl rfl rfl
  | stop => exact ⟨⟨id, rfl, rfl, fun _ => rfl⟩, .refl _, rfl⟩
  | _ => exact .of_eq rfl rfl rfl rfl rfl

/-- **Only a claim takes the right to close the client**, and nothing lets the client go on. -/
theorem perform_steady {effect : Effect} (closes : w.link.Closes) (sound : w.faults.closings = 0)
    (keeps : effect ≠ .claimExit) : Steady w (w.perform effect).2 := by
  by_cases closing : Closing effect
  · cases effect with
    | send tc => exact w.send_steady tc
    | conclude tc => exact (conclude_closes closes sound tc).2.1
    | claimExit => exact absurd rfl keeps
    | _ => exact absurd closing id
  · exact (perform_idle closing).toSteady

/-- **Nothing is transmitted over a closed link.** -/
theorem perform_silent {effect : Effect} (closed : w.link.isClosed = true)
    (keeps : ∀ tc, effect ≠ .conclude tc) : Silent w (w.perform effect).2 := by
  by_cases closing : Closing effect
  · cases effect with
    | send tc => exact (send_fails closed tc).2
    | conclude tc => exact absurd rfl (keeps tc)
    | claimExit => exact ⟨.refl _, rfl⟩
    | _ => exact absurd closing id
  · exact (perform_idle closing).toSilent

end GroundLink.Bench.World
