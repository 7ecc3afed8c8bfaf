import GroundLink.Bench.World

/-!
# What an effect leaves alone

Only the operations of the link touch the link of a bench (`World.perform_link`), only storing and
taking batches touch its telemetry queue (`World.perform_batches`), and only a report puts anything
into its reply channel (`World.perform_replies_le`).  An operation that was made to fail does not
reach the link.
-/

namespace GroundLink.Bench.World

variable (w : World)

/-! ### The link -/

/-- Sending does not reach a link that was made to fail. -/
theorem send_frame (tc : Telecommand.Packed) : (w.send tc).2.batches = w.batches ∧
    (w.send tc).2.replies = w.replies ∧
    (w.send tc).2.link = if 0 < w.faults.sends then w.link else (w.link.send tc).link := by
  unfold send
  split
  · exact ⟨rfl, rfl, rfl⟩
  -- Whether the link sends it only decides what is listed as sent.
  · show (ite _ _ _ : World).batches = _ ∧ (ite _ _ _ : World).replies = _ ∧
      (ite _ _ _ : World).link = _
    split
    · exact ⟨rfl, rfl, rfl⟩
    · exact ⟨rfl, rfl, rfl⟩

theorem poll_frame : w.poll.2.batches = w.batches ∧ w.poll.2.replies = w.replies ∧
    w.poll.1 = (if 0 < w.faults.polls then .error w.faults.cause else w.link.poll.result) ∧
    w.poll.2.link = if 0 < w.faults.polls then w.link else w.link.poll.link := by
  unfold poll
  split
  · exact ⟨rfl, rfl, rfl, rfl⟩
  · exact ⟨rfl, rfl, rfl, rfl⟩

theorem available_frame : w.available.2.batches = w.batches ∧
    w.available.2.replies = w.replies ∧
    w.available.2.link = if 0 < w.faults.looks then w.link else w.link.available.link := by
  unfold available
  split
  · exact ⟨rfl, rfl, rfl⟩
  · exact ⟨rfl, rfl, rfl⟩

theorem close_frame : w.close.2.batches = w.batches ∧ w.close.2.replies = w.replies ∧
    w.close.2.link = if 0 < w.faults.closings then w.link else w.link.close.link := by
  unfold close
  split
  · exact ⟨rfl, rfl, rfl⟩
  · exact ⟨rfl, rfl, rfl⟩

/-! ### The channels -/

theorem request_frame (r : Listener.Request) : (w.request r).2.batches = w.batches ∧
    (w.request r).2.replies = w.replies ∧ (w.request r).2.link = w.link := by
  show (ite _ _ w : World).batches = _ ∧ (ite _ _ w : World).replies = _ ∧
    (ite _ _ w : World).link = _
  split
  · exact ⟨rfl, rfl, rfl⟩
  · exact ⟨rfl, rfl, rfl⟩

theorem nextRequest_frame : w.nextRequest.2.batches = w.batches ∧
    w.nextRequest.2.replies = w.replies ∧ w.nextRequest.2.link = w.link := by
  unfold nextRequest
  split
  · exact ⟨rfl, rfl, rfl⟩
  · exact ⟨rfl, rfl, rfl⟩

/-- A report is made if there is anybody to take it. -/
theorem reportReply_frame : (w.perform .reportReply).2.batches = w.batches ∧
    (w.perform .reportReply).2.replies ≤ w.replies + 1 ∧
    (w.perform .reportReply).2.link = w.link := by
  show (ite _ _ w : World).batches = _ ∧ (ite _ _ w : World).replies ≤ _ ∧
    (ite _ _ w : World).link = _
  split
  · exact ⟨rfl, Nat.le_refl _, rfl⟩
  · exact ⟨rfl, Nat.le_succ _, rfl⟩

/-! ### Files -/

/-- What is written to a file, and whether that succeeds, does not matter. -/
theorem writeFile_frame (path : Path) (text : String) :
    (w.perform (.writeFile path text)).2.batches = w.batches ∧
      (w.perform (.writeFile path text)).2.replies = w.replies ∧
      (w.perform (.writeFile path text)).2.link = w.link := by
  unfold perform
  dsimp only
  generalize w.files.writeOutput path text.toUTF8 = written
  exact ⟨rfl, rfl, rfl⟩

/-! ### Effects -/

def UsesLink : Effect → Prop
  | .send _ | .poll | .available | .conclude _ => True
  | _ => False

def UsesQueue : Effect → Prop
  | .store _ | .takeTelemetry => True
  | _ => False

/-- **An effect that does not use the link leaves it alone.** -/
theorem perform_link {effect : Effect} (idle : ¬ UsesLink effect) :
    (w.perform effect).2.link = w.link := by
  cases effect with
  | send => exact absurd trivial idle
  | poll => exact absurd trivial idle
  | available => exact absurd trivial idle
  | conclude => exact absurd trivial idle
  | request r => exact (w.request_frame r).2.2
  | reportReply => exact w.reportReply_frame.2.2
  | nextRequest => exact w.nextRequest_frame.2.2
  | awaitRequest => exact w.nextRequest_frame.2.2
  | writeFile path text => exact (w.writeFile_frame path text).2.2
  | _ => rfl

/-- **An effect that neither stores nor takes batches leaves the telemetry queue alone.** -/
theorem perform_batches {effect : Effect} (idle : ¬ UsesQueue effect) :
    (w.perform effect).2.batches = w.batches := by
  cases effect with
  | store => exact absurd trivial idle
  | takeTelemetry => exact absurd trivial idle
  | send tc => exact (w.send_frame tc).1
  | conclude tc => exact (close_frame _).1.trans (w.send_frame tc).1
  | poll => exact w.poll_frame.1
  | available => exact w.available_frame.1
  | request r => exact (w.request_frame r).1
  | reportReply => exact w.reportReply_frame.1
  | nextRequest => exact w.nextRequest_frame.1
  | awaitRequest => exact w.nextRequest_frame.1
  | writeFile path text => exact (w.writeFile_frame path text).1
  | _ => rfl

/-! ### The reply channel -/

/-- An effect that reports replies, takes reports or forgets them. -/
def UsesReplies : Effect → Prop
  | .reportReply | .takeReply | .clearReplies => True
  | _ => False

/-- **An effect that concerns no replies leaves the reply channel alone.** -/
theorem perform_replies {effect : Effect} (idle : ¬ UsesReplies effect) :
    (w.perform effect).2.replies = w.replies := by
  cases effect with
  | reportReply => exact absurd trivial idle
  | takeReply => exact absurd trivial idle
  | clearReplies => exact absurd trivial idle
  | send tc => exact (w.send_frame tc).2.1
  | conclude tc => exact (close_frame _).2.1.trans (w.send_frame tc).2.1
  | poll => exact w.poll_frame.2.1
  | available => exact w.available_frame.2.1
  | request r => exact (w.request_frame r).2.1
  | nextRequest => exact w.nextRequest_frame.2.1
  | awaitRequest => exact w.nextRequest_frame.2.1
  | writeFile path text => exact (w.writeFile_frame path text).2.1
  | _ => rfl

/-- **Only a report puts anything into the reply channel**, namely one report, if there is anybody
to take it. -/
theorem perform_replies_le (effect : Effect) :
    (effect ≠ .reportReply → (w.perform effect).2.replies ≤ w.replies) ∧
      (w.perform effect).2.replies ≤ w.replies + 1 := by
  by_cases uses : UsesReplies effect
  · cases effect with
    | reportReply => exact ⟨fun other => absurd rfl other, w.reportReply_frame.2.1⟩
    | takeReply => exact ⟨fun _ => Nat.sub_le _ _, Nat.le_succ_of_le (Nat.sub_le _ _)⟩
    | clearReplies => exact ⟨fun _ => Nat.zero_le _, Nat.zero_le _⟩
    | _ => exact absurd uses id
  · have hsame := w.perform_replies uses
    omega

end GroundLink.Bench.World
