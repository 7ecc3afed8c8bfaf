import GroundLink.Link.Basic

/-!
# Telemetry waits in order

The loopback and the recording link keep raw telemetry until they are polled.  Replies to a
telecommand go behind what is pending already (`Link.send_pending`), and a poll decodes all that is
pending, in order, and leaves nothing behind (`Link.poll_pending`).  No other operation touches it.
-/

namespace GroundLink.Link

/-- The raw telemetry that a link keeps until it is polled. -/
def pending : Link → List Bytes
  | .loopback l => l.pending
  | .recorder l => l.pending
  | _ => []

inductive Keeps : Link → Prop
  | loopback (l : Loopback) : Keeps (.loopback l)
  | recorder (l : Recorder) : Keeps (.recorder l)

def emptied : Link → Link
  | .loopback l => .loopback { l with pending := [] }
  | .recorder l => .recorder { l with pending := [] }
  | other => other

/-- The raw telemetry by which a link replies to a telecommand: what it would have pending if there
was nothing before. -/
def replies (l : Link) (tc : Telecommand.Packed) : List Bytes :=
  (l.emptied.send tc).link.pending

/-! ### Telemetry that was there before -/

/-- The same link with telemetry that was pending before. -/
def behind (q : List Bytes) : Link → Link
  | .loopback l => .loopback { l with pending := q ++ l.pending }
  | .recorder l => .recorder { l with pending := q ++ l.pending }
  | other => other

theorem behind_emptied (l : Link) : l.emptied.behind l.pending = l := by
  cases l <;> simp [emptied, behind, pending]

variable {l : Link}

theorem Keeps.pending_behind (keeps : l.Keeps) (q : List Bytes) :
    (l.behind q).pending = q ++ l.pending := by
  cases keeps <;> rfl

theorem Keeps.emptied (keeps : l.Keeps) : l.emptied.Keeps := by
  cases keeps with
  | loopback l => exact .loopback _
  | recorder l => exact .recorder _

theorem Keeps.send (keeps : l.Keeps) (tc : Telecommand.Packed) : (l.send tc).link.Keeps := by
  cases keeps with
  | loopback l => exact .loopback _
  | recorder l => exact .recorder _

theorem Loopback.reply_behind (q : List Bytes) (l : Loopback) (make : UInt16 → Telemetry) :
    ({ l with pending := q ++ l.pending } : Loopback).reply make =
      { l.reply make with pending := q ++ (l.reply make).pending } := by
  unfold reply
  dsimp only
  cases (make (UInt16.ofNat l.next.val)).toBytes? with
  | error => rfl
  | ok raw => simp only [List.append_assoc]

/-- What is pending does not change how a telecommand is answered. -/
theorem Keeps.send_behind (keeps : l.Keeps) (q : List Bytes) (tc : Telecommand.Packed) :
    ((l.behind q).send tc).link = (l.send tc).link.behind q := by
  cases keeps with
  | loopback l =>
    show Link.loopback (Loopback.send _ tc).link = .loopback _
    congr 1
    unfold Loopback.send
    -- The number and the kind of replies depend on the telecommand, not on what is pending.
    by_cases hanswers : Loopback.answers tc.info.service = true
    · by_cases hping : Loopback.isPing tc.info = true
      · simp only [hanswers, hping, if_true, Loopback.reply_behind]
        rfl
      · simp only [hanswers, hping, if_true, if_false, Loopback.reply_behind, Bool.false_eq_true]
        rfl
    · simp only [hanswers, if_false, Bool.false_eq_true]
  | recorder l =>
    show Link.recorder (Recorder.send _ tc).link = .recorder _
    congr 1
    unfold Recorder.send
    by_cases closed : l.isClosed = true
    · rw [if_pos closed, if_pos closed]
      rfl
    · rw [if_neg closed, if_neg closed]
      by_cases ignored : 0 < l.ignored
      · simp only [if_pos ignored]
        rfl
      · simp only [if_neg ignored]
        simp [Outcome.pure]

/-! ### The operations of a link -/

/-- **Replies go behind what is pending.** -/
theorem send_pending (keeps : l.Keeps) (tc : Telecommand.Packed) :
    (l.send tc).link.pending = l.pending ++ l.replies tc :=
  calc (l.send tc).link.pending
    _ = ((l.emptied.behind l.pending).send tc).link.pending := by rw [behind_emptied]
    _ = ((l.emptied.send tc).link.behind l.pending).pending := by
      rw [keeps.emptied.send_behind]
    _ = l.pending ++ l.replies tc := (keeps.emptied.send tc).pending_behind l.pending

/-- **A poll decodes all that is pending**, and leaves nothing behind. -/
theorem poll_pending (keeps : l.Keeps) :
    l.poll.result = .ok (!l.pending.isEmpty, Packet.decodeAll l.pending) ∧
      l.poll.link.Keeps ∧ l.poll.link.pending = [] := by
  cases keeps with
  | loopback l => exact ⟨rfl, .loopback _, rfl⟩
  | recorder l => exact ⟨rfl, .recorder _, rfl⟩

/-- Raw data are not answered. -/
theorem sendData_pending (keeps : l.Keeps) (data : Bytes) :
    (l.sendData data).link.Keeps ∧ (l.sendData data).link.pending = l.pending := by
  cases keeps with
  | loopback l => exact ⟨.loopback _, rfl⟩
  | recorder l =>
    refine ⟨.recorder _, ?_⟩
    show (l.sendData data).link.pending = l.pending
    unfold Recorder.sendData
    split
    · rfl
    · rfl

/-- A link that is closed can still be polled. -/
theorem close_pending (keeps : l.Keeps) :
    l.close.link.Keeps ∧ l.close.link.pending = l.pending := by
  cases keeps with
  | loopback l => exact ⟨.loopback _, rfl⟩
  | recorder l => exact ⟨.recorder _, rfl⟩

/-- A look changes nothing. -/
theorem available_link (keeps : l.Keeps) : l.available.link = l := by
  cases keeps with
  | loopback l => rfl
  | recorder l => rfl

end GroundLink.Link
