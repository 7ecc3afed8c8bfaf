import GroundLink.Link.Basic

/-!
# Closed links

A recording, a serial or a datagram link refuses every transmission once it is closed
(`Link.send_of_isClosed`), and nothing opens it again: polls and looks neither put anything out nor
change whether the link is closed (`Link.poll_silent`, `Link.available_silent`).  The loopback link
cannot be closed.
-/

namespace GroundLink.Link

/-- Links that can be closed. -/
inductive Closes : Link → Prop
  | recorder (l : Recorder) : Closes (.recorder l)
  | serial (l : Serial) : Closes (.serial l)
  | udp (l : Udp) : Closes (.udp l)

/-- Whether a link is closed. -/
def isClosed : Link → Bool
  | .loopback _ => false
  | .recorder l => l.isClosed
  | .serial l => l.isClosed
  | .udp l => l.isClosed

/-- Everything that a link has put out: telecommands and raw data, what was written to the line, or
datagrams. -/
def output : Link → List Bytes
  | .loopback _ => []
  | .recorder l => l.sent.map (·.raw) ++ l.sentData
  | .serial l => [l.line.written]
  | .udp l => l.outgoing

/-- Between two states of a link nothing was put out, and it was neither closed nor opened. -/
structure Silent (l l' : Link) : Prop where
  isClosed : l'.isClosed = l.isClosed
  output : l'.output = l.output

theorem Silent.refl (l : Link) : Silent l l := ⟨rfl, rfl⟩

variable {l : Link}

/-! ### Transmission -/

/-- **A closed link refuses telecommands**, and stays as it is. -/
theorem send_of_isClosed (closed : l.isClosed = true) (tc : Telecommand.Packed) :
    l.send tc = .fail l .closed := by
  cases l with
  | loopback l => cases closed
  | recorder l => exact congrArg (Outcome.lift Link.recorder) (if_pos closed)
  | serial l => exact congrArg (Outcome.lift Link.serial) (if_pos closed)
  | udp l => exact congrArg (Outcome.lift Link.udp) (if_pos closed)

theorem Closes.send (closes : l.Closes) (tc : Telecommand.Packed) : (l.send tc).link.Closes := by
  cases closes with
  | recorder l => exact .recorder _
  | serial l => exact .serial _
  | udp l => exact .udp _

/-! ### Reception -/

theorem Closes.poll (closes : l.Closes) : l.poll.link.Closes := by
  cases closes with
  | recorder l => exact .recorder _
  | serial l => exact .serial _
  | udp l => exact .udp _

theorem Closes.available (closes : l.Closes) : l.available.link.Closes := by
  cases closes with
  | recorder l => exact .recorder _
  | serial l => exact .serial _
  | udp l => exact .udp _

theorem Serial.poll_link (l : Serial) :
    l.poll.link.isClosed = l.isClosed ∧ l.poll.link.line.written = l.line.written := by
  unfold Serial.poll
  split
  · exact ⟨rfl, rfl⟩
  · exact ⟨rfl, rfl⟩
  · dsimp only
    split
    · exact ⟨rfl, rfl⟩
    · exact ⟨rfl, rfl⟩

theorem Serial.available_link (l : Serial) : l.available.link = l := by
  unfold Serial.available
  split
  · rfl
  · split
    · rfl
    · rfl

theorem Udp.poll_link (l : Udp) :
    l.poll.link.isClosed = l.isClosed ∧ l.poll.link.outgoing = l.outgoing := by
  unfold Udp.poll
  split
  · exact ⟨rfl, rfl⟩
  · dsimp only
    split
    · exact ⟨rfl, rfl⟩
    · exact ⟨rfl, rfl⟩

theorem Udp.available_link (l : Udp) :
    l.available.link.isClosed = l.isClosed ∧ l.available.link.outgoing = l.outgoing := by
  unfold Udp.available
  split
  · exact ⟨rfl, rfl⟩
  · split <;> exact ⟨rfl, rfl⟩

/-- **A poll puts nothing out.** -/
theorem poll_silent (l : Link) : l.Silent l.poll.link := by
  cases l with
  | loopback l => exact ⟨rfl, rfl⟩
  | recorder l => exact ⟨rfl, rfl⟩
  | serial l => exact ⟨l.poll_link.1, congrArg (fun written => [written]) l.poll_link.2⟩
  | udp l => exact ⟨l.poll_link.1, l.poll_link.2⟩

/-- **A look puts nothing out.** -/
theorem available_silent (l : Link) : l.Silent l.available.link := by
  cases l with
  | loopback l => exact ⟨rfl, rfl⟩
  | recorder l => exact ⟨rfl, rfl⟩
  | serial l =>
    show Silent _ (.serial l.available.link)
    rw [l.available_link]
    exact .refl _
  | udp l => exact ⟨l.available_link.1, l.available_link.2⟩

/-! ### Closing -/

/-- **Closing succeeds** on a link that can be closed, and puts nothing out. -/
theorem Closes.close (closes : l.Closes) : l.close.result = .ok () ∧ l.close.link.Closes ∧
    l.close.link.isClosed = true ∧ l.close.link.output = l.output := by
  cases closes with
  | recorder l => exact ⟨rfl, .recorder _, rfl, rfl⟩
  | serial l => exact ⟨rfl, .serial _, rfl, rfl⟩
  | udp l => exact ⟨rfl, .udp _, rfl, rfl⟩

end GroundLink.Link
