import GroundLink.Link.Basic
import Mathlib.Data.List.Basic

/-!
# Reception

A serial line hands over its octets in chunks, and a read may be interrupted.  A frame consists of
the octets that come before the line is silent, ends or breaks, and of no more than fit, whatever
the chunks are (`Link.Serial.collect_gathers`); what an earlier frame left in the buffer does not
show.  So a poll yields the packets of these octets, and polls of a stream of whole frames yield the
packets of one frame after another (`Link.Serial.poll_frames`).

A poll of a socket receives datagrams until nothing more has arrived.  If a reception fails, so does
the poll, and the datagrams that it had received before are lost (`Link.Udp.polls_deliver_iff`).
-/

namespace GroundLink.Link

/-! ### Operations one after another -/

/-- An operation that is done some times, one after another: what it yields each time, and the link
afterwards. -/
def inTurn {σ α : Type} (operate : σ → Outcome σ α) : Nat → σ → List (Except Error α) × σ
  | 0, l => ([], l)
  | n + 1, l =>
    let o := operate l
    let (others, last) := inTurn operate n o.link
    (o.result :: others, last)

theorem inTurn_succ {σ α : Type} (operate : σ → Outcome σ α) (n : Nat) (l : σ) :
    inTurn operate (n + 1) l = ((operate l).result :: (inTurn operate n (operate l).link).1,
      (inTurn operate n (operate l).link).2) := rfl

/-! ### Frames of a serial line -/

namespace Serial

def Item.octets : Item → Bytes
  | .chunk data => data
  | _ => []

/-- Whether a read ends the collection of a frame that is not complete. -/
def Item.isEnd : Item → Bool
  | .chunk _ | .interrupted => false
  | .timeout | .endOfFile | .broken => true

/-- All octets that reads bring. -/
def octets (items : List Item) : Bytes := items.flatMap Item.octets

/-- The octets that reads bring before the line is silent, ends or breaks. -/
def arriving (items : List Item) : Bytes := octets (items.takeWhile (!·.isEnd))

/-- Whether the line breaks before it is silent or ends. -/
def breaks (items : List Item) : Bool := items.find? Item.isEnd = some .broken

section Arriving

variable {item : Item} {items : List Item}

@[simp] theorem octets_cons : octets (item :: items) = item.octets ++ octets items := rfl

theorem arriving_cons_of_isEnd (ends : item.isEnd = true) : arriving (item :: items) = [] := by
  rw [arriving, List.takeWhile_cons, ends]
  rfl

theorem arriving_cons (goesOn : item.isEnd = false) :
    arriving (item :: items) = item.octets ++ arriving items := by
  rw [arriving, List.takeWhile_cons, goesOn]
  rfl

theorem breaks_cons_of_isEnd (ends : item.isEnd = true) :
    breaks (item :: items) = decide (item = .broken) := by
  rw [breaks, List.find?_cons_of_pos ends]
  exact decide_eq_decide.mpr (Option.some_inj)

theorem breaks_cons (goesOn : item.isEnd = false) : breaks (item :: items) = breaks items := by
  rw [breaks, List.find?_cons_of_neg (Bool.eq_false_iff.mp goesOn)]
  rfl

/-- Where no read ends, all octets arrive. -/
theorem arriving_eq_octets (goesOn : ∀ item ∈ items, item.isEnd = false) :
    arriving items = octets items := by
  induction items with
  | nil => rfl
  | cons item items ih =>
    obtain ⟨hitem, hitems⟩ := List.forall_mem_cons.mp goesOn
    rw [arriving_cons hitem, octets_cons, ih hitems]

theorem readable_eq (line : Line) : line.readable = (octets line.incoming).length := rfl

end Arriving

/-- The octets of a frame with room for so many are gathered from reads: they are the first that
arrive, and they and what is left are all that there is. -/
structure Gathers (room : Nat) (items : List Item) (how : Collected) (frame : Bytes)
    (left : List Item) : Prop where
  frame_eq : frame = (arriving items).take room
  /-- The collection fails if the line breaks before the frame is complete. -/
  failed_iff : how = .failed ↔ (arriving items).length < room ∧ breaks items = true
  octets_eq : octets items = frame ++ octets left
  /-- Nothing is put in between what is left. -/
  goesOn : (∀ item ∈ items, item.isEnd = false) → ∀ item ∈ left, item.isEnd = false

namespace Gathers

variable {room : Nat} {items left : List Item} {how : Collected} {frame : Bytes}

/-- A frame that is complete takes nothing. -/
theorem complete (items : List Item) : Gathers 0 items .ended [] items where
  frame_eq := rfl
  failed_iff := iff_of_false nofun fun h => absurd h.1 (Nat.not_lt_zero _)
  octets_eq := rfl
  goesOn h := h

/-- A line without reads is silent. -/
theorem silent (room : Nat) : Gathers room [] .silent [] [] where
  frame_eq := (List.take_nil).symm
  failed_iff := iff_of_false nofun fun h => absurd h.2 Bool.false_ne_true
  octets_eq := rfl
  goesOn h := h

/-- The line is silent, ends or breaks. -/
theorem stop {item : Item} (room_pos : 0 < room) (ends : item.isEnd = true)
    (failed : how = .failed ↔ item = .broken) : Gathers room (item :: items) how [] items where
  frame_eq := by rw [arriving_cons_of_isEnd ends, List.take_nil]
  failed_iff := by
    rw [arriving_cons_of_isEnd ends, breaks_cons_of_isEnd ends, failed, decide_eq_true_eq]
    exact (and_iff_right room_pos).symm
  octets_eq := by
    cases item with
    | chunk data => exact absurd ends Bool.false_ne_true
    | timeout | interrupted | endOfFile | broken => rfl
  goesOn h other hother := h other (List.mem_cons_of_mem _ hother)

/-- A chunk that exceeds the frame completes it, and the rest of it is left. -/
theorem cut {data : Bytes} (exceeds : room < data.length) :
    Gathers room (.chunk data :: items) .ended (data.take room)
      (.chunk (data.drop room) :: items) where
  frame_eq := by
    rw [arriving_cons rfl, Item.octets, List.take_append_of_le_length (Nat.le_of_lt exceeds)]
  failed_iff := by
    rw [arriving_cons rfl, Item.octets, List.length_append]
    exact iff_of_false nofun fun h => by omega
  octets_eq := by
    rw [octets_cons, octets_cons, Item.octets, Item.octets, ← List.append_assoc,
      List.take_append_drop]
  goesOn h := by
    rw [List.forall_mem_cons] at h ⊢
    exact ⟨rfl, h.2⟩

/-- A chunk that fits is followed by what is gathered behind it. -/
theorem chunk {data : Bytes} (fits : data.length ≤ room)
    (behind : Gathers (room - data.length) items how frame left) :
    Gathers room (.chunk data :: items) how (data ++ frame) left where
  frame_eq := by
    rw [arriving_cons rfl, Item.octets, List.take_append, List.take_of_length_le fits,
      behind.frame_eq]
  failed_iff := by
    rw [arriving_cons rfl, breaks_cons rfl, Item.octets, List.length_append, behind.failed_iff]
    have hroom : (arriving items).length < room - data.length ↔
        data.length + (arriving items).length < room := by omega
    rw [hroom]
  octets_eq := by rw [octets_cons, Item.octets, behind.octets_eq, List.append_assoc]
  goesOn h := behind.goesOn (List.forall_mem_cons.mp h).2

/-- An interrupted read is done again. -/
theorem interrupted (behind : Gathers room items how frame left) :
    Gathers room (.interrupted :: items) how frame left where
  frame_eq := by
    rw [arriving_cons rfl, behind.frame_eq]
    rfl
  failed_iff := by
    rw [arriving_cons rfl, breaks_cons rfl, behind.failed_iff]
    rfl
  octets_eq := behind.octets_eq
  goesOn h := behind.goesOn (List.forall_mem_cons.mp h).2

end Gathers

/-- What was written over a buffer stands behind what was in front. -/
theorem take_overwrite {buffer content : Bytes} {count : Nat} (held : count ≤ buffer.length) :
    (buffer.overwrite count content).take (count + content.length) =
      buffer.take count ++ content := by
  have hlength : (buffer.take count ++ content).length = count + content.length := by
    rw [List.length_append, List.length_take_of_le held]
  rw [Bytes.overwrite, ← hlength, List.take_left]

/-- **A frame is gathered from whatever reads bring it.**  Behind the octets that are in the buffer
already stand those that were gathered, and no others. -/
theorem collect_gathers {frameSize count : Nat} {buffer : Bytes} (items : List Item)
    (held : count ≤ buffer.length) (fits : count ≤ frameSize) :
    ∃ how frame after left,
      collect frameSize buffer count items = (how, after, count + frame.length, left) ∧
        after.take (count + frame.length) = buffer.take count ++ frame ∧
        Gathers (frameSize - count) items how frame left := by
  -- The octets in the buffer stay where they are, so the induction is for any number of them.
  induction items generalizing buffer count with
  | nil =>
    rw [collect]
    by_cases hroom : count < frameSize
    · rw [if_pos hroom]
      exact ⟨_, [], buffer, [], rfl, (List.append_nil _).symm, .silent _⟩
    · rw [if_neg hroom, Nat.sub_eq_zero_of_le (Nat.le_of_not_lt hroom)]
      exact ⟨_, [], buffer, [], rfl, (List.append_nil _).symm, .complete _⟩
  | cons item items ih =>
    rw [collect.eq_def]
    dsimp only
    by_cases hroom : count < frameSize
    case neg =>
      rw [if_neg hroom, Nat.sub_eq_zero_of_le (Nat.le_of_not_lt hroom)]
      exact ⟨_, [], buffer, _, rfl, (List.append_nil _).symm, .complete _⟩
    rw [if_pos hroom]
    have hpos : 0 < frameSize - count := Nat.sub_pos_of_lt hroom
    cases item with
    | timeout =>
      exact ⟨_, [], buffer, _, rfl, (List.append_nil _).symm, .stop hpos rfl (by simp)⟩
    | endOfFile =>
      exact ⟨_, [], buffer, _, rfl, (List.append_nil _).symm, .stop hpos rfl (by simp)⟩
    | broken =>
      exact ⟨_, [], buffer, _, rfl, (List.append_nil _).symm, .stop hpos rfl (by simp)⟩
    | interrupted =>
      obtain ⟨how, frame, after, left, hcollect, hafter, hgathers⟩ := ih held fits
      exact ⟨how, frame, after, left, hcollect, hafter, hgathers.interrupted⟩
    | chunk data =>
      dsimp only
      by_cases hexceeds : frameSize - count < data.length
      case pos =>
        -- The frame takes what it has room for, and the rest of the chunk stays on the line.
        have htaken : (data.take (frameSize - count)).length = frameSize - count :=
          List.length_take_of_le (Nat.le_of_lt hexceeds)
        refine ⟨.ended, data.take (frameSize - count), _, _, ?_, take_overwrite held, .cut hexceeds⟩
        rw [if_pos hexceeds, htaken, Nat.add_sub_cancel' fits]
      case neg =>
        rw [if_neg hexceeds]
        have hfits : data.length ≤ frameSize - count := Nat.le_of_not_lt hexceeds
        rw [List.take_of_length_le hfits]
        -- From here on the chunk is among the octets that are in the buffer already.
        have hwritten : (buffer.overwrite count data).take (count + data.length) =
            buffer.take count ++ data := take_overwrite held
        have hheld : count + data.length ≤ (buffer.overwrite count data).length := by
          rw [Bytes.overwrite, List.length_append, List.length_append, List.length_take_of_le held]
          exact Nat.le_add_right _ _
        obtain ⟨how, frame, after, left, hcollect, hafter, hgathers⟩ :=
          ih hheld (Nat.add_le_of_le_sub' fits hfits)
        have hlength : count + (data ++ frame).length = count + data.length + frame.length := by
          rw [List.length_append, Nat.add_assoc]
        rw [Nat.sub_add_eq] at hgathers
        refine ⟨how, data ++ frame, after, left, ?_, ?_, hgathers.chunk hfits⟩
        · rw [hcollect, hlength]
        · rw [hlength, hafter, hwritten, List.append_assoc]

/-! ### Polls of a serial line -/

variable {l : Serial}

/-- **A poll yields the packets of the octets that arrived**, as far as they fit into a frame, and
leaves those behind them. -/
theorem poll_gathers (found : l.available.result = .ok true) :
    ∃ how left, Gathers l.frameSize l.line.incoming how
        ((arriving l.line.incoming).take l.frameSize) left ∧
      l.poll.result = (if how = .failed then .error brokenPipe
        else .ok (true, Frame.parse ((arriving l.line.incoming).take l.frameSize))) ∧
      l.poll.link.line = { l.line with incoming := left } ∧
      l.poll.link.frameSize = l.frameSize ∧ l.poll.link.isClosed = l.isClosed := by
  have hstart : (0 : Nat) ≤ l.buffer.length := Nat.zero_le _
  obtain ⟨how, frame, after, left, hcollect, hafter, hgathers⟩ :=
    collect_gathers l.line.incoming hstart (Nat.zero_le l.frameSize)
  rw [Nat.zero_add] at hcollect hafter
  rw [List.take_zero, List.nil_append] at hafter
  rw [Nat.sub_zero] at hgathers
  rw [← hgathers.frame_eq]
  refine ⟨how, left, hgathers, ?_⟩
  unfold poll
  simp only [found, hcollect, hafter]
  by_cases hfailed : how = .failed
  · rw [if_pos hfailed, if_pos hfailed]
    exact ⟨rfl, rfl, rfl, rfl⟩
  · rw [if_neg hfailed, if_neg hfailed]
    exact ⟨rfl, rfl, rfl, rfl⟩

/-- An open link on a line that brings a stream of octets, in any chunks and with any number of
interrupted reads. -/
structure Brings (l : Serial) (stream : Bytes) : Prop where
  isOpen : l.isClosed = false
  counts : l.line.failsCount = false
  goesOn : ∀ item ∈ l.line.incoming, item.isEnd = false
  octets_eq : octets l.line.incoming = stream

/-- **A poll takes one frame off a stream.** -/
theorem Brings.next {frame rest : Bytes} (brings : l.Brings (frame ++ rest))
    (whole : frame.length = l.frameSize) (pos : 0 < l.frameSize) :
    l.poll.result = .ok (true, Frame.parse frame) ∧ l.poll.link.Brings rest ∧
      l.poll.link.frameSize = l.frameSize := by
  have hreadable : 0 < l.line.readable := by
    rw [readable_eq, brings.octets_eq, List.length_append]
    omega
  have hfound : l.available.result = .ok true := by
    rw [available, if_neg (by rw [brings.isOpen]; decide), if_neg (by rw [brings.counts]; decide)]
    exact congrArg Except.ok (decide_eq_true hreadable)
  have harriving : arriving l.line.incoming = frame ++ rest := by
    rw [arriving_eq_octets brings.goesOn, brings.octets_eq]
  obtain ⟨how, left, hgathers, hresult, hline, hsize, hclosed⟩ := poll_gathers hfound
  have hframe : (frame ++ rest).take l.frameSize = frame := by rw [← whole, List.take_left]
  -- A whole frame arrives, so the line does not break before.
  have hended : how ≠ .failed := by
    rw [ne_eq, hgathers.failed_iff, harriving, List.length_append]
    omega
  rw [harriving, hframe] at hresult hgathers
  rw [if_neg hended] at hresult
  refine ⟨hresult, ⟨hclosed.trans brings.isOpen, ?_, ?_, ?_⟩, hsize⟩
  · rw [hline]
    exact brings.counts
  · rw [hline]
    exact hgathers.goesOn brings.goesOn
  · rw [hline]
    exact List.append_cancel_left (hgathers.octets_eq.symm.trans brings.octets_eq)

/-- **Polls take one frame after another off a stream.** -/
theorem Brings.all {frames : List Bytes} {rest : Bytes}
    (brings : l.Brings (frames.flatten ++ rest))
    (whole : ∀ frame ∈ frames, frame.length = l.frameSize) (pos : 0 < l.frameSize) :
    (inTurn poll frames.length l).1 =
      frames.map fun frame => .ok (true, Frame.parse frame) := by
  induction frames generalizing l with
  | nil => rfl
  | cons frame frames ih =>
    obtain ⟨hframe, hframes⟩ := List.forall_mem_cons.mp whole
    rw [List.flatten_cons, List.append_assoc] at brings
    obtain ⟨hresult, hbrings, hsize⟩ := brings.next hframe pos
    rw [List.length_cons, inTurn_succ, hresult, List.map_cons,
      ih hbrings (hsize.symm ▸ hframes) (hsize.symm ▸ pos)]

/-- **Reception does not depend on the chunks.**  Whatever the reads of a line bring, a poll that
finds something to read yields the packets of the octets that arrive before the line is silent, ends
or breaks, as far as they fit into a frame; octets that the buffer still holds from an earlier frame
do not matter, and the octets behind the frame are left on the line.  If the line breaks before the
frame is complete, the poll fails and yields no packets.  If the line brings whole frames in any
chunks, with any number of interrupted reads, then each of as many polls yields the packets of its
frame. -/
theorem poll_frames :
    (∀ l : Serial, l.available.result = .ok true →
      let arrived := arriving l.line.incoming
      l.poll.result =
          (if arrived.length < l.frameSize ∧ breaks l.line.incoming then .error brokenPipe
            else .ok (true, Frame.parse (arrived.take l.frameSize))) ∧
        octets l.line.incoming = arrived.take l.frameSize ++ octets l.poll.link.line.incoming) ∧
    ∀ (l : Serial) (frames : List Bytes), 0 < l.frameSize →
      (∀ frame ∈ frames, frame.length = l.frameSize) → l.Brings frames.flatten →
        (inTurn poll frames.length l).1 =
          frames.map fun frame => .ok (true, Frame.parse frame) := by
  refine ⟨fun l found => ?_, fun l frames pos whole brings => ?_⟩
  · obtain ⟨how, left, hgathers, hresult, hline, -, -⟩ := poll_gathers found
    refine ⟨?_, ?_⟩
    · simp only [hresult, hgathers.failed_iff]
    · rw [hline]
      exact hgathers.octets_eq
  · rw [← List.append_nil frames.flatten] at brings
    exact brings.all whole pos

/-- The buffer holds an earlier frame.  On a line that breaks, two chunks and an interrupted read
make one frame, and the second frame is not complete.  On a line that goes on, two frames come in
three chunks. -/
theorem poll_frames_chunked :
    let line (items : List Item) : Serial := ⟨⟨items, [], 0, false, false⟩, 4, [9, 9, 9, 9], false⟩
    let broken := line [.chunk [1, 2, 3], .interrupted, .chunk [4, 5], .broken]
    let whole := line [.chunk [1, 2, 3], .interrupted, .chunk [4, 5, 6], .chunk [7, 8]]
    broken.available.result = .ok true ∧
      broken.poll.result = .ok (true, Frame.parse [1, 2, 3, 4]) ∧
      broken.poll.link.available.result = .ok true ∧
      broken.poll.link.poll.result = .error brokenPipe ∧
      whole.Brings [1, 2, 3, 4, 5, 6, 7, 8] ∧
      (inTurn poll 2 whole).1 =
        [.ok (true, Frame.parse [1, 2, 3, 4]), .ok (true, Frame.parse [5, 6, 7, 8])] := by
  intro line broken whole
  have hbrings : whole.Brings [1, 2, 3, 4, 5, 6, 7, 8] := ⟨rfl, rfl, by decide, rfl⟩
  have hfirst : broken.available.result = .ok true := rfl
  have hsecond : broken.poll.link.available.result = .ok true := rfl
  refine ⟨hfirst, ?_, hsecond, ?_, hbrings, ?_⟩
  · exact (poll_frames.1 broken hfirst).1
  · exact (poll_frames.1 broken.poll.link hsecond).1
  · exact poll_frames.2 whole [[1, 2, 3, 4], [5, 6, 7, 8]] (by decide) (by decide) hbrings

end Serial

/-! ### Polls of a socket -/

namespace Udp

/-- What ends the receptions of a poll. -/
inductive Stop where
  /-- Nothing has arrived. -/
  | idle
  /-- Nothing arrived in time. -/
  | nothing
  | failed (cause : Error)

/-- What a poll takes from the socket: datagrams, and what comes behind them. -/
structure Sweep where
  data : List Bytes
  stop : Stop

namespace Sweep

/-- The receptions of a poll. -/
def receipts (s : Sweep) : List Receipt :=
  s.data.map .datagram ++
    match s.stop with
    | .idle => []
    | .nothing => [.nothing]
    | .failed cause => [.failed cause]

def packets (s : Sweep) : Packet.Batch := Packet.decodeAll (s.data.map cut)

def result (s : Sweep) : Except Error Polled :=
  match s.stop with
  | .idle | .nothing => .ok (!s.data.isEmpty, s.packets)
  | .failed cause => .error cause

/-- A poll that fails behind a datagram loses it. -/
def Loses (s : Sweep) : Prop := (∃ cause, s.stop = .failed cause) ∧ s.data ≠ []

/-- The same poll, with one datagram more in front. -/
def prepend (data : Bytes) (s : Sweep) : Sweep := { s with data := data :: s.data }

/-- The datagrams that a poll yields as packets. -/
def raws (s : Sweep) : Except Error (List Bytes) :=
  match s.stop with
  | .idle | .nothing => .ok (s.data.map cut)
  | .failed cause => .error cause

end Sweep

/-- The packets of the polls that succeed. -/
def delivered (results : List (Except Error Polled)) : Packet.Batch :=
  results.flatMap fun
    | .ok polled => polled.2
    | .error _ => []

/-- **A reception sweeps the socket.**  It takes datagrams in the order in which they arrived, and
stops on its own only when there are no more. -/
theorem drainSocket_sweeps (incoming : List Receipt) :
    ∃ s : Sweep, (drainSocket incoming).1 = s.raws ∧
      incoming = s.receipts ++ (drainSocket incoming).2.2 ∧
      (s.stop = .idle → (drainSocket incoming).2.2 = []) := by
  induction incoming with
  | nil => exact ⟨⟨[], .idle⟩, rfl, rfl, fun _ => rfl⟩
  | cons receipt rest ih =>
    cases receipt with
    | nothing => exact ⟨⟨[], .nothing⟩, rfl, rfl, nofun⟩
    | failed cause => exact ⟨⟨[], .failed cause⟩, rfl, rfl, nofun⟩
    | datagram data =>
      obtain ⟨s, hraws, hreceipts, hidle⟩ := ih
      refine ⟨s.prepend data, ?_, congrArg (.datagram data :: ·) hreceipts, hidle⟩
      show (drainSocket rest).1.map (cut data :: ·) = _
      rw [hraws, Sweep.raws, Sweep.raws, Sweep.prepend]
      cases s.stop <;> rfl

variable {l : Udp}

/-- **A poll is one sweep.** -/
theorem poll_sweeps (isOpen : l.isClosed = false) :
    ∃ s : Sweep, l.poll.result = s.result ∧ l.incoming = s.receipts ++ l.poll.link.incoming ∧
      (s.stop = .idle → l.poll.link.incoming = []) ∧ l.poll.link.isClosed = false := by
  obtain ⟨s, hraws, hreceipts, hidle⟩ := drainSocket_sweeps l.incoming
  have hpoll : l.poll.result = s.result ∧ l.poll.link.incoming = (drainSocket l.incoming).2.2 ∧
      l.poll.link.isClosed = false := by
    rw [poll, if_neg (by rw [isOpen]; decide)]
    dsimp only
    rw [hraws, Sweep.raws, Sweep.result]
    cases s.stop with
    | failed cause => exact ⟨rfl, rfl, isOpen⟩
    | idle | nothing => exact ⟨by simp [Sweep.packets], rfl, isOpen⟩
  obtain ⟨hresult, hincoming, hclosed⟩ := hpoll
  rw [hincoming]
  exact ⟨s, hresult, hreceipts, hidle, hclosed⟩

/-- Polls sweep the socket one after another, each from where the last one stopped. -/
theorem polls_sweep (isOpen : l.isClosed = false) (n : Nat) :
    ∃ sweeps : List Sweep, sweeps.length = n ∧ (inTurn poll n l).1 = sweeps.map Sweep.result ∧
      l.incoming = sweeps.flatMap Sweep.receipts ++ (inTurn poll n l).2.incoming ∧
      ∀ s ∈ sweeps, s.stop = .idle → (inTurn poll n l).2.incoming = [] := by
  induction n generalizing l with
  | zero => exact ⟨[], rfl, rfl, rfl, nofun⟩
  | succ n ih =>
    obtain ⟨s, hresult, hreceipts, hidle, hclosed⟩ := poll_sweeps isOpen
    obtain ⟨sweeps, hlength, hresults, hothers, hidles⟩ := ih hclosed
    rw [inTurn_succ]
    refine ⟨s :: sweeps, ?_, ?_, ?_, ?_⟩
    · rw [List.length_cons, hlength]
    · rw [List.map_cons, hresult, hresults]
    · rw [List.flatMap_cons, List.append_assoc, ← hothers, ← hreceipts]
    · intro other hother hstop
      rcases List.mem_cons.mp hother with rfl | hother
      · -- Nothing was left for the polls behind it.
        rw [hidle hstop] at hothers
        exact (List.append_eq_nil_iff.mp hothers.symm).2
      · exact hidles other hother hstop

theorem Sweep.delivered_of_not_loses {s : Sweep} (keeps : ¬ s.Loses) :
    delivered [s.result] = s.packets := by
  rw [delivered, List.flatMap_singleton, result]
  cases hstop : s.stop with
  | idle | nothing => rfl
  | failed cause =>
    have hnone : s.data = [] := Classical.not_not.mp fun hdata => keeps ⟨⟨cause, hstop⟩, hdata⟩
    rw [packets, hnone]
    rfl

theorem Sweep.delivered_of_loses {s : Sweep} (loses : s.Loses) :
    delivered [s.result] = [] ∧ s.packets ≠ [] := by
  obtain ⟨⟨cause, hstop⟩, hdata⟩ := loses
  rw [delivered, List.flatMap_singleton, result, hstop, packets, Packet.decodeAll, List.map_map]
  exact ⟨rfl, fun h => hdata (List.map_eq_nil_iff.mp h)⟩

theorem delivered_cons (s : Sweep) (sweeps : List Sweep) :
    delivered ((s :: sweeps).map Sweep.result) =
      delivered [s.result] ++ delivered (sweeps.map Sweep.result) := by
  simp only [delivered, List.map_cons, List.flatMap_cons, List.flatMap_nil, List.append_nil]

/-- What sweeps deliver is a part of what they take, in the same order. -/
theorem delivered_sublist (sweeps : List Sweep) :
    (delivered (sweeps.map Sweep.result)).Sublist (sweeps.flatMap Sweep.packets) := by
  induction sweeps with
  | nil => exact .slnil
  | cons s sweeps ih =>
    rw [delivered_cons, List.flatMap_cons]
    by_cases hloses : s.Loses
    · rw [(Sweep.delivered_of_loses hloses).1]
      exact ih.trans (List.sublist_append_right _ _)
    · rw [Sweep.delivered_of_not_loses hloses]
      exact ih.append_left _

/-- Sweeps deliver all that they take if none of them loses anything, and only then. -/
theorem delivered_eq_iff (sweeps : List Sweep) :
    delivered (sweeps.map Sweep.result) = sweeps.flatMap Sweep.packets ↔
      ∀ s ∈ sweeps, ¬ s.Loses := by
  induction sweeps with
  | nil => exact iff_of_true rfl nofun
  | cons s sweeps ih =>
    rw [delivered_cons, List.flatMap_cons, List.forall_mem_cons, ← ih]
    by_cases hloses : s.Loses
    · obtain ⟨hnone, hpackets⟩ := Sweep.delivered_of_loses hloses
      refine iff_of_false (fun h => hpackets ?_) fun h => h.1 hloses
      -- The others cannot deliver more than they take.
      have hle := (delivered_sublist sweeps).length_le
      rw [hnone, List.nil_append] at h
      rw [h, List.length_append] at hle
      exact List.length_eq_zero_iff.mp (by omega)
    · rw [Sweep.delivered_of_not_loses hloses, List.append_cancel_left_eq, and_iff_right hloses]

/-- **Polls deliver what they take unless one of them fails behind a datagram.**  Polls of an open
link sweep the socket one after another: each takes the datagrams in the order in which they
arrived, until nothing arrives in time, a reception fails, or there is nothing left, and yields all
their packets, or the failure and no packet.  So the packets of the polls that succeed are packets
of the datagrams that were taken from the socket, in order and none of them twice.  They are those
of all datagrams that were taken if no poll failed after it had taken a datagram, and only then:
what such a poll had taken is lost. -/
theorem polls_deliver_iff {l : Udp} (isOpen : l.isClosed = false) (n : Nat) :
    ∃ sweeps : List Sweep, sweeps.length = n ∧
      l.incoming = sweeps.flatMap Sweep.receipts ++ (inTurn poll n l).2.incoming ∧
      (∀ s ∈ sweeps, s.stop = .idle → (inTurn poll n l).2.incoming = []) ∧
      (inTurn poll n l).1 = sweeps.map Sweep.result ∧
      (delivered (inTurn poll n l).1).Sublist (sweeps.flatMap Sweep.packets) ∧
      (delivered (inTurn poll n l).1 = sweeps.flatMap Sweep.packets ↔
        ∀ s ∈ sweeps, ¬ s.Loses) := by
  obtain ⟨sweeps, hlength, hresults, hincoming, hidle⟩ := polls_sweep isOpen n
  refine ⟨sweeps, hlength, hincoming, hidle, hresults, ?_, ?_⟩
  · rw [hresults]
    exact delivered_sublist sweeps
  · rw [hresults]
    exact delivered_eq_iff sweeps

/-- A reception fails behind the first of two datagrams, and the packet of that datagram is in no
poll. -/
theorem polls_deliver_iff_failing :
    let l : Udp := ⟨[.datagram [1], .failed brokenPipe, .datagram [2], .nothing], [], true, false⟩
    l.isClosed = false ∧
      (inTurn poll 2 l).1 = [.error brokenPipe, .ok (true, [Packet.decodeLenient [2]])] ∧
      ∃ s t : Sweep, l.incoming = s.receipts ++ t.receipts ∧ s.Loses ∧
        delivered (inTurn poll 2 l).1 ≠ s.packets ++ t.packets := by
  intro l
  have hleft : (inTurn poll 2 l).2.incoming = [] := rfl
  obtain ⟨sweeps, hlength, hincoming, -, hresults, -, hiff⟩ := polls_deliver_iff (l := l) rfl 2
  -- Two polls make two sweeps, of which the first one has to hold the first datagram.
  obtain ⟨s, t, rfl⟩ := List.length_eq_two.mp hlength
  have htwo : ∀ {α : Type} (f : Sweep → List α), [s, t].flatMap f = f s ++ f t := by simp
  rw [hleft, List.append_nil, htwo] at hincoming
  have hloses : s.Loses := by
    have hfails : s.result = .error brokenPipe := (List.cons.inj hresults).1.symm
    rw [Sweep.receipts] at hincoming
    rw [Sweep.result] at hfails
    cases hstop : s.stop with
    | failed cause =>
      refine ⟨⟨cause, hstop⟩, fun hnone => ?_⟩
      rw [hstop, hnone] at hincoming
      cases (List.cons.inj hincoming).1
    | idle | nothing =>
      rw [hstop] at hfails
      cases hfails
  refine ⟨rfl, rfl, s, t, hincoming, hloses, ?_⟩
  rw [← htwo, ne_eq, hiff]
  exact fun hkeeps => hkeeps s List.mem_cons_self hloses

end Udp

end GroundLink.Link
