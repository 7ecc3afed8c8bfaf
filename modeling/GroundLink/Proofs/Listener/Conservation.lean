import GroundLink.Proofs.Bench.World
import GroundLink.Proofs.Link.Pending
import GroundLink.Proofs.Listener.Batches
import Mathlib.Data.List.Induction

/-!
# Telemetry is conserved

Telemetry comes into the link, is received by a poll, is stored in the telemetry queue and is taken
out of it.  While a listener does whatever it is asked to do and others send telecommands, let
telemetry arrive and take batches between any two of its deeds, every packet is in exactly one of
these places, in the order in which it came (`Listener.telemetry_conserved`).

The proof follows a packet in two halves.  The polls of a listener receive what was put into the
link, up to what is pending (`Listener.received_eq`), and what they received was taken or is stored,
up to the batch that the listener holds (`Listener.stored_eq`).
-/

namespace GroundLink.Listener

open Activity (Reaches)
open Bench (World)

/-! ### What others do -/

/-- What others do to the link and to the telemetry queue while a listener works. -/
inductive Traffic where
  | send (tc : Telecommand.Packed)
  | sendData (data : Bytes)
  /-- Telemetry arrives at a recording link. -/
  | push (raw : Bytes)
  /-- The next telecommands are not answered. -/
  | ignore (count : Nat)
  /-- From now on, telecommands are answered in another way. -/
  | answerBy (replier : Link.Recorder.Replier)
  /-- The next operations of the link fail. -/
  | fail (faults : Bench.Faults)
  | close
  /-- Everything is taken out of the telemetry queue. -/
  | take
  /-- Somebody looks at the telemetry queue. -/
  | look

/-- What others do to the world. -/
def Traffic.act (w : World) : Traffic → World
  | .send tc => (w.send tc).2
  | .sendData data => (w.sendData data).2
  | .push raw => w.act (.push raw)
  | .ignore count => w.act (.ignore count)
  | .answerBy replier => { w with link := w.link.mapRecorder fun l => { l with replier } }
  | .fail faults => w.act (.fail faults)
  | .close => w.close.2
  | .take => (w.perform .takeTelemetry).2
  | .look => w.retrieve.2

/-- The batches that others take. -/
def Traffic.taken (w : World) : Traffic → List Packet.Batch
  | .take => (w.perform .takeTelemetry).1
  | _ => []

/-- The raw telemetry that others put into the link: the replies to a telecommand that is not made
to fail, and what arrives at a recording link. -/
def Traffic.put (w : World) : Traffic → List Bytes
  | .send tc => if 0 < w.faults.sends then [] else w.link.replies tc
  | .push raw => if w.link.recorder?.isSome then [raw] else []
  | _ => []

abbrev Dealing := Happening Traffic Listener

/-- A world, and what went through it so far. -/
structure Depot where
  world : World
  /-- The batches that were taken out of the telemetry queue. -/
  taken : List Packet.Batch
  /-- The raw telemetry that was put into the link. -/
  put : List Bytes

namespace Depot

def stored (d : Depot) : List Packet.Batch := d.taken ++ d.world.batches

/-- The depot after something happened.  The listener need not be told what the world would
answer. -/
def step (d : Depot) : Dealing → Depot
  | .other x => ⟨x.act d.world, d.taken ++ x.taken d.world, d.put ++ x.put d.world⟩
  | .own e => { d with world := (d.world.perform e.effect).2 }

def after (w : World) (h : List Dealing) : Depot :=
  h.foldl step ⟨w, [], w.link.pending⟩

/-- Every poll of the listener is answered by the link of the world. -/
def Answers (d : Depot) : List Dealing → Prop
  | [] => True
  | x :: h =>
    (match x with
    | .own e => e.effect = .poll → e.answer = (d.world.perform e.effect).1
    | .other _ => True) ∧ (d.step x).Answers h

end Depot

variable {w : World} {d : Depot} {h : List Dealing} {p : Trace Listener} {e : Deed Listener}

theorem Depot.after_append (w : World) (h h' : List Dealing) :
    after w (h ++ h') = h'.foldl step (after w h) :=
  List.foldl_append

theorem Depot.Answers.of_append {h' : List Dealing} (answers : d.Answers (h ++ h')) :
    d.Answers h ∧ (h.foldl step d).Answers h' := by
  induction h generalizing d with
  | nil => exact ⟨trivial, answers⟩
  | cons x h ih =>
    obtain ⟨first, rest⟩ := answers
    obtain ⟨hrest, hlast⟩ := ih rest
    exact ⟨⟨first, hrest⟩, hlast⟩

/-! ### From the polls to the telemetry queue -/

/-- What is stored of a batch: nothing, if there is nothing in it. -/
def storable (batch : Packet.Batch) : List Packet.Batch :=
  if batch = [] then [] else [batch]

theorem flatten_storable (batch : Packet.Batch) : (storable batch).flatten = batch := by
  unfold storable
  by_cases hempty : batch = []
  · rw [if_pos hempty, hempty, List.flatten_nil]
  · rw [if_neg hempty, List.flatten_singleton]

theorem ne_nil_of_mem_storable {batch b : Packet.Batch} (hb : b ∈ storable batch) : b ≠ [] := by
  unfold storable at hb
  split at hb
  case isTrue => exact absurd hb List.not_mem_nil
  case isFalse hsome =>
    rw [List.mem_singleton.mp hb]
    exact hsome

/-- Others only move batches from the telemetry queue to those that were taken. -/
theorem stored_other (d : Depot) (x : Traffic) : (d.step (.other x)).stored = d.stored := by
  have keeps : ∀ w' : World, w'.batches = d.world.batches →
      (d.taken ++ []) ++ w'.batches = d.taken ++ d.world.batches := by
    intro w' hw'
    rw [hw', List.append_nil]
  cases x with
  | send tc => exact keeps _ (d.world.send_frame tc).1
  | close => exact keeps _ d.world.close_frame.1
  | take => exact List.append_nil _
  | sendData => exact keeps _ rfl
  | push => exact keeps _ rfl
  | ignore => exact keeps _ rfl
  | answerBy => exact keeps _ rfl
  | fail => exact keeps _ rfl
  | look => exact keeps _ rfl

/-- **A deed of the listener** stores the batch that it holds. -/
theorem stored_own (hands : Hands p e.mark e.effect) (d : Depot) :
    (d.step (.own e)).stored = d.stored ++ storable (held p) := by
  have idle : held p = [] → ¬ World.UsesQueue e.effect →
      (d.step (.own e)).stored = d.stored ++ storable (held p) := by
    intro hempty hidle
    have hbatches := d.world.perform_batches hidle
    show d.taken ++ (d.world.perform e.effect).2.batches = _
    rw [hbatches, hempty]
    exact (List.append_nil _).symm
  obtain ⟨mark, effect, answer⟩ := e
  cases effect with
  | store batch =>
    obtain ⟨rfl, hsome⟩ := hands
    show d.taken ++ (d.world.batches ++ [held p]) = d.taken ++ d.world.batches ++ storable (held p)
    unfold storable
    rw [if_neg hsome, List.append_assoc]
  | send => exact absurd hands id
  | conclude => exact absurd hands id
  | takeTelemetry => exact absurd hands id
  | _ => exact idle hands id

/-- The batches that were received were stored, but for the one that the listener holds. -/
theorem stored_eq (handles : Handles (Happening.deeds h)) (fresh : w.batches = []) :
    (Depot.after w h).stored ++ storable (held (Happening.deeds h)) =
      (Happening.deeds h).flatMap fun e => storable e.received := by
  -- The induction is on what happened last.
  induction h using List.reverseRecOn with
  | nil =>
    show [] ++ w.batches ++ [] = []
    rw [fresh]
    rfl
  | append_singleton h x ih =>
    rw [Happening.deeds_append] at handles
    have ih := ih handles.of_append
    have hafter : Depot.after w (h ++ [x]) = (Depot.after w h).step x := Depot.after_append w h [x]
    cases x with
    | other x =>
      rw [hafter, Happening.deeds_concat_other, stored_other]
      exact ih
    | own e =>
      rw [hafter, Happening.deeds_concat_own, stored_own (handles _ e [] rfl), ih, held_append,
        List.flatMap_append, List.flatMap_singleton]

/-! ### From the link to the polls -/

/-- **Others** put raw telemetry behind what is pending, and take nothing of it. -/
theorem pending_other (keeps : d.world.link.Keeps) (x : Traffic) :
    (d.step (.other x)).world.link.Keeps ∧
      (d.step (.other x)).world.link.pending = d.world.link.pending ++ x.put d.world := by
  -- Most of what others do adds nothing to what is pending.
  have same : ∀ {l : Link}, l.Keeps ∧ l.pending = d.world.link.pending →
      l.Keeps ∧ l.pending = d.world.link.pending ++ [] := by
    rintro l ⟨hkeeps, hpending⟩
    rw [List.append_nil]
    exact ⟨hkeeps, hpending⟩
  have recorder : ∀ f : Link.Recorder → Link.Recorder, (∀ l, (f l).pending = l.pending) →
      (d.world.link.mapRecorder f).Keeps ∧
        (d.world.link.mapRecorder f).pending = d.world.link.pending := by
    intro f hf
    generalize d.world.link = link at keeps ⊢
    cases keeps with
    | loopback l => exact ⟨.loopback l, rfl⟩
    | recorder l => exact ⟨.recorder _, hf l⟩
  cases x with
  | send tc =>
    show (d.world.send tc).2.link.Keeps ∧ (d.world.send tc).2.link.pending =
      d.world.link.pending ++ if 0 < d.world.faults.sends then [] else d.world.link.replies tc
    rw [(d.world.send_frame tc).2.2]
    split
    · exact same ⟨keeps, rfl⟩
    · exact ⟨keeps.send tc, Link.send_pending keeps tc⟩
  | sendData data => exact same (Link.sendData_pending keeps data)
  -- Only a recording link takes telemetry from outside.
  | push raw =>
    show (d.world.link.mapRecorder (·.push raw)).Keeps ∧
      (d.world.link.mapRecorder (·.push raw)).pending =
        d.world.link.pending ++ if d.world.link.recorder?.isSome then [raw] else []
    generalize d.world.link = link at keeps ⊢
    cases keeps with
    | loopback l => exact ⟨.loopback l, (List.append_nil _).symm⟩
    | recorder l => exact ⟨.recorder _, rfl⟩
  | ignore => exact same (recorder _ fun _ => rfl)
  | answerBy => exact same (recorder _ fun _ => rfl)
  | fail => exact same ⟨keeps, rfl⟩
  | close =>
    show d.world.close.2.link.Keeps ∧ d.world.close.2.link.pending = d.world.link.pending ++ []
    rw [d.world.close_frame.2.2]
    split
    · exact same ⟨keeps, rfl⟩
    · exact same (Link.close_pending keeps)
  | take => exact same ⟨keeps, rfl⟩
  | look => exact same ⟨keeps, rfl⟩

/-- A poll receives all that was pending, unless it is made to fail. -/
theorem poll_received (keeps : w.link.Keeps) (mark : Listener) :
    w.poll.2.link.Keeps ∧
      Deed.received ⟨mark, .poll, w.poll.1⟩ ++ Packet.decodeAll w.poll.2.link.pending =
        Packet.decodeAll w.link.pending := by
  obtain ⟨-, -, hresult, hlink⟩ := w.poll_frame
  by_cases fails : 0 < w.faults.polls
  · rw [if_pos fails] at hresult hlink
    rw [hresult, hlink]
    exact ⟨keeps, rfl⟩
  · obtain ⟨hpolled, hkeeps, hempty⟩ := Link.poll_pending keeps
    rw [if_neg fails] at hresult hlink
    rw [hresult, hlink, hpolled, hempty]
    refine ⟨hkeeps, ?_⟩
    show Deed.received ⟨mark, .poll, _⟩ ++ [] = _
    rw [List.append_nil]
    cases w.link.pending with
    | nil => rfl
    | cons raw rest => rfl

/-- **A deed of the listener** receives what it takes from the link. -/
theorem pending_own (keeps : d.world.link.Keeps) (hands : Hands p e.mark e.effect)
    (answered : e.effect = .poll → e.answer = (d.world.perform e.effect).1) :
    (d.step (.own e)).world.link.Keeps ∧
      e.received ++ Packet.decodeAll (d.step (.own e)).world.link.pending =
        Packet.decodeAll d.world.link.pending := by
  have idle : ∀ l : Link, l = d.world.link → e.received = [] →
      l.Keeps ∧
        e.received ++ Packet.decodeAll l.pending = Packet.decodeAll d.world.link.pending := by
    rintro l rfl hnone
    rw [hnone]
    exact ⟨keeps, rfl⟩
  obtain ⟨mark, effect, answer⟩ := e
  cases effect with
  | poll =>
    obtain rfl : answer = d.world.poll.1 := answered rfl
    exact poll_received keeps mark
  | available =>
    refine idle _ ?_ rfl
    have hlink := d.world.available_frame.2.2
    show d.world.available.2.link = d.world.link
    rw [hlink, Link.available_link keeps, ite_self]
  | send => exact absurd hands id
  | conclude => exact absurd hands id
  | _ => exact idle _ (d.world.perform_link id) rfl

/-- What was put into the link was received, but for what is pending. -/
theorem received_eq (handles : Handles (Happening.deeds h)) (keeps : w.link.Keeps)
    (answers : (Depot.after w []).Answers h) :
    (Depot.after w h).world.link.Keeps ∧
      (Happening.deeds h).flatMap Deed.received ++
          Packet.decodeAll (Depot.after w h).world.link.pending =
        Packet.decodeAll (Depot.after w h).put := by
  -- The induction is on what happened last.
  induction h using List.reverseRecOn with
  | nil => exact ⟨keeps, rfl⟩
  | append_singleton h x ih =>
    obtain ⟨before, last, -⟩ := answers.of_append
    rw [Happening.deeds_append] at handles
    obtain ⟨keeps', ih⟩ := ih handles.of_append before
    have hafter : Depot.after w (h ++ [x]) = (Depot.after w h).step x := Depot.after_append w h [x]
    rw [hafter]
    cases x with
    | other x =>
      obtain ⟨hkeeps, hpending⟩ := pending_other keeps' x
      refine ⟨hkeeps, ?_⟩
      have hput : ((Depot.after w h).step (.other x)).put =
          (Depot.after w h).put ++ x.put (Depot.after w h).world := rfl
      rw [Happening.deeds_concat_other, hpending, hput, Packet.decodeAll, Packet.decodeAll,
        List.map_append, List.map_append, ← List.append_assoc]
      exact congrArg (· ++ _) ih
    | own e =>
      obtain ⟨hkeeps, hpending⟩ := pending_own keeps' (handles _ e [] rfl) last
      refine ⟨hkeeps, ?_⟩
      have hput : ((Depot.after w h).step (.own e)).put = (Depot.after w h).put := rfl
      rw [Happening.deeds_concat_own, List.flatMap_append, List.flatMap_singleton,
        List.append_assoc, hpending, hput]
      exact ih

/-! ### Conservation -/

theorem step_look (d : Depot) : d.step (.other .look) = d := by
  show (⟨d.world.retrieve.2, d.taken ++ [], d.put ++ []⟩ : Depot) = d
  rw [List.append_nil, List.append_nil]
  rfl

/-- What was stored stays stored, in the same order. -/
theorem stored_grows {h₁ h₂ : List Dealing} (handles : Handles (Happening.deeds (h₁ ++ h₂))) :
    (Depot.after w h₁).stored <+: (Depot.after w (h₁ ++ h₂)).stored := by
  -- The induction is on what happened last.
  induction h₂ using List.reverseRecOn with
  | nil => exact ⟨[], by rw [List.append_nil, List.append_nil]⟩
  | append_singleton h₂ x ih =>
    rw [← List.append_assoc] at handles ⊢
    rw [Happening.deeds_append] at handles
    have ih := ih handles.of_append
    have hafter := Depot.after_append w (h₁ ++ h₂) [x]
    rw [hafter]
    cases x with
    | other x =>
      show _ <+: ((Depot.after w (h₁ ++ h₂)).step (.other x)).stored
      rw [stored_other]
      exact ih
    | own e =>
      show _ <+: ((Depot.after w (h₁ ++ h₂)).step (.own e)).stored
      rw [stored_own (handles _ e [] rfl)]
      exact ih.trans (List.prefix_append _ _)

/-- Only a poll receives anything. -/
theorem received_eq_nil (other : e.effect ≠ .poll) : e.received = [] := by
  obtain ⟨mark, effect, answer⟩ := e
  cases effect with
  | poll => exact absurd rfl other
  | _ => rfl

/-- After a poll that receives nothing, nothing is stored until the next poll. -/
theorem stored_of_nothing (handles : Handles (Happening.deeds h)) (fresh : w.batches = [])
    {h₁ h₂ : List Dealing} (split : h = h₁ ++ .own e :: h₂) (poll : e.effect = .poll)
    (nothing : e.received = [])
    (others : ∀ f ∈ Happening.deeds h₂, f.effect ≠ .poll) :
    (Depot.after w h).stored = (Depot.after w h₁).stored := by
  have hdeeds : Happening.deeds h = Happening.deeds h₁ ++ e :: Happening.deeds h₂ := by
    rw [split, Happening.deeds_append]
    rfl
  have hnone : ∀ f ∈ e :: Happening.deeds h₂, f.received = [] := by
    rw [List.forall_mem_cons]
    exact ⟨nothing, fun f hf => received_eq_nil (others f hf)⟩
  -- The hands of the listener are empty before the poll and at the end.
  have hbefore : held (Happening.deeds h₁) = [] := by
    have hpoll := handles _ e _ hdeeds
    rw [poll] at hpoll
    exact hpoll
  have hend : held (Happening.deeds h) = [] := by
    obtain ⟨q, f, hlast⟩ : ∃ q f, e :: Happening.deeds h₂ = q ++ [f] :=
      ⟨_, _, (List.dropLast_concat_getLast (List.cons_ne_nil e _)).symm⟩
    rw [hdeeds, hlast, ← List.append_assoc, held_append]
    apply hnone
    rw [hlast]
    exact List.mem_append_right _ List.mem_cons_self
  have hall := stored_eq handles fresh
  have hfirst := stored_eq (Handles.of_append (hdeeds ▸ handles)) fresh
  have hlater : (e :: Happening.deeds h₂).flatMap (fun f => storable f.received) = [] := by
    rw [List.flatMap_eq_nil_iff]
    intro f hf
    rw [hnone f hf]
    rfl
  rw [hend, hdeeds, List.flatMap_append, hlater] at hall
  rw [hbefore] at hfirst
  have hempty : storable [] = [] := rfl
  rw [hempty, List.append_nil, List.append_nil] at hall
  rw [hempty, List.append_nil] at hfirst
  rw [hall, hfirst]

/-- **Telemetry is neither lost, duplicated nor reordered.**  A listener does one thing after
another in a world whose telemetry queue was empty, while others do whatever they like.  Then at any
moment:

* the packets of the batches that were taken, of those in the telemetry queue and of the one that
  the listener holds are those of all polls that told of some, whatever the link answers,
* no batch is empty, and whoever looks at the telemetry queue changes nothing and sees the batches
  that are taken next,
* a poll that fails leaves the telemetry queue to others until the next poll, and
* if the link keeps telemetry and answers the polls, these packets and those that are pending are
  the lenient decoding of all raw telemetry that was ever put into it. -/
theorem telemetry_conserved {l : Listener} (works : Works l (Happening.deeds h))
    (fresh : w.batches = []) :
    let d := Depot.after w h
    d.taken.flatten ++ d.world.batches.flatten ++ held (Happening.deeds h) =
        (Happening.deeds h).flatMap Deed.received ∧
      (∀ batch ∈ d.taken ++ d.world.batches, batch ≠ []) ∧
      (∀ h₁ h₂, h = h₁ ++ .other .look :: h₂ → Depot.after w (h₁ ++ h₂) = d ∧
        (Depot.after w h₁).taken ++ (Depot.after w h₁).world.retrieve.1 <+: d.stored) ∧
      (∀ h₁ s cause h₂, h = h₁ ++ .own ⟨s, .poll, .error cause⟩ :: h₂ →
        (∀ e ∈ Happening.deeds h₂, e.effect ≠ .poll) → d.stored = (Depot.after w h₁).stored) ∧
      (w.link.Keeps → (Depot.after w []).Answers h →
        d.taken.flatten ++ d.world.batches.flatten ++ held (Happening.deeds h) ++
            Packet.decodeAll d.world.link.pending = Packet.decodeAll d.put) := by
  intro d
  have handles : Handles (Happening.deeds h) := works.handles
  have hstored : d.stored ++ storable (held (Happening.deeds h)) =
      (Happening.deeds h).flatMap fun e => storable e.received := stored_eq handles fresh
  -- Flattened, the batches that are stored are all packets that are not in hand.
  have hreceived : d.taken.flatten ++ d.world.batches.flatten ++ held (Happening.deeds h) =
      (Happening.deeds h).flatMap Deed.received := by
    have hflatten := congrArg List.flatten hstored
    rw [List.flatten_append, flatten_storable, Depot.stored, List.flatten_append] at hflatten
    rw [hflatten, List.flatMap_def, List.flatten_flatten, List.map_map, List.flatMap_def]
    congr 2
    funext e
    exact flatten_storable e.received
  refine ⟨hreceived, fun batch hbatch => ?_, fun h₁ h₂ hsplit => ?_, ?_, fun keeps answers => ?_⟩
  · have hmem : batch ∈ (Happening.deeds h).flatMap fun e => storable e.received := by
      rw [← hstored]
      exact List.mem_append_left _ hbatch
    obtain ⟨e, -, he⟩ := List.mem_flatMap.mp hmem
    exact ne_nil_of_mem_storable he
  · have hsame : Depot.after w (h₁ ++ h₂) = d := by
      show _ = Depot.after w h
      rw [hsplit, Depot.after_append, Depot.after_append, List.foldl_cons, step_look]
    rw [hsplit] at handles
    -- What was in the queue at the look stays first, whatever is stored later.
    have hgrows := stored_grows (w := w) handles
    rw [← hsplit] at hgrows
    exact ⟨hsame, hgrows⟩
  · intro h₁ s cause h₂ hsplit others
    exact stored_of_nothing handles fresh hsplit rfl rfl others
  · rw [hreceived]
    exact (received_eq handles keeps answers).2

/-- Answers by which every poll receives one packet that cannot be read. -/
def receiving (raw : Bytes) (_ : Trace Listener) : (effect : Effect) → effect.Answer
  | .poll => .ok (true, [Packet.unreadable raw])
  | effect => effect.calm

/-- A listener is asked to poll twice.  The first batch is taken by somebody, the second one was
just received when more telemetry arrives. -/
theorem telemetry_conserved_twice :
    ∃ w h, Works (make {}) (Happening.deeds h) ∧ w.batches = [] ∧ w.link.Keeps ∧
      (Depot.after w []).Answers h ∧ (Depot.after w h).put = [[], [0], [1]] ∧
      (Depot.after w h).taken = [[Packet.unreadable []]] ∧
      held (Happening.deeds h) = [Packet.unreadable [0]] ∧
      (Depot.after w h).world.link.pending = [[1]] ∧
      (Depot.after w h).taken.flatten ++ (Depot.after w h).world.batches.flatten ++
          held (Happening.deeds h) ++ Packet.decodeAll (Depot.after w h).world.link.pending =
        Packet.decodeAll (Depot.after w h).put := by
  let l : Listener := make {}
  let w : World := .make (.recorder (.make .silent)) []
  let h : List Dealing :=
    [.other (.push []), .own ⟨l, .poll, .ok (true, [Packet.unreadable []])⟩,
      .own ⟨l, .store [Packet.unreadable []], ()⟩, .other .look, .other .take, .other (.push [0]),
      .own ⟨l, .poll, .ok (true, [Packet.unreadable [0]])⟩, .other (.push [1])]
  have first : pollOnce.Completes l [⟨l, .poll, .ok (true, [Packet.unreadable []])⟩,
      ⟨l, .store [Packet.unreadable []], ()⟩] true l :=
    Activity.reaches_play (receiving []) 2 [] (pollOnce l)
  have works : Works l (Happening.deeds h) :=
    .next .pollOnce first
      (.going .pollOnce (Activity.reaches_play (receiving [0]) 1 [] (pollOnce l)))
  have answers : (Depot.after w []).Answers h :=
    ⟨trivial, fun _ => rfl, fun hpoll => Effect.noConfusion hpoll, trivial, trivial, trivial,
      fun _ => rfl, trivial, trivial⟩
  have hconserved := telemetry_conserved works (w := w) rfl
  exact ⟨w, h, works, rfl, .recorder _, answers, rfl, rfl, rfl, rfl,
    hconserved.2.2.2.2 (.recorder _) answers⟩

end GroundLink.Listener
