import GroundLink.Proofs.Sender.Endings
import GroundLink.Proofs.Sender.Order
import GroundLink.Sender.Single

/-!
# Calls of a sender are bracketed

All three senders bracket their work in the same way: the listener is asked for a mode, the work is
done, and the listener is told that the operation is finished, however the work came out.  A failure
of the link is only returned if a first transmission failed, after which nothing is sent and the
entries behind the failed telecommand are left (`Sender.Call.bracketed`).
-/

namespace GroundLink.Sender

open Activity (Follows)
open Queue (delivered)
open Routine

/-! ### Calls -/

inductive Call where
  | single (tc : Telecommand.Packed)
  | sequential (mode : Listener.Mode) (queue : Queue)
  | burst (b : Burst) (queue : Queue)

namespace Call

def mode : Call → Listener.Mode
  | .single _ => .singleCommand
  | .sequential mode _ => mode
  | .burst _ _ => .unitTest

def queue : Call → Queue
  | .single _ => []
  | .sequential _ queue => queue
  | .burst _ queue => queue

/-- The entries that a call works on. -/
def entries : Call → Queue
  | .single tc => [.telecommand tc]
  | .sequential _ queue => queue
  | .burst _ queue => queue

/-- What is done in a call.  The result is whether it fails, and the rest of the queue. -/
def run : Call → Routine Sender (Except Error Unit × Queue)
  | .single tc => do return ((← sendSingle tc).map fun _ => (), [])
  | .sequential mode queue => sendSequentially mode queue
  | .burst b queue => do
    let (result, rest) ← sendBurst b queue
    return (result.map fun _ => (), rest)

/-- What is done if the listener is gone. -/
def refusal (call : Call) (s : Sender) : Trace Sender :=
  [⟨s, .clearReplies, ()⟩, ⟨s, .request (.changeMode call.mode), false⟩]

/-- What is done before the work. -/
def opening (call : Call) (s : Sender) : Trace Sender :=
  [⟨s, .clearReplies, ()⟩, ⟨s, .request (.changeMode call.mode), true⟩,
    ⟨s, .sleep Settings.modeChangeDelay, ()⟩]

end Call

variable {call : Call} {s s' r : Sender} {p t work tail : Trace Sender} {rest : Queue}
  {result : Except Error Unit} {told : Bool}

/-! ### Whole runs -/

/-- A whole run of a call and how it comes out. -/
inductive Call.Runs (call : Call) (s : Sender) : Except Error Unit → Queue → Trace Sender → Prop
  | refused : Call.Runs call s (.error .listenerGone) call.queue (call.refusal s)
  | worked {sent : Except Link.Error Unit} {rest : Queue} {work tail : Trace Sender} {m : Sender}
      (told : Bool) (dispatches : Dispatches call.entries sent rest work) (prints : Prints tail) :
      Call.Runs call s (if told then sent.mapError .link else .error .listenerGone) rest
        (call.opening s ++ work ++ ⟨m, .request .finishOperation, told⟩ :: tail)

theorem SendsSingle.runs {tc : Telecommand.Packed} {result : Except Error (List Packet.Batch)}
    (h : SendsSingle tc s result t s') :
    (Call.single tc).Runs s (result.map fun _ => ()) [] t := by
  cases h with
  | refused => exact .refused
  | @stopped start cause u r failed told _ hresult =>
    have hruns : (Call.single tc).Runs s _ _ _ :=
      .worked (m := s') told (.of_failed failed) fun d hd => absurd hd List.not_mem_nil
    -- Whether the end of the operation was delivered decides the result, not the deeds.
    cases told with
    | true =>
      cases hresult
      exact hruns
    | false =>
      cases hresult
      exact hruns
  | @lost start u w r s' sent rounds ended =>
    obtain ⟨waiting, hledger⟩ := rounds.ledger
    have hsent := sent.ledger.append hledger
    have hruns : (Call.single tc).Runs s _ _ _ :=
      .worked (m := s') false (.all hsent) fun d hd => absurd hd List.not_mem_nil
    rw [← List.append_assoc] at hruns
    exact hruns
  | @waited start u w tail r s' batches printer sent rounds ended prints =>
    obtain ⟨waiting, hledger⟩ := rounds.ledger
    have hsent := sent.ledger.append hledger
    have hruns : (Call.single tc).Runs s _ _ _ := .worked (m := s') true (.all hsent) prints
    rw [← List.append_assoc] at hruns
    exact hruns

/-- **Every call is bracketed** in the same way. -/
theorem Call.secures_run (call : Call) (s : Sender) :
    Secures (Looks fun _ _ => True) call.run (fun x t _ => call.Runs s x.1 x.2 t) [] s := by
  cases call with
  | single tc =>
    unfold Call.run
    rw [Secures.bind_iff]
    exact secures_sendSingle_whole.mono fun result t s' h => Secures.pure_iff.mpr h.runs
  | sequential mode queue =>
    unfold Call.run sendSequentially
    rw [Secures.bind_iff]
    refine secures_enterMode (Secures.pure_iff.mpr .refused) ?_
    rw [Bool.not_true, if_neg Bool.false_ne_true, Secures.bind_iff]
    refine secures_sendQueue_dispatches queue fun sent rest t s' dispatches => ?_
    rw [Secures.bind_iff]
    refine secures_finish fun told => Secures.pure_iff.mpr ?_
    exact .worked told dispatches fun d hd => absurd hd List.not_mem_nil
  | burst b queue =>
    unfold Call.run
    rw [Secures.bind_iff]
    refine secures_sendBurst (Secures.pure_iff.mpr .refused) ?_
    intro sent batches rest t told s' dispatches
    have hruns : (Call.burst b queue).Runs s _ _ _ :=
      .worked (m := s') told dispatches fun d hd => absurd hd List.not_mem_nil
    refine Secures.pure_iff.mpr ?_
    cases told <;> cases sent <;> exact hruns

/-! ### How a call comes out -/

/-- **How a call comes out** that the listener accepted: with the deeds `work` it dispatched its
queue, then it tried to tell the listener that the operation is finished, which succeeded if `told`
is set, and then it did `tail`. -/
structure Bracketed (call : Call) (result : Except Error Unit) (rest : Queue)
    (work tail : Trace Sender) (told : Bool) : Prop where
  /-- No other request is made. -/
  asksNothing : ∀ d ∈ work ++ tail, ∀ r, d.effect ≠ .request r
  /-- Nothing is sent after the end of the operation. -/
  silent : sentBy tail = []
  failure_iff : ∀ cause, result = .error (.link cause) ↔
    told = true ∧ ∃ tc, (tc, .error cause) ∈ firsts false work
  gone_iff : result = .error .listenerGone ↔ told = false
  /-- A first transmission that fails is the last transmission, and the entries behind the
  telecommand are left. -/
  stops : ∀ tc cause, (tc, .error cause) ∈ firsts false work →
    ∃ before early m late, call.entries = before ++ .telecommand tc :: rest ∧
      work = early ++ ⟨m, .send tc, .error cause⟩ :: late ∧ waitsAfter false early = false ∧
      firsts false early = delivered before ∧ sentBy late = []
  /-- If no first transmission fails, everything is sent, and the call succeeds. -/
  completes : (∀ x ∈ firsts false work, x.2 = .ok ()) →
    rest = [] ∧ firsts false work = delivered call.entries ∧ (told = true → result = .ok ())

theorem Dispatches.asksNothing {queue : Queue} {sent : Except Link.Error Unit}
    (h : Dispatches queue sent rest work) : ∀ d ∈ work, ∀ r, d.effect ≠ .request r := by
  cases h with
  | all ledger => exact ledger.asksNothing
  | stopped split ledger aside =>
    intro d hd
    rcases List.mem_append.mp hd with hd | hd
    · exact ledger.asksNothing d hd
    · rcases List.mem_cons.mp hd with rfl | hd
      · exact nofun
      · exact (aside.neutral d hd).asksNothing

theorem not_mem_delivered (queue : Queue) (tc : Telecommand.Packed) (cause : Link.Error) :
    (tc, .error cause) ∉ delivered queue := by
  intro hmem
  obtain ⟨x, -, hx⟩ := List.mem_map.mp hmem
  cases hx

/-- The first transmissions up to a failure, which is the last one. -/
theorem Dispatches.firsts_stopped {before : Queue} {tc : Telecommand.Packed} {m : Sender}
    {cause : Link.Error} {w tail : Trace Sender} (ledger : Ledger false w (delivered before) false)
    (aside : Aside tail) : firsts false (w ++ ⟨m, .send tc, .error cause⟩ :: tail) =
      delivered before ++ [(tc, .error cause)] := by
  have htail : Ledger false tail [] false := .of_neutral aside.neutral
  have hlast : firsts false (⟨m, .send tc, .error cause⟩ :: tail) =
      (tc, .error cause) :: firsts false tail := rfl
  rw [firsts_append, ledger.firsts_eq, ledger.waits_eq, hlast, htail.firsts_eq]

theorem mapError_ok : (Except.ok () : Except Link.Error Unit).mapError Error.link = .ok () := rfl

theorem mapError_error (cause : Link.Error) :
    (Except.error cause : Except Link.Error Unit).mapError Error.link = .error (.link cause) := rfl

/-- **The work on a queue decides how the call comes out.** -/
theorem Dispatches.comesOut {sent : Except Link.Error Unit}
    (h : Dispatches call.entries sent rest work) (prints : Prints tail) (told : Bool) :
    Bracketed call (if told then sent.mapError .link else .error .listenerGone) rest work tail
      told where
  asksNothing d hd := by
    rcases List.mem_append.mp hd with hd | hd
    · exact h.asksNothing d hd
    · exact (prints.aside.neutral d hd).asksNothing
  silent := prints.aside.sentBy_eq
  failure_iff cause := by
    cases h with
    | all ledger =>
      rw [ledger.firsts_eq]
      have hnone : ¬ ∃ tc, (tc, .error cause) ∈ delivered call.entries :=
        fun ⟨tc, hmem⟩ => not_mem_delivered _ tc cause hmem
      cases told <;> simp [hnone, mapError_ok]
    | @stopped before _ tc m cause' w late split ledger aside =>
      rw [Dispatches.firsts_stopped ledger aside]
      -- Everything before the transmission that failed had succeeded.
      have hsome : (∃ tc', (tc', .error cause) ∈ delivered before ++ [(tc, .error cause')]) ↔
          cause' = cause := by
        constructor
        · rintro ⟨tc', hmem⟩
          rcases List.mem_append.mp hmem with hmem | hmem
          · exact absurd hmem (not_mem_delivered _ tc' cause)
          · cases (Prod.mk.inj (List.mem_singleton.mp hmem)).2
            rfl
        · rintro rfl
          exact ⟨tc, List.mem_append_right _ List.mem_cons_self⟩
      rw [hsome]
      cases told <;> simp [mapError_error]
  gone_iff := by
    cases told with
    | false => simp
    | true => cases h <;> simp [mapError_ok, mapError_error]
  stops tc cause hmem := by
    cases h with
    | all ledger =>
      rw [ledger.firsts_eq] at hmem
      exact absurd hmem (not_mem_delivered _ tc cause)
    | @stopped before _ tc' m cause' w late split ledger aside =>
      rw [Dispatches.firsts_stopped ledger aside] at hmem
      rcases List.mem_append.mp hmem with hmem | hmem
      · exact absurd hmem (not_mem_delivered _ tc cause)
      · -- The failure that was found is the one with which the work stopped.
        obtain ⟨rfl, hcause⟩ := Prod.mk.inj (List.mem_singleton.mp hmem)
        cases hcause
        exact ⟨before, w, m, late, split, rfl, ledger.waits_eq, ledger.firsts_eq, aside.sentBy_eq⟩
  completes hall := by
    cases h with
    | all ledger =>
      refine ⟨rfl, ledger.firsts_eq, fun htold => ?_⟩
      rw [htold]
      rfl
    | @stopped before _ tc m cause w late split ledger aside =>
      rw [Dispatches.firsts_stopped ledger aside] at hall
      cases hall (tc, .error cause) (List.mem_append_right _ List.mem_cons_self)

/-! ### Calls come to an end -/

variable {world : Trace Sender → (effect : Effect) → effect.Answer}

/-- A call comes to its end, if it does not wait forever. -/
theorem Call.halts (call : Call)
    (h : (∃ b queue, call = .burst b queue) ∨ ∃ n, WaitsEnd world n call.run [] s) :
    Halts world call.run [] s := by
  cases call with
  | burst b queue =>
    exact (plain_bind (plain_sendBurst b queue) (fun _ => plain_pure _) s).halts []
  | single tc =>
    rcases h with ⟨b, queue, hburst⟩ | ⟨n, waitsEnd⟩
    · cases hburst
    · refine waitsEnd.halts_bind (fun h => h.halts_sendSingle) ?_
      exact fun _ _ s' _ _ _ => (loopFree_pure _ s').halts _
  | sequential mode queue =>
    rcases h with ⟨b, queue, hburst⟩ | ⟨n, waitsEnd⟩
    · cases hburst
    · exact WaitsEnd.halts_sendSequentially waitsEnd

/-- A listener that is gone refuses any mode. -/
theorem refuses (mode : Listener.Mode) (s : Sender) : (enterMode mode).Completes s
    [⟨s, .clearReplies, ()⟩, ⟨s, .request (.changeMode mode), false⟩] false s :=
  Activity.reaches_play listenerGone 2 [] (enterMode mode s)

/-- **Calls are bracketed and fail cleanly**, whatever the clock, the link and the listener do.

* If the listener does not take the request for the mode, the call returns that the listener is
  gone. It has sent nothing then, and its queue is as it was.
* Otherwise this request is followed by the work and by one attempt to tell the listener that the
  operation is finished, and no other request is made.  Nothing is sent before or after the work.  A
  failure of the link is returned if and only if a first transmission failed and the listener could
  be told; nothing is sent after the failure then, and what is left are the entries behind the
  failed telecommand.
* A burst always comes to its end, and so does every other call whose waits do. -/
theorem Call.bracketed (call : Call) (s : Sender) :
    call.run.Completes s (call.refusal s) (.error .listenerGone, call.queue) s ∧
    (∀ t result rest s', call.run.Completes s t (result, rest) s' →
      (t = call.refusal s ∧ result = .error .listenerGone ∧ rest = call.queue) ∨
      ∃ work told m tail,
        t = call.opening s ++ work ++ ⟨m, .request .finishOperation, told⟩ :: tail ∧
        Bracketed call result rest work tail told) ∧
    ∀ world, ((∃ b queue, call = .burst b queue) ∨ ∃ n, WaitsEnd world n call.run [] s) →
      ∃ t result rest s', call.run.Completes s t (result, rest) s' ∧ Follows world [] t := by
  refine ⟨?_, fun t result rest s' run => ?_, fun world h => ?_⟩
  · cases call with
    | single tc => exact ((refuses .singleCommand s).bind _).bind _
    | sequential mode queue => exact (refuses mode s).bind _
    | burst b queue => exact ((refuses .unitTest s).bind _).bind _
  · have hruns : call.Runs s result rest t := (call.secures_run s).of_completes run
    cases hruns with
    | refused => exact .inl ⟨rfl, rfl, rfl⟩
    | @worked sent _ work tail m told dispatches prints =>
      exact .inr ⟨work, told, m, tail, rfl, dispatches.comesOut prints told⟩
  · obtain ⟨t, ⟨⟨result, rest⟩, s'⟩, run, follows⟩ := call.halts h
    exact ⟨t, result, rest, s', run, follows⟩

/-- Answers by which there always is a reply, and only the first transmission succeeds. -/
def firstSucceeds (p : Trace Sender) : (effect : Effect) → effect.Answer
  | .takeReply => true
  | .send _ => if (sentBy p).isEmpty then .ok () else .error .closed
  | effect => effect.calm

/-- The second of three telecommands cannot be sent, and the third one is left. -/
theorem Call.bracketed_failing :
    let call := Call.sequential .serviceTest (List.replicate 3 (.telecommand default))
    ∃ s t s' work m tail,
      call.run.Completes s t (.error (.link .closed), [.telecommand default]) s' ∧
      t = call.opening s ++ work ++ ⟨m, .request .finishOperation, true⟩ :: tail ∧
      (∃ tc, (tc, .error .closed) ∈ firsts false work) ∧
      ∃ t result rest s', call.run.Completes s t (result, rest) s' ∧
        Follows firstSucceeds [] t := by
  intro call
  let s := make {} (Printer.make .short false false)
  have run : ∃ t s', call.run.Completes s t (.error (.link .closed), [.telecommand default]) s' :=
    ⟨_, _, Activity.reaches_play firstSucceeds 40 [] (call.run s)⟩
  obtain ⟨t, s', run⟩ := run
  obtain ⟨-, whole, returns⟩ := call.bracketed s
  rcases whole t _ _ s' run with ⟨-, hgone, -⟩ | ⟨work, told, m, tail, ht, bracketed⟩
  · cases hgone
  · obtain ⟨rfl, failed⟩ := (bracketed.failure_iff .closed).mp rfl
    refine ⟨s, t, s', work, m, tail, run, ht, failed, ?_⟩
    exact returns firstSucceeds (.inr ⟨0, fun _ _ _ _ _ _ => .inl rfl⟩)

end GroundLink.Sender
