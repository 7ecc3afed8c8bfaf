import GroundLink.Proofs.Sender.Rounds

/-!
# First transmissions

A telecommand is sent for the first time, and perhaps again while it waits for its reply.  The deeds
of a sender tell which is which: whoever waits looks for replies, until the telemetry is taken that
came meanwhile.  So a transmission is a first one if no look for a reply was made since the
telemetry was taken last (`Sender.firsts`).

`Sender.Ledger` is what some deeds come to: the first transmissions among them with their outcomes,
whether a telecommand waits afterwards, and that the listener is asked for nothing.
-/

namespace GroundLink

/-- Whether a telecommand waits for its reply after a deed, if one does, or none does, before it. -/
def Deed.waitsAfter (d : Deed Sender) (waiting : Bool) : Bool :=
  match d.effect with
  | .takeReply => true
  | .takeTelemetry => false
  | _ => waiting

/-- The telecommand that a deed sends for the first time, with the outcome. -/
def Deed.first? (d : Deed Sender) (waiting : Bool) :
    Option (Telecommand.Packed × Except Link.Error Unit) :=
  match d with
  | ⟨_, .send tc, sent⟩ => if waiting then none else some (tc, sent)
  | _ => none

/-- A deed that makes no first transmission, neither starts nor ends a wait, and asks the listener
for nothing. -/
structure Deed.IsNeutral (d : Deed Sender) (waiting : Bool) : Prop where
  asksNothing : ∀ r, d.effect ≠ .request r
  first?_eq : d.first? waiting = none
  waitsAfter_eq : d.waitsAfter waiting = waiting

namespace Sender

/-- Whether a telecommand waits for its reply after some deeds. -/
def waitsAfter (waiting : Bool) (t : Trace Sender) : Bool :=
  t.foldl (fun waiting d => d.waitsAfter waiting) waiting

/-- **The first transmissions** among some deeds, in order and with their outcomes. -/
def firsts : Bool → Trace Sender → List (Telecommand.Packed × Except Link.Error Unit)
  | _, [] => []
  | waiting, d :: t => (d.first? waiting).toList ++ firsts (d.waitsAfter waiting) t

variable {before after last : Bool} {tc : Telecommand.Packed} {r s s' : Sender} {start : Span}
  {t u w : Trace Sender} {sent sent' : List (Telecommand.Packed × Except Link.Error Unit)}

theorem waitsAfter_append (waiting : Bool) (t u : Trace Sender) :
    waitsAfter waiting (t ++ u) = waitsAfter (waitsAfter waiting t) u :=
  List.foldl_append

theorem firsts_append (waiting : Bool) (t u : Trace Sender) :
    firsts waiting (t ++ u) = firsts waiting t ++ firsts (waitsAfter waiting t) u := by
  induction t generalizing waiting with
  | nil => rfl
  | cons d t ih =>
    rw [List.cons_append, firsts, firsts, ih, List.append_assoc]
    rfl

/-! ### Ledgers -/

/-- **What some deeds come to**: the listener is asked for nothing, the first transmissions are
`sent`, and a telecommand waits after them if `after` is set, where one waited before them if
`before` was set. -/
structure Ledger (before : Bool) (t : Trace Sender)
    (sent : List (Telecommand.Packed × Except Link.Error Unit)) (after : Bool) : Prop where
  asksNothing : ∀ d ∈ t, ∀ r, d.effect ≠ .request r
  firsts_eq : firsts before t = sent
  waits_eq : waitsAfter before t = after

namespace Ledger

theorem append (first : Ledger before t sent after) (second : Ledger after u sent' last) :
    Ledger before (t ++ u) (sent ++ sent') last where
  asksNothing d hd := by
    rcases List.mem_append.mp hd with hd | hd
    · exact first.asksNothing d hd
    · exact second.asksNothing d hd
  firsts_eq := by rw [firsts_append, first.waits_eq, first.firsts_eq, second.firsts_eq]
  waits_eq := by rw [waitsAfter_append, first.waits_eq, second.waits_eq]

/-- Nothing is entered for neutral deeds. -/
theorem of_neutral {waiting : Bool} (h : ∀ d ∈ t, d.IsNeutral waiting) :
    Ledger waiting t [] waiting := by
  induction t with
  | nil => exact ⟨fun d hd => absurd hd List.not_mem_nil, rfl, rfl⟩
  | cons d t ih =>
    obtain ⟨neutral, rest⟩ := List.forall_mem_cons.mp h
    have hrest := ih rest
    refine ⟨fun e he => (h e he).asksNothing, ?_, ?_⟩
    · rw [firsts, neutral.first?_eq, neutral.waitsAfter_eq, hrest.firsts_eq]
      rfl
    · show waitsAfter (d.waitsAfter waiting) t = waiting
      rw [neutral.waitsAfter_eq, hrest.waits_eq]

/-- Deeds for which nothing is entered. -/
theorem then_neutral (h : Ledger before t sent after) (neutral : ∀ d ∈ u, d.IsNeutral after) :
    Ledger before (t ++ u) sent after := by
  have hboth := h.append (of_neutral neutral)
  rw [List.append_nil] at hboth
  exact hboth

end Ledger

/-! ### What goes into a ledger -/

theorem Logs.neutral (h : Logs s t) (waiting : Bool) : ∀ d ∈ t, d.IsNeutral waiting := by
  intro d hd
  obtain ⟨mark, effect, answer⟩ := d
  obtain ⟨-, entries, heffect⟩ := h _ hd
  cases heffect
  exact ⟨nofun, rfl, rfl⟩

/-- Nothing that concerns neither telecommands nor replies is entered while none waits. -/
theorem Aside.neutral (h : Aside t) : ∀ d ∈ t, d.IsNeutral false := by
  intro d hd
  obtain ⟨mark, effect, answer⟩ := d
  have haside : IsAside effect := h _ hd
  cases effect <;> first
    | exact absurd haside id
    | exact ⟨nofun, rfl, rfl⟩

/-- Retransmissions are not entered. -/
theorem Check.neutral (step : Check tc s start t s') : ∀ d ∈ t, d.IsNeutral true := by
  have now (m : Sender) (reading : Span) : Deed.IsNeutral ⟨m, .now, reading⟩ true :=
    ⟨nofun, rfl, rfl⟩
  have log (m : Sender) (entry : Log.Entry) : Deed.IsNeutral ⟨m, .log [entry], ()⟩ true :=
    ⟨nofun, rfl, rfl⟩
  intro d hd
  cases step with
  | exhausted entry =>
    rw [List.mem_singleton.mp hd]
    exact log s entry
  | givenUp reading entry =>
    simp only [List.mem_cons, List.not_mem_nil, or_false] at hd
    rcases hd with rfl | rfl
    · exact now s reading
    · exact log s entry
  | waiting reading =>
    rw [List.mem_singleton.mp hd]
    exact now s reading
  | repeated reading restart entry printer printed failure sent few due again hp hf =>
    simp only [List.mem_append, List.mem_cons, List.not_mem_nil, or_false] at hd
    -- A retransmission is no first transmission, because its telecommand is waiting.
    rcases hd with ((((rfl | rfl) | hd) | rfl) | hd) | rfl
    · exact now s reading
    · exact log s entry
    · exact hp.neutral true d hd
    · exact ⟨nofun, rfl, rfl⟩
    · exact hf.neutral true d hd
    · exact now _ restart

/-- A transmission while none waits is a first one. -/
theorem Transmits.ledger {outcome : Except Link.Error Unit}
    (h : Transmits tc s start outcome u r) : Ledger false u [(tc, outcome)] false := by
  cases h with
  | intro printer printed hprinted =>
    have hread : Ledger false [⟨{ s with last := some tc }, .now, start⟩] [] false :=
      ⟨by simp, rfl, rfl⟩
    have hsent : Ledger false
        [⟨{ waitingFrom { s with last := some tc } start with printer }, .send tc, outcome⟩]
        [(tc, outcome)] false := ⟨by simp, rfl, rfl⟩
    exact (hread.then_neutral (hprinted.neutral false)).append hsent

/-- A look for a reply is part of a wait. -/
theorem ledger_look (waiting : Bool) (s : Sender) (replied : Bool) :
    Ledger waiting [⟨s, .takeReply, replied⟩] [] true :=
  ⟨by simp, rfl, rfl⟩

/-- A wait is over when the telemetry is taken. -/
theorem ledger_take (waiting : Bool) (s : Sender) (batches : List Packet.Batch)
    (printed : Logs r u) : Ledger waiting (⟨s, .takeTelemetry, batches⟩ :: u) [] false := by
  have htaken : Ledger waiting [⟨s, .takeTelemetry, batches⟩] [] false := ⟨by simp, rfl, rfl⟩
  exact htaken.then_neutral (printed.neutral false)

/-- A round of waiting in which no reply is found. -/
theorem Check.ledger (step : Check tc s start t s') (waiting : Bool) :
    Ledger waiting (emptyRound s t s') [] true := by
  have hchecked := (ledger_look waiting s false).then_neutral step.neutral
  have hpause : ∀ d ∈ [(⟨s', .sleep Settings.checkInterval, ()⟩ : Deed Sender)],
      d.IsNeutral true := by
    intro d hd
    rw [List.mem_singleton.mp hd]
    exact ⟨nofun, rfl, rfl⟩
  exact hchecked.then_neutral hpause

/-- **No round of waiting makes a first transmission.** -/
theorem Rounds.ledger (h : Rounds tc r w s) : ∃ waiting, Ledger false w [] waiting := by
  induction h with
  | start => exact ⟨false, fun d hd => absurd hd List.not_mem_nil, rfl, rfl⟩
  | found before pending ih =>
    obtain ⟨waiting, ledger⟩ := ih
    exact ⟨true, ledger.append (ledger_look waiting _ true)⟩
  | checked before pending started step ih =>
    obtain ⟨waiting, ledger⟩ := ih
    exact ⟨true, ledger.append (step.ledger waiting)⟩

end Sender

end GroundLink
