import GranuleRecall.Proofs.Course.Deeds

/-! # The record of each call

In a ledger the record of a call is the next thing that happens, if the call has one. The number
that it tells is found from what the ledger has up to the call, and the level of the record of a
send tells whether its message was accepted, is sent again or is given up. -/

set_option autoImplicit false

namespace GranuleRecall

/-- An event of a trace in two parts is in the one or in the other. -/
theorem Trace.split_of_append {left right before after : Trace} {event : Event}
    (split : left ++ right = before ++ event :: after) :
    (∃ rest, left = before ++ event :: rest ∧ after = rest ++ right) ∨
      ∃ begun, before = left ++ begun ∧ right = begun ++ event :: after := by
  rcases List.append_eq_append_iff.mp split with ⟨begun, same, rest⟩ | ⟨rest, same, ended⟩
  · exact .inr ⟨begun, same, rest⟩
  · cases rest with
    | nil => exact .inr ⟨[], by simpa using same.symm, by simpa using ended.symm⟩
    | cons first rest =>
        obtain ⟨rfl, rfl⟩ := List.cons.inj ended
        exact .inl ⟨rest, same, rfl⟩

/-- How urgent the record of a send is, by whether its message is sent again. -/
def SendReply.level (again : Bool) : SendReply → LogLevel
  | .accepted => .debug
  | .refused _ => if again then .warn else .error

namespace Ledger

section

variable (services : Services) (delivery : DeliveryBudget) (plan : RestorePlan) (job : Job)
  (past : Trace) (deeds : List Deed) (before after : Trace)

/-- A request between two parts of a ledger: it is for some entry, and its record follows at once,
which tells the number of all requests so far for that entry. -/
def TellsRequest (call : RestoreCall) (reply : RestoreReply) : Prop :=
  ∃ earlier position later rest, deeds = earlier ++ .request ⟨position, call, reply⟩ :: later ∧
    Ledger services delivery plan job past earlier before ∧
    after = (requestRecord? plan job ((repliesTo position (Deed.requests earlier)).length + 1)
      ⟨position, call, reply⟩).toList.map Event.log ++ rest

/-- A send between two parts of a ledger: it is an attempt to publish its message, and its record
follows at once, which tells its place among these attempts. -/
def TellsSend (message : Message) (reply : SendReply) : Prop :=
  ∃ earlier refusals further later start tried rest,
    deeds = earlier ++ .publish message (refusals ++ reply :: further) :: later ∧
    Ledger services delivery plan job past earlier start ∧ before = start ++ tried ∧
    Trace.sends tried = (refusals.map fun refusal => (message, refusal)) ∧
    after = .log (attemptRecord delivery message (refusals.length + 1) reply) :: rest ∧
    (attemptRecord delivery message (refusals.length + 1) reply).level =
      reply.level (!further.isEmpty)

end

/-- Of what a request leaves, only the request itself is no record. -/
theorem request_split {plan : RestorePlan} {job : Job} {number : Nat} {asked : EntryRequest}
    {begun after : Trace} {event : Event}
    (split : .restore asked.call asked.reply ::
      (requestRecord? plan job number asked).toList.map Event.log = begun ++ event :: after)
    (unlogged : ∀ record, event ≠ .log record) :
    begun = [] ∧ event = .restore asked.call asked.reply ∧
      after = (requestRecord? plan job number asked).toList.map Event.log := by
  cases begun with
  | nil =>
      obtain ⟨rfl, rfl⟩ := List.cons.inj split
      exact ⟨rfl, rfl, rfl⟩
  | cons first begun =>
      have listed : event ∈ (requestRecord? plan job number asked).toList.map Event.log := by
        simp [(List.cons.inj split).2]
      obtain ⟨record, _, rfl⟩ := List.mem_map.mp listed
      exact absurd rfl (unlogged record)

section

variable {budget : DeliveryBudget} {message : Message}

theorem attempts_unasked {number : Nat} {replies : List SendReply} {call : RestoreCall}
    {reply : RestoreReply} {begun after : Trace} :
    attempts budget message number replies ≠ begun ++ .restore call reply :: after := by
  intro split
  have unasked := restores_attempts budget message number replies
  rw [split, Trace.restores_append] at unasked
  exact List.cons_ne_nil _ _ (List.append_eq_nil_iff.mp unasked).2

/-- A send among the attempts of a message is the one of its place, and its record comes next. -/
theorem attempts_split {sent : Message} {number : Nat} {replies : List SendReply}
    {reply : SendReply} {before after : Trace}
    (split : attempts budget message number replies = before ++ .send sent reply :: after) :
    sent = message ∧ ∃ refusals further rest, replies = refusals ++ reply :: further ∧
      before.sends = (refusals.map fun refusal => (message, refusal)) ∧
      after = .log (attemptRecord budget message (number + refusals.length) reply) :: rest := by
  fun_induction attempts generalizing before with
  | case1 => cases before <;> cases split
  | case2 number last =>
      -- The send is the first of the two events.
      rcases before with _ | ⟨_, _ | ⟨_, _ | _⟩⟩ <;> cases split
      exact ⟨rfl, [], [], [], rfl, rfl, rfl⟩
  | case3 number first next later ih =>
      rcases before with _ | ⟨_, _ | ⟨_, _ | ⟨_, before⟩⟩⟩
      · cases split
        exact ⟨rfl, [], next :: later, _, rfl, rfl, rfl⟩
      · cases split
      · cases split
      · simp only [List.cons_append, List.cons.injEq] at split
        obtain ⟨rfl, rfl, rfl, following⟩ := split
        obtain ⟨rfl, refusals, further, rest, others, sends, told⟩ := ih following
        refine ⟨rfl, first :: refusals, further, rest, congrArg (List.cons first) others,
          congrArg (List.cons (sent, first)) sends, ?_⟩
        rw [told, List.length_cons, Nat.add_right_comm, Nat.add_assoc]

/-- A refusal leaves some of the budget exactly if the message is sent again. -/
theorem Tries.level_attemptRecord {refusals further : List SendReply} {reply : SendReply}
    (tries : Tries budget (refusals ++ reply :: further)) :
    (attemptRecord budget message (refusals.length + 1) reply).level =
      reply.level (!further.isEmpty) := by
  have bounded := tries.bounded
  rw [List.length_append, List.length_cons] at bounded
  cases reply with
  | accepted => rfl
  | refused reasons =>
      cases further with
      | cons next later =>
          rw [List.length_cons] at bounded
          have left : refusals.length + 1 < budget.attempts := by omega
          simp [attemptRecord, SendReply.level, left]
      | nil =>
          obtain ⟨earlier, last, split, unaccepted⟩ := tries.refused
          obtain ⟨rfl, here⟩ := List.append_inj' split rfl
          cases here
          have spent := tries.spent (by simp [unaccepted])
          rw [List.length_append, List.length_singleton] at spent
          simp [attemptRecord, SendReply.level, spent]

end

section

variable {services : Services} {delivery : DeliveryBudget} {plan : RestorePlan} {job : Job}
  {past trace : Trace} {deeds : List Deed} {before after : Trace}

theorem TellsRequest.append {call : RestoreCall} {reply : RestoreReply}
    (told : TellsRequest services delivery plan job past deeds before after call reply)
    (more : List Deed) (added : Trace) :
    TellsRequest services delivery plan job past (deeds ++ more) before (after ++ added) call
      reply := by
  obtain ⟨earlier, position, later, rest, rfl, ledger, rfl⟩ := told
  refine ⟨earlier, position, later ++ more, rest ++ added, ?_, ledger, ?_⟩
  · rw [List.append_assoc, List.cons_append]
  · rw [List.append_assoc]

theorem TellsSend.append {message : Message} {reply : SendReply}
    (told : TellsSend services delivery plan job past deeds before after message reply)
    (more : List Deed) (added : Trace) :
    TellsSend services delivery plan job past (deeds ++ more) before (after ++ added) message
      reply := by
  obtain ⟨earlier, refusals, further, later, start, tried, rest, rfl, ledger, begun, sent, rfl,
    level⟩ := told
  refine ⟨earlier, refusals, further, later ++ more, start, tried, rest ++ added, ?_, ledger, begun,
    sent, ?_, level⟩
  · rw [List.append_assoc, List.cons_append]
  · rw [List.cons_append]

theorem tellsRequest (ledger : Ledger services delivery plan job past deeds trace)
    {call : RestoreCall} {reply : RestoreReply}
    (split : trace = before ++ .restore call reply :: after) :
    TellsRequest services delivery plan job past deeds before after call reply := by
  induction ledger generalizing after with
  | start => cases before <;> cases split
  | @request deeds trace asked number ledger replied counted ih =>
      rcases Trace.split_of_append split with ⟨rest, inside, rfl⟩ | ⟨begun, rfl, made⟩
      · exact (ih inside).append ..
      · obtain ⟨rfl, same, rfl⟩ := request_split made fun _ => nofun
        obtain ⟨position, asked, replied⟩ := asked
        cases same
        rw [repliesTo_append, repliesTo_singleton_self ⟨position, _, _⟩, List.length_append,
          List.length_singleton] at counted
        refine ⟨deeds, position, [], [], rfl, by rwa [List.append_nil], ?_⟩
        rw [List.append_nil, counted]
  | publish ledger _ _ ih =>
      rcases Trace.split_of_append split with ⟨rest, inside, rfl⟩ | ⟨begun, rfl, made⟩
      · exact (ih inside).append ..
      · exact absurd made attempts_unasked
  | wait ledger ih =>
      rcases Trace.split_of_append split with ⟨rest, inside, rfl⟩ | ⟨begun, rfl, made⟩
      · exact (ih inside).append ..
      · rcases begun with _ | ⟨_, _ | _⟩ <;> cases made

theorem tellsSend (ledger : Ledger services delivery plan job past deeds trace)
    {message : Message} {reply : SendReply}
    (split : trace = before ++ .send message reply :: after) :
    TellsSend services delivery plan job past deeds before after message reply := by
  induction ledger generalizing after with
  | start => cases before <;> cases split
  | request ledger _ _ ih =>
      rcases Trace.split_of_append split with ⟨rest, inside, rfl⟩ | ⟨begun, rfl, made⟩
      · exact (ih inside).append ..
      · obtain ⟨_, same, _⟩ := request_split made fun _ => nofun
        cases same
  | @publish deeds trace published replies outcome ledger tries delivered ih =>
      rcases Trace.split_of_append split with ⟨rest, inside, rfl⟩ | ⟨begun, rfl, made⟩
      · exact (ih inside).append ..
      · obtain ⟨rfl, refusals, further, rest, rfl, sends, told⟩ := attempts_split made
        rw [Nat.add_comm] at told
        exact ⟨deeds, refusals, further, [], trace, begun, rest, rfl, ledger, rfl, sends, told,
          tries.level_attemptRecord⟩
  | wait ledger ih =>
      rcases Trace.split_of_append split with ⟨rest, inside, rfl⟩ | ⟨begun, rfl, made⟩
      · exact (ih inside).append ..
      · rcases begun with _ | ⟨_, _ | _⟩ <;> cases made

/-! ## When a message is given up -/

/-- All attempts to send a message that is published are in the trace, one after another. -/
theorem published (ledger : Ledger services delivery plan job past deeds trace)
    {message : Message} {replies : List SendReply} (listed : .publish message replies ∈ deeds) :
    Tries delivery replies ∧ attempts delivery message 1 replies <:+: trace := by
  have later {trace : Trace} (added : Trace)
      (before : Tries delivery replies ∧ attempts delivery message 1 replies <:+: trace) :
      Tries delivery replies ∧ attempts delivery message 1 replies <:+: trace ++ added :=
    ⟨before.1, before.2.trans (List.prefix_append ..).isInfix⟩
  induction ledger with
  | start => cases listed
  | request _ _ _ ih =>
      rcases List.mem_append.mp listed with earlier | here
      · exact later _ (ih earlier)
      · cases List.mem_singleton.mp here
  | publish _ tries _ ih =>
      rcases List.mem_append.mp listed with earlier | here
      · exact later _ (ih earlier)
      · cases List.mem_singleton.mp here
        exact ⟨tries, (List.suffix_append ..).isInfix⟩
  | wait _ ih =>
      rcases List.mem_append.mp listed with earlier | here
      · exact later _ (ih earlier)
      · cases List.mem_singleton.mp here

theorem attemptRecord_source (budget : DeliveryBudget) (message : Message) (number : Nat)
    (reply : SendReply) : (attemptRecord budget message number reply).source = .delivery := by
  cases reply with
  | accepted => rfl
  | refused reasons =>
      simp only [attemptRecord]
      split <;> rfl

theorem givesUpOn_attempts {budget : DeliveryBudget} {message : Message} {number : Nat}
    {replies : List SendReply} (tried : replies ≠ []) (unaccepted : .accepted ∉ replies)
    (spent : number + replies.length = budget.attempts + 1) :
    (attempts budget message number replies).GivesUpOn message := by
  fun_induction attempts with
  | case1 => exact absurd rfl tried
  | case2 number last =>
      cases last with
      | accepted => exact absurd List.mem_cons_self unaccepted
      | refused reasons =>
          have last : ¬ number < budget.attempts := by
            rw [List.length_singleton] at spent
            omega
          refine ⟨number, reasons, ?_⟩
          simp [attemptRecord, last, Trace.deliveries, Delivery.givenUpRecord]
  | case3 number first next later ih =>
      have later' := ih (List.cons_ne_nil _ _) (List.not_mem_of_not_mem_cons unaccepted)
        (by rw [List.length_cons] at spent; omega)
      obtain ⟨attempt, reasons, within⟩ := later'
      refine ⟨attempt, reasons, within.trans (List.IsSuffix.isInfix ?_)⟩
      exact List.IsSuffix.filter _ (List.suffix_append [_, _, _] _)

/-- A trace with all attempts of a budget to send a message, each refused, gives it up. -/
theorem givesUpOn_of_attempts {budget : DeliveryBudget} {message : Message}
    {replies : List SendReply} {trace : Trace} (spent : replies.length = budget.attempts)
    (unaccepted : .accepted ∉ replies)
    (within : attempts budget message 1 replies <:+: trace) : trace.GivesUpOn message := by
  have tried : replies ≠ [] := by
    rintro rfl
    exact absurd spent budget.attempts_pos.ne
  have givesUp : (attempts budget message 1 replies).GivesUpOn message :=
    givesUpOn_attempts tried unaccepted (by omega)
  obtain ⟨attempt, reasons, told⟩ := givesUp
  exact ⟨attempt, reasons, told.trans (within.filter _)⟩

/-- What is given up was published, with refusals only. -/
theorem exists_publish_of_givesUpOn (ledger : Ledger services delivery plan job past deeds trace)
    {message : Message} (givesUp : trace.GivesUpOn message) :
    ∃ replies, .publish message replies ∈ deeds ∧ .accepted ∉ replies := by
  obtain ⟨attempt, reasons, before, after, within⟩ := givesUp
  rw [List.append_assoc, eq_comm] at within
  obtain ⟨start, later, rfl, _, sent⟩ := List.filter_eq_append_iff.mp within
  obtain ⟨skipped, rest, rfl, _, _, told⟩ := List.filter_eq_cons_iff.mp sent
  obtain ⟨earlier, refusals, further, following, _, _, _, rfl, _, _, _, recorded, level⟩ :=
    ledger.tellsSend (List.append_assoc start skipped _).symm
  have delivery' := attemptRecord_source delivery message (refusals.length + 1) (.refused reasons)
  rw [recorded, List.filter_cons_of_pos (by simpa using delivery')] at told
  have same := Event.log.inj (List.cons.inj told).1
  rw [same] at level
  -- Only the last refusal is told as an error.
  cases further with
  | cons next others => cases level
  | nil =>
      have listed : Deed.publish message (refusals ++ [.refused reasons]) ∈
          earlier ++ .publish message (refusals ++ [.refused reasons]) :: following := by simp
      obtain ⟨_, last, split, unaccepted⟩ := (ledger.published listed).1.refused
      obtain ⟨rfl, -⟩ := List.append_inj' split rfl
      exact ⟨_, listed, by simp [unaccepted]⟩

end

end Ledger

end GranuleRecall
