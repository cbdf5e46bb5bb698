import GranuleRecall.Run.Delivery

/-! # Deliveries are bounded

The queue is asked again after each refusal, and what it answers may depend on all that it was
asked before. As long as it refuses, what has happened is determined: `Delivery.refusedRounds`. So
the answer to each attempt is determined as well, and with it how many attempts there are. The
loop of a delivery sends that often, waits between two attempts only, and ends by the answer to
the last of them. Its counter fits into a machine word for every budget. -/

set_option autoImplicit false

namespace GranuleRecall

/-- What a trace shows of what was done, without what was told of it. -/
def Trace.actions (trace : Trace) : Trace :=
  trace.filter fun event =>
    match event with
    | .log _ => false
    | _ => true

namespace Trace

@[simp] theorem actions_append (left right : Trace) :
    actions (left ++ right) = actions left ++ actions right := by
  simp [actions]

theorem sends_actions (trace : Trace) : trace.actions.sends = trace.sends := by
  induction trace with
  | nil => rfl
  | cons event later ih =>
      cases event with
      | send message reply => exact congrArg (List.cons _) ih
      | probe bucket key reply => exact ih
      | restore call reply => exact ih
      | sleep duration => exact ih
      | log record => exact ih

theorem sleeps_actions (trace : Trace) : trace.actions.sleeps = trace.sleeps := by
  induction trace with
  | nil => rfl
  | cons event later ih =>
      cases event with
      | sleep duration => exact congrArg (List.cons _) ih
      | probe bucket key reply => exact ih
      | restore call reply => exact ih
      | send message reply => exact ih
      | log record => exact ih

theorem isView_sleeps : IsView sleeps := ⟨rfl, sleeps_append⟩

end Trace

namespace Delivery

/-! ## How many attempts are made -/

/-- The number of attempts when each is answered by some replies: up to the first that the queue
accepts, and all there may be if it accepts none. -/
def attemptsMade (attempts : Nat) (reply : Nat → SendReply) : Nat :=
  match (List.range attempts).find? fun index => reply index = .accepted with
  | some index => index + 1
  | none => attempts

section AttemptsMade

variable {attempts index : Nat} {reply : Nat → SendReply}

theorem attemptsMade_of_accepted (inside : index < attempts) (accepted : reply index = .accepted)
    (refused : ∀ earlier < index, reply earlier ≠ .accepted) :
    attemptsMade attempts reply = index + 1 := by
  have found : (List.range attempts).find? (fun index => reply index = .accepted) = some index := by
    rw [List.find?_range_eq_some]
    exact ⟨by simp [accepted], List.mem_range.mpr inside, fun earlier before => by
      simp [refused earlier before]⟩
  simp [attemptsMade, found]

theorem attemptsMade_of_refused (refused : ∀ index < attempts, reply index ≠ .accepted) :
    attemptsMade attempts reply = attempts := by
  have missing : (List.range attempts).find? (fun index => reply index = .accepted) = none := by
    rw [List.find?_range_eq_none]
    intro index inside
    simp [refused index inside]
  simp [attemptsMade, missing]

theorem attemptsMade_cases (attempts : Nat) (reply : Nat → SendReply) :
    (∃ first < attempts, reply first = .accepted ∧ (∀ index < first, reply index ≠ .accepted) ∧
      attemptsMade attempts reply = first + 1) ∨
    ((∀ index < attempts, reply index ≠ .accepted) ∧ attemptsMade attempts reply = attempts) := by
  cases found : (List.range attempts).find? fun index => reply index = .accepted with
  | none =>
      have refused := List.find?_range_eq_none.mp found
      simp only [decide_eq_false_iff_not, Bool.not_eq_eq_eq_not, Bool.not_true] at refused
      exact .inr ⟨refused, attemptsMade_of_refused refused⟩
  | some first =>
      obtain ⟨accepted, inside, earlier⟩ := List.find?_range_eq_some.mp found
      have refused : ∀ index < first, reply index ≠ .accepted := by
        intro index before
        simpa using earlier index before
      have answer := of_decide_eq_true accepted
      have within := List.mem_range.mp inside
      exact .inl ⟨first, within, answer, refused, attemptsMade_of_accepted within answer refused⟩

theorem attemptsMade_pos (positive : 0 < attempts) : 0 < attemptsMade attempts reply := by
  rcases attemptsMade_cases attempts reply with ⟨first, -, -, -, made⟩ | ⟨-, made⟩
  · omega
  · omega

/-- All attempts but the last are refused. -/
theorem refused_of_lt_attemptsMade (before : index + 1 < attemptsMade attempts reply) :
    reply index ≠ .accepted := by
  rcases attemptsMade_cases attempts reply with ⟨first, -, -, refused, made⟩ | ⟨refused, made⟩
  · exact refused index (by omega)
  · exact refused index (by omega)

/-- A delivery that makes fewer attempts than it may ends with an acceptance. -/
theorem attemptsMade_of_last_refused (last : reply (attemptsMade attempts reply - 1) ≠ .accepted) :
    attemptsMade attempts reply = attempts := by
  rcases attemptsMade_cases attempts reply with ⟨first, -, accepted, -, made⟩ | ⟨-, made⟩
  · rw [made] at last
    exact absurd accepted last
  · exact made

end AttemptsMade

/-! ## The rounds that are refused -/

section Rounds

variable (services : Services) (budget : DeliveryBudget) (message : Message) (past : Trace)

/-- What an attempt adds to a run that is refused and is not the last. -/
def refusedRound (attempt : Nat) (reasons : List String) : Trace :=
  [.send message (.refused reasons), .log (retryRecord budget message attempt reasons),
    .sleep budget.sleep]

/-- What the first attempts of a delivery add to a run as long as the queue refuses them. -/
def refusedRounds : (count : Nat) → Trace
  | 0 => []
  | count + 1 =>
    match services.send (past ++ refusedRounds count) message with
    | .accepted => refusedRounds count
    | .refused reasons =>
      refusedRounds count ++ refusedRound budget message (count + 1) reasons

/-- What the queue answers to an attempt after all those before it were refused. Attempts are
counted from zero here. -/
def replyTo (index : Nat) : SendReply :=
  services.send (past ++ refusedRounds services budget message past index) message

/-- What the last attempt adds to a run. -/
def lastRound (attempt : Nat) : SendReply → Trace
  | .accepted => [.send message .accepted, .log (postedRecord message attempt)]
  | .refused reasons =>
    [.send message (.refused reasons), .log (givenUpRecord message attempt reasons)]

/-- How a delivery ends by the answer to its last attempt. -/
def outcomeOf (attempt : Nat) : SendReply → Except Failure Unit
  | .accepted => .ok ()
  | .refused reasons => .error (.undelivered message.table.name attempt (reasonsText reasons))

end Rounds

/-! ## One turn of the loop -/

section Turn

variable {services : Services} {budget : DeliveryBudget} {message : Message} {past : Trace}
variable {reasons : List String} (attemptsLeft attempt : Nat)

theorem sendFrom_of_accepted (accepted : services.send past message = .accepted) :
    sendFrom services budget message attemptsLeft attempt past =
      (outcomeOf message attempt .accepted, lastRound message attempt .accepted) := by
  unfold sendFrom
  rw [Procedure.bind_of_ok (services.askSend_apply message past), accepted]
  rfl

theorem sendFrom_of_spent (refused : services.send past message = .refused reasons) :
    sendFrom services budget message 0 attempt past =
      (outcomeOf message attempt (.refused reasons),
        lastRound message attempt (.refused reasons)) := by
  unfold sendFrom
  rw [Procedure.bind_of_ok (services.askSend_apply message past), refused]
  rfl

theorem sendFrom_of_refused (refused : services.send past message = .refused reasons) :
    sendFrom services budget message (attemptsLeft + 1) attempt past =
      ((sendFrom services budget message attemptsLeft (attempt + 1)
          (past ++ refusedRound budget message attempt reasons)).1,
        refusedRound budget message attempt reasons ++
          (sendFrom services budget message attemptsLeft (attempt + 1)
            (past ++ refusedRound budget message attempt reasons)).2) := by
  rw [sendFrom, Procedure.bind_of_ok (services.askSend_apply message past), refused]
  dsimp only
  rw [Procedure.bind_of_ok (Procedure.tell_apply _ _),
    Procedure.bind_of_ok (Procedure.sleep_apply _ _)]
  simp [refusedRound]

end Turn

section Rounds

variable {services : Services} {budget : DeliveryBudget} {message : Message} {past : Trace}

theorem refusedRounds_succ {count : Nat} {reasons : List String}
    (refused : replyTo services budget message past count = .refused reasons) :
    refusedRounds services budget message past (count + 1) =
      refusedRounds services budget message past count ++
        refusedRound budget message (count + 1) reasons := by
  unfold replyTo at refused
  rw [refusedRounds, refused]

theorem refusedUpTo {count : Nat} {reasons : List String}
    (refused : ∀ index < count, replyTo services budget message past index ≠ .accepted)
    (refusedToo : replyTo services budget message past count = .refused reasons) :
    ∀ index < count + 1, replyTo services budget message past index ≠ .accepted := by
  refine Nat.forall_lt_succ_right.mpr ⟨refused, ?_⟩
  rw [refusedToo]
  simp

/-- From some refusals on, a delivery goes through the rounds up to its last attempt and ends by
the answer to that one. -/
theorem sendFrom_after_refusals (attemptsLeft made : Nat) {last : Nat}
    (refused : ∀ index < made, replyTo services budget message past index ≠ .accepted)
    (counted : attemptsMade (made + attemptsLeft + 1) (replyTo services budget message past) =
      last) :
    ∃ added,
      sendFrom services budget message attemptsLeft (made + 1)
          (past ++ refusedRounds services budget message past made) =
        (outcomeOf message last (replyTo services budget message past (last - 1)), added) ∧
      refusedRounds services budget message past made ++ added =
        refusedRounds services budget message past (last - 1) ++
          lastRound message last (replyTo services budget message past (last - 1)) := by
  induction attemptsLeft generalizing made with
  | zero =>
      cases answer : replyTo services budget message past made with
      | accepted =>
          rw [attemptsMade_of_accepted (by omega) answer refused] at counted
          subst counted
          exact ⟨_, answer ▸ sendFrom_of_accepted 0 (made + 1) answer, rfl⟩
      | refused reasons =>
          rw [attemptsMade_of_refused (refusedUpTo refused answer)] at counted
          subst counted
          exact ⟨_, answer ▸ sendFrom_of_spent (made + 1) answer, rfl⟩
  | succ attemptsLeft ih =>
      cases answer : replyTo services budget message past made with
      | accepted =>
          rw [attemptsMade_of_accepted (by omega) answer refused] at counted
          subst counted
          exact ⟨_, answer ▸ sendFrom_of_accepted _ (made + 1) answer, rfl⟩
      | refused reasons =>
          have bound : made + 1 + attemptsLeft + 1 = made + (attemptsLeft + 1) + 1 := by omega
          obtain ⟨added, ran, rounds⟩ :=
            ih (made + 1) (refusedUpTo refused answer) (bound ▸ counted)
          rw [refusedRounds_succ answer] at ran rounds
          rw [← List.append_assoc] at ran
          refine ⟨refusedRound budget message (made + 1) reasons ++ added, ?_, ?_⟩
          · rw [sendFrom_of_refused attemptsLeft (made + 1) answer, ran]
          · exact (List.append_assoc _ _ _).symm.trans rounds

theorem actions_refusedRounds (count : Nat)
    (refused : ∀ index < count, replyTo services budget message past index ≠ .accepted) :
    (refusedRounds services budget message past count).actions =
      (List.range count).flatMap fun index =>
        [.send message (replyTo services budget message past index), .sleep budget.sleep] := by
  induction count with
  | zero => rfl
  | succ count ih =>
      obtain ⟨refusedBefore, refusedLast⟩ := Nat.forall_lt_succ_right.mp refused
      cases answer : replyTo services budget message past count with
      | accepted => exact absurd answer refusedLast
      | refused reasons =>
          rw [refusedRounds_succ answer, Trace.actions_append, ih refusedBefore,
            List.range_succ, List.flatMap_append, List.flatMap_singleton, answer]
          rfl

theorem actions_lastRound (attempt : Nat) (reply : SendReply) :
    (lastRound message attempt reply).actions = [.send message reply] := by
  cases reply with
  | accepted => rfl
  | refused reasons => rfl

end Rounds

/-! ## The loop and its counter -/

/-- The loop of a delivery from an attempt whose number is a machine word: its outcome, and what it
adds to a run. There is no outcome if the number of the next attempt does not fit. -/
inductive CountedLoop (services : Services) (budget : DeliveryBudget) (message : Message) :
    (attempt : UInt32) → (past : Trace) → Option (Except Failure Unit) → Trace → Prop
  | posted {attempt : UInt32} {past : Trace}
      (accepted : services.send past message = .accepted) :
      CountedLoop services budget message attempt past (some (.ok ()))
        (lastRound message attempt.toNat .accepted)
  | givenUp {attempt : UInt32} {past : Trace} {reasons : List String}
      (refused : services.send past message = .refused reasons)
      (spent : ¬attempt < budget.maxAttempts) :
      CountedLoop services budget message attempt past
        (some (.error (.undelivered message.table.name attempt.toNat (reasonsText reasons))))
        (lastRound message attempt.toNat (.refused reasons))
  | overflowed {attempt : UInt32} {past : Trace} {reasons : List String}
      (refused : services.send past message = .refused reasons)
      (unspent : attempt < budget.maxAttempts) (full : ¬attempt.toNat + 1 < UInt32.size) :
      CountedLoop services budget message attempt past none
        (refusedRound budget message attempt.toNat reasons)
  | retried {attempt : UInt32} {past further : Trace} {reasons : List String}
      {outcome : Option (Except Failure Unit)}
      (refused : services.send past message = .refused reasons)
      (unspent : attempt < budget.maxAttempts) (fits : attempt.toNat + 1 < UInt32.size)
      (following : CountedLoop services budget message (attempt + 1)
        (past ++ refusedRound budget message attempt.toNat reasons) outcome further) :
      CountedLoop services budget message attempt past outcome
        (refusedRound budget message attempt.toNat reasons ++ further)

section Counter

variable {services : Services} {budget : DeliveryBudget} {message : Message} {past : Trace}
variable {attempt : UInt32} {attemptsLeft : Nat}

theorem lt_maxAttempts_iff (begun : 0 < attempt.toNat)
    (counted : attempt.toNat + attemptsLeft = budget.attempts) :
    attempt < budget.maxAttempts ↔ attemptsLeft ≠ 0 := by
  rw [UInt32.lt_iff_toNat_lt]
  unfold DeliveryBudget.attempts at counted
  omega

theorem attempts_lt_size (budget : DeliveryBudget) : budget.attempts < UInt32.size := by
  have bounded := budget.maxAttempts.toNat_lt_size
  unfold DeliveryBudget.attempts
  simp only [UInt32.size] at *
  omega

/-- The loop is a function of what happened before. -/
theorem CountedLoop.unique {outcome outcomeToo : Option (Except Failure Unit)}
    {added addedToo : Trace}
    (loop : CountedLoop services budget message attempt past outcome added)
    (loopToo : CountedLoop services budget message attempt past outcomeToo addedToo) :
    outcomeToo = outcome ∧ addedToo = added := by
  induction loop generalizing addedToo with
  | posted accepted =>
      cases loopToo with
      | posted acceptedToo => exact ⟨rfl, rfl⟩
      | givenUp refused spent => cases accepted.symm.trans refused
      | overflowed refused unspent full => cases accepted.symm.trans refused
      | retried refused unspent fits following => cases accepted.symm.trans refused
  | givenUp refused spent =>
      cases loopToo with
      | posted accepted => cases accepted.symm.trans refused
      | givenUp refusedToo spentToo => cases refused.symm.trans refusedToo; exact ⟨rfl, rfl⟩
      | overflowed refusedToo unspent full => exact absurd unspent spent
      | retried refusedToo unspent fits following => exact absurd unspent spent
  | overflowed refused unspent full =>
      cases loopToo with
      | posted accepted => cases accepted.symm.trans refused
      | givenUp refusedToo spent => exact absurd unspent spent
      | overflowed refusedToo unspentToo fullToo =>
          cases refused.symm.trans refusedToo
          exact ⟨rfl, rfl⟩
      | retried refusedToo unspentToo fits following => exact absurd fits full
  | retried refused unspent fits following ih =>
      cases loopToo with
      | posted accepted => cases accepted.symm.trans refused
      | givenUp refusedToo spent => exact absurd unspent spent
      | overflowed refusedToo unspentToo full => exact absurd fits full
      | retried refusedToo unspentToo fitsToo followingToo =>
          cases refused.symm.trans refusedToo
          obtain ⟨rfl, rfl⟩ := ih followingToo
          exact ⟨rfl, rfl⟩

/-- The loop ends with an outcome, and does what a delivery does with the attempts that are
left. -/
theorem countedLoop_sendFrom (begun : 0 < attempt.toNat)
    (counted : attempt.toNat + attemptsLeft = budget.attempts) :
    CountedLoop services budget message attempt past
      (some (sendFrom services budget message attemptsLeft attempt.toNat past).1)
      (sendFrom services budget message attemptsLeft attempt.toNat past).2 := by
  induction attemptsLeft generalizing attempt past with
  | zero =>
      have spent : ¬attempt < budget.maxAttempts := by simp [lt_maxAttempts_iff begun counted]
      cases answer : services.send past message with
      | accepted =>
          rw [sendFrom_of_accepted _ _ answer]
          exact .posted answer
      | refused reasons =>
          rw [sendFrom_of_spent _ answer]
          exact .givenUp answer spent
  | succ attemptsLeft ih =>
      have unspent : attempt < budget.maxAttempts := by simp [lt_maxAttempts_iff begun counted]
      have fits : attempt.toNat + 1 < UInt32.size := by
        have bounded := attempts_lt_size budget
        omega
      have next : (attempt + 1).toNat = attempt.toNat + 1 := by
        rw [UInt32.toNat_add]
        exact Nat.mod_eq_of_lt fits
      cases answer : services.send past message with
      | accepted =>
          rw [sendFrom_of_accepted _ _ answer]
          exact .posted answer
      | refused reasons =>
          rw [sendFrom_of_refused _ _ answer, ← next]
          exact .retried answer unspent fits (ih (by omega) (by omega))

end Counter

end Delivery

/-! ## Every delivery -/

/-- What a delivery does whose attempts are answered by some replies, when it makes some number of
them. -/
structure DeliversWithin (services : Services) (budget : DeliveryBudget) (message : Message)
    (past : Trace) (reply : Nat → SendReply) (made : Nat) : Prop where
  trace : (deliver services budget message past).2 =
    Delivery.refusedRounds services budget message past (made - 1) ++
      Delivery.lastRound message made (reply (made - 1))
  actions : (deliver services budget message past).2.actions =
    (List.range (made - 1)).flatMap (fun index =>
        [.send message (reply index), .sleep budget.sleep]) ++
      [.send message (reply (made - 1))]
  sends : (deliver services budget message past).2.sends =
    (List.range made).map fun index => (message, reply index)
  sleeps : (deliver services budget message past).2.sleeps =
    List.replicate (made - 1) budget.sleep
  outcome : (deliver services budget message past).1 =
    match reply (made - 1) with
    | .accepted => .ok ()
    | .refused reasons =>
      .error (.undelivered message.table.name budget.attempts (reasonsText reasons))
  counted (outcome : Option (Except Failure Unit)) (added : Trace) :
    Delivery.CountedLoop services budget message 1 past outcome added ↔
      outcome = some (deliver services budget message past).1 ∧
        added = (deliver services budget message past).2

section Deliver

variable (services : Services) (budget : DeliveryBudget) (message : Message) (past : Trace)

theorem deliver_eq_rounds {last : Nat}
    (counted : Delivery.attemptsMade budget.attempts
      (Delivery.replyTo services budget message past) = last + 1) :
    deliver services budget message past =
      (Delivery.outcomeOf message (last + 1) (Delivery.replyTo services budget message past last),
        Delivery.refusedRounds services budget message past last ++
          Delivery.lastRound message (last + 1)
            (Delivery.replyTo services budget message past last)) := by
  have bound : 0 + (budget.attempts - 1) + 1 = budget.attempts := by
    have positive := budget.attempts_pos
    omega
  obtain ⟨added, ran, rounds⟩ := Delivery.sendFrom_after_refusals (budget.attempts - 1) 0
    (fun index before => absurd before (Nat.not_lt_zero index)) (bound.symm ▸ counted)
  rw [Nat.add_sub_cancel] at ran rounds
  rw [← rounds]
  simpa [deliver, Delivery.refusedRounds] using ran

/-- The outcome by the last attempt tells all the attempts of the budget: a delivery that ends with
a refusal has made them all. -/
theorem deliver_outcome {last : Nat}
    (counted : Delivery.attemptsMade budget.attempts
      (Delivery.replyTo services budget message past) = last + 1) :
    (deliver services budget message past).1 =
      Delivery.outcomeOf message budget.attempts
        (Delivery.replyTo services budget message past last) := by
  rw [deliver_eq_rounds services budget message past counted]
  cases answer : Delivery.replyTo services budget message past last with
  | accepted => rfl
  | refused reasons =>
      have used : last + 1 = budget.attempts := by
        rw [← counted]
        refine Delivery.attemptsMade_of_last_refused ?_
        rw [counted, Nat.add_sub_cancel, answer]
        simp
      rw [used]

theorem deliver_actions {last : Nat}
    (counted : Delivery.attemptsMade budget.attempts
      (Delivery.replyTo services budget message past) = last + 1) :
    (deliver services budget message past).2.actions =
      (List.range last).flatMap (fun index =>
          [.send message (Delivery.replyTo services budget message past index),
            .sleep budget.sleep]) ++
        [.send message (Delivery.replyTo services budget message past last)] := by
  have refused : ∀ index < last,
      Delivery.replyTo services budget message past index ≠ .accepted := by
    intro index before
    rw [← Nat.add_lt_add_iff_right, ← counted] at before
    exact Delivery.refused_of_lt_attemptsMade before
  rw [deliver_eq_rounds services budget message past counted, Trace.actions_append,
    Delivery.actions_refusedRounds last refused, Delivery.actions_lastRound]

theorem countedLoop_deliver_iff (outcome : Option (Except Failure Unit)) (added : Trace) :
    Delivery.CountedLoop services budget message 1 past outcome added ↔
      outcome = some (deliver services budget message past).1 ∧
        added = (deliver services budget message past).2 := by
  have one : (1 : UInt32).toNat + (budget.attempts - 1) = budget.attempts :=
    Nat.add_sub_of_le budget.attempts_pos
  have begun : Delivery.CountedLoop services budget message 1 past
      (some (deliver services budget message past).1)
      (deliver services budget message past).2 :=
    Delivery.countedLoop_sendFrom (by decide) one
  constructor
  · intro loop
    exact begun.unique loop
  · rintro ⟨rfl, rfl⟩
    exact begun

end Deliver

/-- A delivery sends its message up to the first attempt that the queue accepts, and as often as
its budget has attempts if there is none. It waits between each two attempts and never after the
last, and succeeds exactly if the last is accepted; else it tells the table, all the attempts of
the budget and the reasons of the last refusal. The loop that counts its attempts in a machine
word ends for every budget, before the word overflows. -/
theorem deliver_within (services : Services) (budget : DeliveryBudget) (message : Message)
    (past : Trace) :
    DeliversWithin services budget message past
      (Delivery.replyTo services budget message past)
      (Delivery.attemptsMade budget.attempts (Delivery.replyTo services budget message past)) := by
  generalize counted : Delivery.attemptsMade budget.attempts
    (Delivery.replyTo services budget message past) = made
  have positive : 0 < made := counted ▸ Delivery.attemptsMade_pos budget.attempts_pos
  obtain ⟨last, rfl⟩ := Nat.exists_eq_add_one.mpr positive
  have actions := deliver_actions services budget message past counted
  refine ⟨?trace, actions, ?sends, ?sleeps, ?outcome,
    countedLoop_deliver_iff services budget message past⟩
  case trace => exact congrArg Prod.snd (deliver_eq_rounds services budget message past counted)
  case sends =>
    rw [← Trace.sends_actions, actions, Trace.sends_append, Trace.isView_sends.flatMap,
      List.range_succ, List.map_append]
    simp [Trace.sends, List.map_eq_flatMap]
  case sleeps =>
    rw [← Trace.sleeps_actions, actions, Trace.sleeps_append, Trace.isView_sleeps.flatMap]
    simp [Trace.sleeps, ← List.map_eq_flatMap, List.map_const']
  case outcome =>
    rw [deliver_outcome services budget message past counted, Nat.add_sub_cancel]
    cases Delivery.replyTo services budget message past last with
    | accepted => rfl
    | refused reasons => rfl

end GranuleRecall
