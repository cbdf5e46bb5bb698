import GranuleRecall.Run.Trace

/-! # Procedures

The services that a run calls, and procedures that call them. A service may answer in any way
that depends on what has happened in the run. A procedure sees what happened before it, adds to
it, and either gives a result or fails; after a failure nothing more happens. -/
set_option autoImplicit false

namespace GranuleRecall

/-- What a run depends on. Each answer may depend on everything that has happened; nothing is
assumed about it. -/
structure Services where
  probe : Trace → (bucket key : String) → ProbeReply
  restore : Trace → RestoreCall → RestoreReply
  send : Trace → Message → SendReply
  clock : Trace → Time.Instant

/-- A procedure: from what happened so far to the outcome and what happens in it. -/
def Procedure (α : Type) : Type :=
  Trace → Except Failure α × Trace

namespace Procedure

def result {α : Type} (value : α) : Procedure α :=
  fun _ => (.ok value, [])

/-- One procedure after another, unless the first fails. -/
def andThen {α β : Type} (first : Procedure α) (next : α → Procedure β) : Procedure β :=
  fun past =>
    match first past with
    | (.error failure, added) => (.error failure, added)
    | (.ok value, added) =>
      let (outcome, further) := next value (past ++ added)
      (outcome, added ++ further)

instance : Monad Procedure where
  pure := result
  bind := andThen

def fail {α : Type} (failure : Failure) : Procedure α :=
  fun _ => (.error failure, [])

def attempt {α : Type} (procedure : Procedure α) : Procedure (Except Failure α) :=
  fun past =>
    let (outcome, added) := procedure past
    (.ok outcome, added)

def tell (record : LogRecord) : Procedure Unit :=
  fun _ => (.ok (), [.log record])

def sleep (duration : Time.Duration) : Procedure Unit :=
  fun _ => (.ok (), [.sleep duration])

/-- What a procedure gives that ends with a value unless something failed. -/
def endedBy {α : Type} (failure : Option Failure) (value : α) : Except Failure α :=
  match failure with
  | some failure => .error failure
  | none => .ok value

/-! ## Laws -/

theorem result_andThen {α β : Type} (value : α) (next : α → Procedure β) :
    andThen (result value) next = next value := by
  funext past
  simp [andThen, result]

theorem andThen_result {α : Type} (first : Procedure α) : andThen first result = first := by
  funext past
  rcases ran : first past with ⟨outcome, added⟩
  cases outcome with
  | error failure => simp [andThen, ran]
  | ok value => simp [andThen, ran, result]

theorem andThen_assoc {α β γ : Type} (first : Procedure α) (second : α → Procedure β)
    (third : β → Procedure γ) :
    andThen (andThen first second) third =
      andThen first fun value => andThen (second value) third := by
  funext past
  rcases ran : first past with ⟨outcome, added⟩
  cases outcome with
  | error failure => simp [andThen, ran]
  | ok value =>
      rcases ranSecond : second value (past ++ added) with ⟨outcomeSecond, addedSecond⟩
      cases outcomeSecond with
      | error failure => simp [andThen, ran, ranSecond]
      | ok valueSecond => simp [andThen, ran, ranSecond]

/-! ## Stepping through a procedure -/

section Stepping

variable {α β : Type} (past : Trace)

@[simp] theorem pure_apply (value : α) : (pure value : Procedure α) past = (.ok value, []) := rfl

@[simp] theorem fail_apply (failure : Failure) :
    (fail failure : Procedure α) past = (.error failure, []) := rfl

@[simp] theorem tell_apply (record : LogRecord) :
    tell record past = (.ok (), [.log record]) := rfl

@[simp] theorem sleep_apply (duration : Time.Duration) :
    sleep duration past = (.ok (), [.sleep duration]) := rfl

@[simp] theorem attempt_apply (procedure : Procedure α) :
    attempt procedure past = (.ok (procedure past).1, (procedure past).2) := rfl

variable {past}

theorem bind_of_ok {first : Procedure α} {value : α} {added : Trace}
    (ran : first past = (.ok value, added)) (next : α → Procedure β) :
    (first >>= next) past =
      ((next value (past ++ added)).1, added ++ (next value (past ++ added)).2) := by
  change andThen first next past = _
  simp only [andThen, ran]

theorem bind_of_error {first : Procedure α} {failure : Failure} {added : Trace}
    (ran : first past = (.error failure, added)) (next : α → Procedure β) :
    (first >>= next) past = (.error failure, added) := by
  change andThen first next past = _
  simp only [andThen, ran]

theorem bind_pure_eq_map {first : Procedure α} {outcome : Except Failure α} {added : Trace}
    (ran : first past = (outcome, added)) (result : α → β) :
    (first >>= fun value => pure (result value)) past = (outcome.map result, added) := by
  cases outcome with
  | error failure => exact bind_of_error ran _
  | ok value =>
      rw [bind_of_ok ran, pure_apply, List.append_nil]
      rfl

/-- What is made of the value of a procedure does not show in the trace. -/
theorem trace_bind_pure (first : Procedure α) (past : Trace) (result : α → β) :
    ((first >>= fun value => pure (result value)) past).2 = (first past).2 := by
  have ran : first past = ((first past).1, (first past).2) := rfl
  rw [bind_pure_eq_map ran]

theorem bind_pure_of_ended {first : Procedure α} {failure : Option Failure} {value : α}
    {added : Trace} (ran : first past = (endedBy failure value, added)) (result : α → β) :
    (first >>= fun value => pure (result value)) past =
      (endedBy failure (result value), added) := by
  rw [bind_pure_eq_map ran]
  cases failure with
  | none => rfl
  | some failure => rfl

end Stepping

end Procedure

namespace Services

def askProbe (services : Services) (bucket key : String) : Procedure ProbeReply :=
  fun past =>
    let reply := services.probe past bucket key
    (.ok reply, [.probe bucket key reply])

def askRestore (services : Services) (call : RestoreCall) : Procedure RestoreReply :=
  fun past =>
    let reply := services.restore past call
    (.ok reply, [.restore call reply])

def askSend (services : Services) (message : Message) : Procedure SendReply :=
  fun past =>
    let reply := services.send past message
    (.ok reply, [.send message reply])

def now (services : Services) : Procedure Time.Instant :=
  fun past => (.ok (services.clock past), [])

@[simp] theorem askProbe_apply (services : Services) (bucket key : String) (past : Trace) :
    services.askProbe bucket key past =
      (.ok (services.probe past bucket key),
        [.probe bucket key (services.probe past bucket key)]) := rfl

@[simp] theorem askRestore_apply (services : Services) (call : RestoreCall) (past : Trace) :
    services.askRestore call past =
      (.ok (services.restore past call), [.restore call (services.restore past call)]) := rfl

@[simp] theorem askSend_apply (services : Services) (message : Message) (past : Trace) :
    services.askSend message past =
      (.ok (services.send past message), [.send message (services.send past message)]) := rfl

@[simp] theorem now_apply (services : Services) (past : Trace) :
    services.now past = (.ok (services.clock past), []) := rfl

end Services

end GranuleRecall
