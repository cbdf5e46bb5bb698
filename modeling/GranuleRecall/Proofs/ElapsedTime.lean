import Mathlib.Algebra.Order.BigOperators.Group.List
import GranuleRecall.Proofs.BoundedDelivery
import GranuleRecall.Proofs.Course.Tasks
import GranuleRecall.Proofs.GatedRestores
import GranuleRecall.Proofs.RunLedger
import GranuleRecall.Run.Rehearsal

/-! # The time of a run is accounted for

On a clock that moves only by the latencies of the services and by waiting, the time of a run is
that of its probes, of its restores, of its sends, of the waits between its passes, and of the waits
between the attempts to send a message. There is a wait after each refusal but the last of a message
that is given up. -/

set_option autoImplicit false

namespace GranuleRecall

/-! ## Clocks -/

namespace Timing

variable (timing : Timing)

theorem elapsed_append (left right : Trace) :
    timing.elapsed (left ++ right) = timing.elapsed left + timing.elapsed right := by
  induction left with
  | nil => exact (Nat.zero_add _).symm
  | cons event left ih =>
      calc timing.cost event + timing.elapsed (left ++ right)
          = timing.cost event + (timing.elapsed left + timing.elapsed right) := congrArg _ ih
        _ = timing.cost event + timing.elapsed left + timing.elapsed right :=
          (Nat.add_assoc _ _ _).symm

/-- The time of a trace by kinds of events. -/
theorem elapsed_eq (trace : Trace) :
    timing.elapsed trace = timing.probe * trace.probes.length +
      timing.restore * trace.restores.length + timing.send * trace.sends.length +
      (trace.sleeps.map timing.wait).sum := by
  induction trace with
  | nil => rfl
  | cons event later ih =>
      have total : timing.elapsed (event :: later) = timing.cost event + timing.elapsed later := rfl
      rw [total, ih]
      cases event <;>
        simp [cost, Trace.probes, Trace.restores, Trace.sends, Trace.sleeps, Nat.mul_add_one] <;>
        omega

end Timing

/-- A clock that moves only by latencies and waits: what it shows is the reading for the time that
has elapsed. -/
def Services.KeepsTime (services : Services) (timing : Timing) (reading : Nat → Time.Instant) :
    Prop :=
  ∀ past, services.clock past = reading (timing.elapsed past)

/-- The clock of a rehearsal is such a clock. -/
theorem Script.keepsTime (script : Script) :
    script.services.KeepsTime script.timing script.start.afterMilliseconds :=
  fun _ => rfl

/-! ## What a ledger accounts for -/

namespace Trace

variable (records : List LogRecord)

theorem probes_logs : probes (records.map Event.log) = [] := by
  simp [probes]

theorem sends_logs : sends (records.map Event.log) = [] := by
  simp [sends]

theorem sleeps_logs : sleeps (records.map Event.log) = [] := by
  simp [sleeps]

variable (call : RestoreCall) (reply : RestoreReply)

theorem probes_request : probes (.restore call reply :: records.map Event.log) = [] :=
  probes_logs records

theorem sends_request : sends (.restore call reply :: records.map Event.log) = [] :=
  sends_logs records

theorem sleeps_request : sleeps (.restore call reply :: records.map Event.log) = [] :=
  sleeps_logs records

end Trace

/-- The refusals among the replies to some sends. -/
def refusals (sends : List (Message × SendReply)) : Nat :=
  sends.countP fun sent => sent.2 ≠ .accepted

/-- The messages, of those published with some replies, that the queue never accepted. -/
def givenUp (publishes : List (Message × List SendReply)) : Nat :=
  publishes.countP fun published => .accepted ∉ published.2

/-- All attempts to send some messages. -/
def allAttempts (publishes : List (Message × List SendReply)) : List (Message × SendReply) :=
  publishes.flatMap fun (message, replies) => replies.map fun reply => (message, reply)

/-- The waits between the attempts to send some messages. -/
def retries (publishes : List (Message × List SendReply)) : Nat :=
  (publishes.map fun published => published.2.length - 1).sum

theorem allAttempts_append (left right : List (Message × List SendReply)) :
    allAttempts (left ++ right) = allAttempts left ++ allAttempts right :=
  List.flatMap_append

theorem allAttempts_singleton (message : Message) (replies : List SendReply) :
    allAttempts [(message, replies)] = replies.map fun reply => (message, reply) :=
  List.flatMap_singleton ..

theorem retries_append (left right : List (Message × List SendReply)) :
    retries (left ++ right) = retries left + retries right := by
  rw [retries, List.map_append, List.sum_append]
  rfl

theorem retries_singleton (message : Message) (replies : List SendReply) :
    retries [(message, replies)] = replies.length - 1 := rfl

namespace Ledger

section

variable {services : Services} {delivery : DeliveryBudget} {plan : RestorePlan} {job : Job}
  {past trace : Trace} {deeds : List Deed}

theorem tries (ledger : Ledger services delivery plan job past deeds trace)
    {message : Message} {replies : List SendReply}
    (published : (message, replies) ∈ Deed.publishes deeds) : Tries delivery replies := by
  obtain ⟨deed, listed, same⟩ := List.mem_filterMap.mp published
  cases deed with
  | publish =>
      cases same
      exact (ledger.published listed).1
  | request => cases same
  | wait => cases same

theorem probes_eq_nil (ledger : Ledger services delivery plan job past deeds trace) :
    trace.probes = [] := by
  induction ledger with
  | start => rfl
  | request before _ _ ih => rw [Trace.probes_append, ih, Trace.probes_request]; rfl
  | publish before _ _ ih => rw [Trace.probes_append, ih, probes_attempts]; rfl
  | wait before ih => rw [Trace.probes_append, ih]; rfl

theorem sends_eq (ledger : Ledger services delivery plan job past deeds trace) :
    trace.sends = allAttempts (Deed.publishes deeds) := by
  induction ledger with
  | start => rfl
  | request before _ _ ih =>
      rw [Trace.sends_append, ih, Trace.sends_request, Deed.publishes_append,
        Deed.publishes_request, List.append_nil, List.append_nil]
  | publish before _ _ ih =>
      rw [Trace.sends_append, ih, sends_attempts, Deed.publishes_append, Deed.publishes_publish,
        allAttempts_append, allAttempts_singleton]
  | wait before ih =>
      rw [Trace.sends_append, ih, Deed.publishes_append, Deed.publishes_wait, List.append_nil]
      exact List.append_nil _

theorem sleeps_perm (ledger : Ledger services delivery plan job past deeds trace) :
    trace.sleeps.Perm (List.replicate (Deed.waits deeds) plan.passes.sleep ++
      List.replicate (retries (Deed.publishes deeds)) delivery.sleep) := by
  induction ledger with
  | start => exact .refl _
  | request before _ _ ih =>
      rw [Trace.sleeps_append, Trace.sleeps_request, List.append_nil,
        Deed.waits_append, Deed.publishes_append, Deed.waits_request, Deed.publishes_request,
        Nat.add_zero, List.append_nil]
      exact ih
  | publish before _ _ ih =>
      rw [Trace.sleeps_append, sleeps_attempts, Deed.waits_append, Deed.publishes_append,
        Deed.waits_publish, Deed.publishes_publish, Nat.add_zero, retries_append,
        retries_singleton, List.replicate_add, ← List.append_assoc]
      exact ih.append_right _
  | wait before ih =>
      rw [Trace.sleeps_append, Deed.waits_append, Deed.publishes_append, Deed.waits_wait,
        Deed.publishes_wait, List.append_nil, List.replicate_succ, List.cons_append]
      -- The wait is the last event, but is counted before the waits between attempts.
      exact (List.perm_append_singleton ..).trans (ih.cons _)

end

/-! ## What refusals tell of waits -/

/-- There is a wait after each refusal but the last of a message that is given up. -/
theorem Tries.refusals_eq {budget : DeliveryBudget} {replies : List SendReply}
    (tries : Tries budget replies) (message : Message) :
    refusals (replies.map fun reply => (message, reply)) =
      replies.length - 1 + if .accepted ∈ replies then 0 else 1 := by
  obtain ⟨earlier, last, rfl, refused⟩ := tries.refused
  have all : earlier.countP (fun reply => reply ≠ .accepted) = earlier.length :=
    List.countP_eq_length.mpr fun reply listed =>
      decide_eq_true fun same => refused (same ▸ listed)
  have shown : refusals ((earlier ++ [last]).map fun reply => (message, reply)) =
      (earlier ++ [last]).countP fun reply => reply ≠ .accepted := List.countP_map ..
  rw [shown, List.countP_append, all, List.length_append, List.length_singleton,
    Nat.add_sub_cancel]
  cases last <;> simp [refused]

theorem refusals_append (left right : List (Message × SendReply)) :
    refusals (left ++ right) = refusals left + refusals right :=
  List.countP_append

theorem refusals_allAttempts {budget : DeliveryBudget}
    {publishes : List (Message × List SendReply)}
    (tried : ∀ published ∈ publishes, Tries budget published.2) :
    refusals (allAttempts publishes) = retries publishes + givenUp publishes := by
  induction publishes with
  | nil => rfl
  | cons published others ih =>
      obtain ⟨message, replies⟩ := published
      have first := Tries.refusals_eq (tried (message, replies) List.mem_cons_self) message
      dsimp only at first
      have later := ih fun other listed => tried other (List.mem_cons_of_mem _ listed)
      have sent : allAttempts ((message, replies) :: others) =
        replies.map (fun reply => (message, reply)) ++ allAttempts others := rfl
      have waited : retries ((message, replies) :: others) =
        replies.length - 1 + retries others := rfl
      have abandoned : givenUp ((message, replies) :: others) =
          givenUp others + if .accepted ∈ replies then 0 else 1 := by
        rw [givenUp, List.countP_cons]
        by_cases listed : SendReply.accepted ∈ replies <;> simp [listed, givenUp]
      rw [sent, refusals_append, first, later, waited, abandoned]
      omega

theorem retries_le {budget : DeliveryBudget} {publishes : List (Message × List SendReply)}
    (tried : ∀ published ∈ publishes, Tries budget published.2) :
    retries publishes ≤ publishes.length * (budget.attempts - 1) := by
  have each : ∀ count ∈ publishes.map fun published => published.2.length - 1,
      count ≤ budget.attempts - 1 := by
    intro count listed
    obtain ⟨published, member, rfl⟩ := List.mem_map.mp listed
    exact Nat.sub_le_sub_right (tried published member).bounded 1
  simpa [retries] using List.sum_le_card_nsmul _ _ each

end Ledger

/-! ## Where messages are published -/

/-- In some trace a message is published when some messages were sent: its delivery makes all the
attempts that have these replies. -/
def IsPublished (services : Services) (budget : DeliveryBudget) (past trace : Trace)
    (earlier : List (Message × SendReply)) (message : Message) (replies : List SendReply) : Prop :=
  ∃ before after outcome, trace = before ++ Ledger.attempts budget message 1 replies ++ after ∧
    before.sends = earlier ∧
    deliver services budget message (past ++ before) =
      (outcome, Ledger.attempts budget message 1 replies)

theorem IsPublished.within {services : Services} {budget : DeliveryBudget}
    {past first trace : Trace} {earlier : List (Message × SendReply)} {message : Message}
    {replies : List SendReply}
    (published : IsPublished services budget (past ++ first) trace earlier message replies)
    (unsent : first.sends = []) (last : Trace) :
    IsPublished services budget past (first ++ trace ++ last) earlier message replies := by
  obtain ⟨before, after, outcome, rfl, sent, delivered⟩ := published
  refine ⟨first ++ before, after ++ last, outcome, ?_, ?_, ?_⟩
  · simp only [List.append_assoc]
  · rw [Trace.sends_append, unsent, sent, List.nil_append]
  · rwa [← List.append_assoc]

namespace Ledger

theorem isPublished {services : Services} {delivery : DeliveryBudget} {plan : RestorePlan}
    {job : Job} {past trace : Trace} {deeds : List Deed}
    (ledger : Ledger services delivery plan job past deeds trace)
    {before after : List (Message × List SendReply)} {message : Message}
    {replies : List SendReply}
    (split : Deed.publishes deeds = before ++ (message, replies) :: after) :
    IsPublished services delivery past trace (allAttempts before) message replies := by
  have later {trace : Trace} (added : Trace)
      (published : IsPublished services delivery past trace (allAttempts before) message replies) :
      IsPublished services delivery past (trace ++ added) (allAttempts before) message replies := by
    have kept : IsPublished services delivery (past ++ []) trace (allAttempts before) message
        replies := by rwa [List.append_nil]
    exact kept.within rfl added
  induction ledger generalizing after with
  | start => cases before <;> cases split
  | request ledger _ _ ih => exact later _ (ih (by simpa using split))
  | @publish deeds trace other othersReplies outcome ledger _ delivered ih =>
      rw [Deed.publishes_append, Deed.publishes_publish] at split
      -- The message is the one that was published last, or an earlier one.
      rcases List.eq_nil_or_concat after with rfl | ⟨after, last, rfl⟩
      · obtain ⟨earlier, here⟩ := List.append_inj' split rfl
        cases here
        exact ⟨trace, [], outcome, (List.append_nil _).symm, earlier ▸ ledger.sends_eq, delivered⟩
      · rw [List.concat_eq_append, ← List.cons_append, ← List.append_assoc] at split
        exact later _ (ih (List.append_inj' split rfl).1)
  | wait ledger ih => exact later _ (ih (by simpa using split))

end Ledger

/-! ## The time of a run -/

/-- How many keys were found. -/
def Trace.keysFound (trace : Trace) : Nat :=
  trace.probes.countP fun probe => probe.2 = .present

namespace Probes

variable (bucket : String) (files : List RequestedFile) (replies : List ProbeReply)

theorem sleeps_events : (events bucket files replies).sleeps = [] :=
  view_events_eq_nil bucket files replies Trace.isView_sleeps fun _ reply => by cases reply <;> rfl

theorem keysFound_events :
    (events bucket files replies).keysFound = (found files replies).length := by
  rw [Trace.keysFound, probes_events, exchanges, found, List.countP_map,
    List.length_filterMap_eq_countP]
  refine List.countP_congr fun entry _ => ?_
  obtain ⟨file, reply⟩ := entry
  cases reply <;> simp

end Probes

/-- The waits between attempts to send: one for each refusal, but not for the last one of a message
that is given up. -/
def deliveryWaits (trace : Trace) (publishes : List (Message × List SendReply)) : Nat :=
  refusals trace.sends - givenUp publishes

/-- The time for the calls of a trace, for the waits between some passes, and for some waits between
attempts to send. -/
def Timing.account (timing : Timing) (settings : Settings) (trace : Trace)
    (passWaits deliveryWaits : Nat) : Nat :=
  timing.probe * trace.probes.length + timing.restore * trace.restores.length +
    timing.send * trace.sends.length + timing.wait settings.passes.sleep * passWaits +
    timing.wait settings.delivery.sleep * deliveryWaits

theorem Timing.elapsed_eq_account (timing : Timing) {settings : Settings} {trace : Trace}
    {passWaits deliveryWaits : Nat}
    (slept : trace.sleeps.Perm (List.replicate passWaits settings.passes.sleep ++
      List.replicate deliveryWaits settings.delivery.sleep)) :
    timing.elapsed trace = timing.account settings trace passWaits deliveryWaits := by
  have waited := (slept.map timing.wait).sum_eq
  rw [List.map_append, List.map_replicate, List.map_replicate, List.sum_append,
    List.sum_replicate_nat, List.sum_replicate_nat] at waited
  rw [timing.elapsed_eq, waited, Timing.account, Nat.mul_comm passWaits,
    Nat.mul_comm deliveryWaits, ← Nat.add_assoc]

namespace Task

/-- A task starts its pass of some number, if only to be interrupted in it. -/
def StartsPass (services : Services) (settings : Settings) (freshId : String) (request : Request)
    (past : Trace) (number : Nat) : Prop :=
  ∃ bucket granule files probed moment, request.bucket = some bucket ∧
    Text.isBlank bucket = false ∧ request.granules = [granule] ∧
    presentFiles services bucket granule.requested past = (.ok files, probed) ∧
    IsMomentOf services settings.delivery
      ⟨bucket, settings.expireDays, settings.tier, settings.passes⟩ (jobIdOf request freshId)
      { granule with results := files } (past ++ probed) moment ∧
    moment.attempt = number

/-- What the time of a run is made of, when it starts so many passes and publishes some messages
with some replies to their attempts. -/
structure AccountsForTime (services : Services) (settings : Settings) (freshId : String)
    (request : Request) (past : Trace) (passes : Nat)
    (publishes : List (Message × List SendReply)) (trace : Trace) : Prop where
  started : ∀ number, StartsPass services settings freshId request past number ↔
    1 ≤ number ∧ number ≤ passes
  sent : trace.sends = allAttempts publishes
  published : ∀ before message replies after, publishes = before ++ (message, replies) :: after →
    Ledger.Tries settings.delivery replies ∧
      IsPublished services settings.delivery past trace (allAttempts before) message replies
  refused : givenUp publishes ≤ refusals trace.sends
  slept : trace.sleeps.Perm (List.replicate (passes - 1) settings.passes.sleep ++
    List.replicate (deliveryWaits trace publishes) settings.delivery.sleep)
  elapsed : ∀ timing : Timing, timing.elapsed trace =
    timing.account settings trace (passes - 1) (deliveryWaits trace publishes)
  clock : ∀ timing reading, services.KeepsTime timing reading →
    services.clock past = reading (timing.elapsed past) ∧
      services.clock (past ++ trace) = reading (timing.elapsed past +
        timing.account settings trace (passes - 1) (deliveryWaits trace publishes))
  passWaits : passes - 1 ≤ settings.passes.maxRetries.toNat
  deliveryWaits : deliveryWaits trace publishes ≤
    (trace.keysFound + 1) * (max settings.delivery.maxAttempts.toNat 1 - 1)

section

variable {services : Services} {settings : Settings} {freshId : String} {request : Request}
  {past trace : Trace} {passes : Nat} {publishes : List (Message × List SendReply)}

theorem StartsPass.le_totalAttempts {number : Nat}
    (starts : StartsPass services settings freshId request past number) :
    number ≤ settings.passes.totalAttempts := by
  obtain ⟨_, _, _, _, moment, _, _, _, _, reached, rfl⟩ := starts
  exact reached.attempt_le

theorem AccountsForTime.of_publishes
    (started : ∀ number, StartsPass services settings freshId request past number ↔
      1 ≤ number ∧ number ≤ passes)
    (sent : trace.sends = allAttempts publishes)
    (published : ∀ before message replies after,
      publishes = before ++ (message, replies) :: after →
      Ledger.Tries settings.delivery replies ∧
        IsPublished services settings.delivery past trace (allAttempts before) message replies)
    (slept : trace.sleeps.Perm (List.replicate (passes - 1) settings.passes.sleep ++
      List.replicate (retries publishes) settings.delivery.sleep))
    (few : publishes.length ≤ trace.keysFound + 1) :
    AccountsForTime services settings freshId request past passes publishes trace := by
  have tried : ∀ published ∈ publishes, Ledger.Tries settings.delivery published.2 := by
    intro publication listed
    obtain ⟨before, after, split⟩ := List.append_of_mem listed
    exact (published before _ _ after split).1
  have refused : refusals trace.sends = retries publishes + givenUp publishes := by
    rw [sent, Ledger.refusals_allAttempts tried]
  have waited : retries publishes = GranuleRecall.deliveryWaits trace publishes := by
    rw [GranuleRecall.deliveryWaits, refused, Nat.add_sub_cancel]
  have bounded := (Ledger.retries_le tried).trans (Nat.mul_le_mul_right _ few)
  rw [waited] at slept bounded
  have elapsed (timing : Timing) := timing.elapsed_eq_account slept
  refine ⟨started, sent, published, by omega, slept, elapsed, ?clock, ?passWaits, bounded⟩
  case clock =>
    intro timing reading kept
    rw [← elapsed timing, ← timing.elapsed_append]
    exact ⟨kept past, kept (past ++ trace)⟩
  case passWaits =>
    rcases Nat.eq_zero_or_pos passes with none | some
    · omega
    · have bound := ((started passes).mpr ⟨some, Nat.le_refl _⟩).le_totalAttempts
      rw [PassBudget.totalAttempts] at bound
      omega

/-- A task that starts no pass neither sends nor waits. -/
theorem AccountsForTime.of_idle
    (unstarted : ∀ number, ¬StartsPass services settings freshId request past number)
    (unsent : trace.sends = []) (unslept : trace.sleeps = []) :
    AccountsForTime services settings freshId request past 0 [] trace := by
  refine .of_publishes ?started unsent ?published (by rw [unslept]; rfl) (Nat.zero_le _)
  case started =>
    intro number
    have unstarted := unstarted number
    constructor
    · exact fun starts => absurd starts unstarted
    · omega
  case published =>
    intro before message replies after split
    cases before <;> cases split

end

section

variable (services : Services) (settings : Settings) (freshId : String) (request : Request)
  (past : Trace)

/-- A task whose files are found starts the passes of requesting their restores. -/
theorem startsPass_iff {bucket : String} {granule : Granule} {files : List FileResult}
    {probed : Trace} (given : request.bucket = some bucket)
    (filled : Text.isBlank bucket = false) (listed : request.granules = [granule])
    (found : presentFiles services bucket granule.requested past = (.ok files, probed))
    (number : Nat) :
    StartsPass services settings freshId request past number ↔
      ∃ moment, IsMomentOf services settings.delivery
        ⟨bucket, settings.expireDays, settings.tier, settings.passes⟩ (jobIdOf request freshId)
        { granule with results := files } (past ++ probed) moment ∧ moment.attempt = number := by
  constructor
  · rintro ⟨bucket', granule', files', probed', moment, given', _, listed', found', reached⟩
    cases given.symm.trans given'
    cases listed.symm.trans listed'
    cases found.symm.trans found'
    exact ⟨moment, reached⟩
  · rintro ⟨moment, reached⟩
    exact ⟨bucket, granule, files, probed, moment, given, filled, listed, found, reached⟩

theorem accountsForTime_of_ledger {bucket : String} {granule begun : Granule}
    {replies : List ProbeReply} {plan : RestorePlan} {probes requested : Trace}
    (given : request.bucket = some bucket) (filled : Text.isBlank bucket = false)
    (listed : request.granules = [granule])
    (replied : replies = Probes.ofServices services bucket past granule.requested)
    (fine : Probes.failure bucket granule.requested replies = none)
    (planned : plan = ⟨bucket, settings.expireDays, settings.tier, settings.passes⟩)
    (found : begun = { granule with results := Probes.found granule.requested replies })
    (asked : probes = Probes.events bucket granule.requested replies)
    (ran : requested = (requestRestores services settings.delivery plan (jobIdOf request freshId)
      begun (past ++ probes)).2) :
    ∃ passes publishes, AccountsForTime services settings freshId request past passes publishes
      (probes ++ requested) := by
  obtain ⟨passes, deeds, trace, kept, begins⟩ := exists_ledger_with_passes services
    settings.delivery plan (jobIdOf request freshId) begun (past ++ probes)
  obtain ⟨closing, closed⟩ : ∃ closing : List LogRecord,
      requested = trace ++ closing.map Event.log := ⟨_, ran.trans kept.closed⟩
  have unsent : probes.sends = [] := asked ▸ Probes.sends_events ..
  have unslept : probes.sleeps = [] := asked ▸ Probes.sleeps_events ..
  have unprobed : requested.probes = [] := by
    rw [closed, Trace.probes_append, kept.ledger.probes_eq_nil, Trace.probes_logs]
    rfl
  have keys : (probes ++ requested).keysFound = begun.results.length := by
    rw [Trace.keysFound, Trace.probes_append, unprobed, List.append_nil, asked, found]
    exact Probes.keysFound_events bucket granule.requested replies
  refine ⟨passes, Deed.publishes deeds, .of_publishes ?started ?sent ?published ?slept ?few⟩
  case started =>
    intro number
    rw [← begins.begun]
    subst planned found asked replied
    have probed := presentFiles_eq services bucket past granule.requested
    rw [fine] at probed
    exact startsPass_iff services settings freshId request past given filled listed probed number
  case sent =>
    rw [closed, Trace.sends_append, Trace.sends_append, unsent, kept.ledger.sends_eq,
      Trace.sends_logs, List.append_nil, List.nil_append]
  case published =>
    intro before message replies after split
    have member : (message, replies) ∈ Deed.publishes deeds := by simp [split]
    refine ⟨kept.ledger.tries member, ?_⟩
    rw [closed, ← List.append_assoc]
    exact (kept.ledger.isPublished split).within unsent _
  case slept =>
    rw [closed, Trace.sleeps_append, Trace.sleeps_append, unslept, Trace.sleeps_logs,
      List.append_nil, List.nil_append, ← begins.waits]
    subst planned
    exact kept.ledger.sleeps_perm
  case few => exact keys ▸ begins.publishes

theorem run_accountsForTime : ∃ passes publishes,
    AccountsForTime services settings freshId request past passes publishes
      (run services settings freshId request past).2 := by
  have stages := run_stages services settings freshId request past
  generalize run services settings freshId request past = ran at stages ⊢
  cases stages with
  | unchecked wrong bare =>
      refine ⟨0, [], .of_idle ?_ rfl rfl⟩
      rintro number ⟨bucket, granule, _, _, _, given, filled, listed, _⟩
      rcases wrong with blank | many
      · rw [given, Option.all_some, filled] at blank
        cases blank
      · exact many (congrArg List.length listed)
  | @unknown bucket granule replies failure given filled listed replied failed =>
      refine ⟨0, [], .of_idle ?_ (Probes.sends_events ..) (Probes.sleeps_events ..)⟩
      rintro number ⟨bucket', granule', _, _, _, given', _, listed', found, _⟩
      cases given.symm.trans given'
      cases listed.symm.trans listed'
      rw [presentFiles_eq, ← replied, failed] at found
      cases found
  | requested given filled listed replied fine planned found asked =>
      subst asked
      exact accountsForTime_of_ledger services settings freshId request past given filled listed
        replied fine planned found rfl rfl

end

end Task

end GranuleRecall
