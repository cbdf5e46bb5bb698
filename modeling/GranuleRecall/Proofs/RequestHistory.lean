import GranuleRecall.Proofs.BudgetComposition
import GranuleRecall.Proofs.Course.History
import GranuleRecall.Proofs.PassStructure

/-! # What a run knows of each file

At every point of a run the entries of the granule are in order and tell what was replied to the
requests for them, and an entry that is accepted stays as it is. The granule that a run gives in the
end, as its result or with a failure, has entries that tell of the whole run, and each that was not
accepted before was requested. -/

set_option autoImplicit false

namespace GranuleRecall

/-! ## Points of a run -/

section

variable (services : Services) (delivery : DeliveryBudget) (plan : RestorePlan) (jobId : String)
  (granule : Granule) (past : Trace)

/-- What was requested, and how the entries stand, after some part of what happens in a run: as they
arrived while nothing was requested, and later as at a moment since which nothing was requested. -/
inductive StandsAt (before : Trace) : List EntryRequest → List FileResult → Prop
  | untouched :
      before <+: (requestRestores services delivery plan jobId granule past).2 →
      before.restores = [] → StandsAt before [] granule.results
  | moment {moment : Moment} :
      before <+: (requestRestores services delivery plan jobId granule past).2 →
      IsMomentOf services delivery plan jobId granule past moment →
      moment.trace <+: past ++ before →
      moment.trace.restores = (past ++ before).restores →
      StandsAt before moment.requests moment.entries

end

section

variable {services : Services} {delivery : DeliveryBudget} {plan : RestorePlan} {jobId : String}
  {granule : Granule} {past before later : Trace} {requests requests' : List EntryRequest}
  {entries entries' : List FileResult}

/-- A moment of a run, and the trace in which the job was announced before it. -/
theorem IsMomentOf.tellsHistory {moment : Moment}
    (reached : IsMomentOf services delivery plan jobId granule past moment) :
    ∃ announced, Trace.restores announced = [] ∧
      moment.TellsHistory plan granule.results (past ++ announced) := by
  obtain ⟨announced, delivered, steps⟩ := reached
  exact ⟨announced, Restores.restores_deliver delivered, Moment.tellsHistory_of_steps steps⟩

theorem IsMomentOf.total {moment other : Moment}
    (reached : IsMomentOf services delivery plan jobId granule past moment)
    (reached' : IsMomentOf services delivery plan jobId granule past other) :
    moment.requests <+: other.requests ∨ other.requests <+: moment.requests := by
  obtain ⟨announced, delivered, steps⟩ := reached
  obtain ⟨announced', delivered', steps'⟩ := reached'
  cases delivered.symm.trans delivered'
  have unique := Moment.step_rightUnique services delivery plan
    (jobAt services plan jobId granule past)
  rcases Relation.ReflTransGen.total_of_right_unique unique steps steps' with forth | back
  · exact .inl (Moment.requests_isPrefix_of_steps forth)
  · exact .inr (Moment.requests_isPrefix_of_steps back)

namespace StandsAt

theorem keepsHistory
    (stands : StandsAt services delivery plan jobId granule past before requests entries) :
    KeepsHistory plan granule.results entries requests ∧
      requests.map EntryRequest.exchange = before.restores := by
  cases stands with
  | untouched _ quiet => exact ⟨.start plan granule.results, quiet.symm⟩
  | moment _ reached _ same =>
      obtain ⟨announced, quiet, told⟩ := reached.tellsHistory
      refine ⟨told.kept, ?_⟩
      have happened := told.restores.symm.trans same
      rw [Trace.restores_append, Trace.restores_append, quiet, List.append_nil] at happened
      exact List.append_cancel_left happened

/-- What was requested up to a point was requested up to each later one. -/
theorem requests_isPrefix
    (stands : StandsAt services delivery plan jobId granule past before requests entries)
    (stands' : StandsAt services delivery plan jobId granule past later requests' entries')
    (earlier : before <+: later) : requests <+: requests' := by
  have fewer : requests.length ≤ requests'.length := by
    obtain ⟨more, rfl⟩ := earlier
    have counted := congrArg List.length stands.keepsHistory.2
    have counted' := congrArg List.length stands'.keepsHistory.2
    rw [Trace.restores_append, List.length_append] at counted'
    rw [List.length_map] at counted counted'
    omega
  have ordered : requests <+: requests' ∨ requests' <+: requests := by
    cases stands with
    | untouched _ _ => exact .inl List.nil_prefix
    | moment _ reached _ _ =>
        cases stands' with
        | untouched _ _ => exact .inr List.nil_prefix
        | moment _ reached' _ _ => exact reached.total reached'
  rcases ordered with forth | back
  · exact forth
  · exact back.eq_of_length_le fewer ▸ List.prefix_rfl

/-- There is one way in which the entries can stand at a point. -/
theorem unique
    (stands : StandsAt services delivery plan jobId granule past before requests entries)
    (stands' : StandsAt services delivery plan jobId granule past before requests' entries') :
    requests = requests' ∧ entries = entries' := by
  have forth := stands.requests_isPrefix stands' List.prefix_rfl
  have back := stands'.requests_isPrefix stands List.prefix_rfl
  have same : requests = requests' := forth.eq_of_length_le back.length_le
  subst same
  exact ⟨rfl, stands.keepsHistory.1.unique stands'.keepsHistory.1⟩

end StandsAt

/-! ## There is no point without -/

/-- While the passes go on, a point belongs to one of their moments. -/
theorem IsMomentOf.exists_standsAt {moment : Moment}
    {outcome : Except Failure (List FileResult)} {added passed : Trace}
    (reached : IsMomentOf services delivery plan jobId granule past moment)
    (ends : moment.Ends services delivery plan (jobAt services plan jobId granule past) outcome
      added)
    (happened : past ++ passed = moment.trace ++ added) (inside : before <+: passed)
    (within : before <+: (requestRestores services delivery plan jobId granule past).2) :
    ∃ requests entries,
      StandsAt services delivery plan jobId granule past before requests entries := by
  obtain ⟨announced, delivered, steps⟩ := reached
  have whole := (Moment.whole_eq_of_steps steps).symm.trans ends.whole_eq
  rw [← happened] at whole
  have begun : past ++ announced <+: past ++ passed := by
    have first := Moment.trace_isPrefix_whole services delivery plan
      (jobAt services plan jobId granule past)
      (Moment.first plan granule.results (past ++ announced))
    rwa [whole] at first
  rcases List.prefix_or_prefix_of_prefix ((List.prefix_append_right_inj past).mpr inside) begun
    with early | late
  · have quiet := Moment.restores_eq_nil_of_isPrefix (Restores.restores_deliver delivered)
      ((List.prefix_append_right_inj past).mp early)
    exact ⟨_, _, .untouched within quiet⟩
  · have inWhole : past ++ before <+: ((Moment.first plan granule.results
        (past ++ announced)).whole services delivery plan
          (jobAt services plan jobId granule past)).2 := by
      rw [whole]
      exact (List.prefix_append_right_inj past).mpr inside
    obtain ⟨here, steps', before', same⟩ := Moment.exists_at_point _ late inWhole
    exact ⟨_, _, .moment within ⟨announced, delivered, steps'⟩ before' same⟩

/-- After the passes the entries stand as at the last moment. -/
theorem IsMomentOf.standsAt_end {moment : Moment}
    {outcome : Except Failure (List FileResult)} {added passed further : Trace}
    (reached : IsMomentOf services delivery plan jobId granule past moment)
    (ends : moment.Ends services delivery plan (jobAt services plan jobId granule past) outcome
      added)
    (happened : past ++ passed = moment.trace ++ added) (quiet : further.restores = [])
    (within : passed ++ further <+:
      (requestRestores services delivery plan jobId granule past).2) :
    StandsAt services delivery plan jobId granule past (passed ++ further) moment.requests
      moment.entries := by
  have ordered : moment.trace <+: past ++ (passed ++ further) := by
    rw [← List.append_assoc, happened, List.append_assoc]
    exact List.prefix_append _ _
  refine .moment within reached ordered ?_
  rw [← List.append_assoc, happened, Trace.restores_append, Trace.restores_append,
    ends.restores_eq_nil, quiet, List.append_nil, List.append_nil]

theorem exists_standsAt
    (within : before <+: (requestRestores services delivery plan jobId granule past).2) :
    ∃ requests entries,
      StandsAt services delivery plan jobId granule past before requests entries := by
  have inRun := within
  cases requestRestores_runEnds services delivery plan jobId granule past with
  | unannounced announced ran =>
      rw [ran] at inRun
      have quiet :=
        Moment.restores_eq_nil_of_isPrefix (Restores.restores_deliver announced) inRun
      exact ⟨_, _, .untouched within quiet⟩
  | broken reached ends happened ran =>
      rw [ran] at inRun
      exact reached.exists_standsAt ends happened inRun within
  | @concluded _ files _ passed further _ reached ends happened concluded ran =>
      rw [ran] at inRun
      rcases List.prefix_or_prefix_of_prefix inRun (List.prefix_append passed further) with
        inside | ⟨part, rfl⟩
      · exact reached.exists_standsAt ends happened inside within
      · have quiet := Restores.restores_conclude services delivery plan
          (jobAt services plan jobId granule past) { granule with results := files }
          (past ++ passed)
        rw [concluded] at quiet
        have unasked := Moment.restores_eq_nil_of_isPrefix quiet
          ((List.prefix_append_right_inj passed).mp inRun)
        exact ⟨_, _, reached.standsAt_end ends happened unasked within⟩

/-! ## The granule in the end -/

theorem Restores.final_of_conclude {job : Job} {final result : Granule} {begun : Trace}
    (given : finalGranule? (conclude services delivery plan job final begun).1 = some result) :
    result = final := by
  rw [conclude_eq services delivery plan job final begun rfl] at given
  cases failed : Notices.failure
      (Notices.ofServices services delivery job begun final.unaccepted) with
  | some failure =>
      have bare := Notices.failure_partialResult failed
      rw [failed] at given
      simp [verdict, finalGranule?, bare] at given
  | none =>
      rw [failed] at given
      cases complete : final.isComplete with
      | true =>
          simp only [verdict, complete, ↓reduceIte, finalGranule?, Option.some.injEq] at given
          exact given.symm
      | false =>
          simp only [verdict, complete, Bool.false_eq_true, ↓reduceIte, finalGranule?,
            Failure.partialResult, Option.map_some, Option.some.injEq] at given
          exact given.symm

/-- When a run gives a granule, its entries stand as after the last pass. -/
theorem exists_standsAt_final {final : Granule}
    (given : finalGranule? (requestRestores services delivery plan jobId granule past).1 =
      some final) :
    { final with results := granule.results } = granule ∧
      ∃ requests,
        StandsAt services delivery plan jobId granule past
            (requestRestores services delivery plan jobId granule past).2 requests
            final.results ∧
          ∀ (position : Nat) (file : FileResult), granule.results[position]? = some file →
            file.accepted = false → repliesTo position requests ≠ [] := by
  cases requestRestores_runEnds services delivery plan jobId granule past with
  | unannounced _ ran =>
      rw [ran] at given
      cases given
  | broken _ ends _ ran =>
      rw [ran] at given
      cases ends <;> cases given
  | @concluded moment files _ passed further _ reached ends happened concluded ran =>
      rw [ran] at given
      obtain rfl : final = { granule with results := files } :=
        Restores.final_of_conclude (by rw [concluded]; exact given)
      have quiet := Restores.restores_conclude services delivery plan
        (jobAt services plan jobId granule past) { granule with results := files }
        (past ++ passed)
      rw [concluded] at quiet
      have all : (requestRestores services delivery plan jobId granule past).2 =
          passed ++ further := congrArg Prod.snd ran
      have stands := reached.standsAt_end ends happened quiet (all ▸ List.prefix_rfl)
      obtain ⟨_, _, told⟩ := reached.tellsHistory
      have sameLength := told.kept.length
      cases ends with
      | finished unreplied last _ _ =>
          rw [Moment.entries_eq_visited unreplied last] at stands sameLength
          refine ⟨rfl, moment.requests, all ▸ stands, fun position file found waits => ?_⟩
          have within := (List.getElem?_eq_some_iff.mp found).1
          refine told.asked found waits (.inl ?_)
          rw [Moment.reached]
          omega

end

/-- What a run knows of its files, at every point and in the end. At each of its moments all that is
still to come depends on the entries as they are then. -/
structure TellsOfRequests (services : Services) (delivery : DeliveryBudget) (plan : RestorePlan)
    (jobId : String) (granule : Granule) (past : Trace) : Prop where
  moments : ∀ moment, IsMomentOf services delivery plan jobId granule past moment →
    ∃ elapsed, moment.trace = past ++ elapsed ∧
      requestRestores services delivery plan jobId granule past =
        ((moment.restOfRun services delivery plan granule
            (jobAt services plan jobId granule past) moment.trace).1,
          elapsed ++ (moment.restOfRun services delivery plan granule
            (jobAt services plan jobId granule past) moment.trace).2)
  points : ∀ before,
    before <+: (requestRestores services delivery plan jobId granule past).2 →
    ∃ requests entries,
      StandsAt services delivery plan jobId granule past before requests entries ∧
        ∀ requests' entries',
          StandsAt services delivery plan jobId granule past before requests' entries' →
          requests = requests' ∧ entries = entries'
  history : ∀ before requests entries,
    StandsAt services delivery plan jobId granule past before requests entries →
    KeepsHistory plan granule.results entries requests ∧
      requests.map EntryRequest.exchange = before.restores
  later : ∀ before later requests requests' entries entries',
    StandsAt services delivery plan jobId granule past before requests entries →
    StandsAt services delivery plan jobId granule past later requests' entries' →
    before <+: later →
    requests <+: requests' ∧
      ∀ (position : Nat) (entry : FileResult), entries[position]? = some entry →
        entry.accepted = true → entries'[position]? = some entry
  final : ∀ final,
    finalGranule? (requestRestores services delivery plan jobId granule past).1 = some final →
    { final with results := granule.results } = granule ∧
      ∃ requests,
        StandsAt services delivery plan jobId granule past
            (requestRestores services delivery plan jobId granule past).2 requests
            final.results ∧
          ∀ (position : Nat) (file : FileResult), granule.results[position]? = some file →
            file.accepted = false → repliesTo position requests ≠ []

theorem requestRestores_tellsOfRequests (services : Services) (delivery : DeliveryBudget)
    (plan : RestorePlan) (jobId : String) (granule : Granule) (past : Trace) :
    TellsOfRequests services delivery plan jobId granule past where
  moments _ reached := reached.resumes
  points before within := by
    obtain ⟨requests, entries, stands⟩ := exists_standsAt within
    exact ⟨requests, entries, stands, fun _ _ stands' => stands.unique stands'⟩
  history _ _ _ stands := stands.keepsHistory
  later before later requests requests' entries entries' stands stands' earlier := by
    have grown := stands.requests_isPrefix stands' earlier
    refine ⟨grown, fun position entry found settled => ?_⟩
    exact stands.keepsHistory.1.stays stands'.keepsHistory.1 grown found settled
  final _ given := exists_standsAt_final given

end GranuleRecall
