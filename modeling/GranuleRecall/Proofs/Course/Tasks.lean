import GranuleRecall.Proofs.Course.Steps

/-! # The stages of a task

A task stops at a check of its request, or at a probe that tells nothing, or it goes on to request
the restores of the files that were found. -/

set_option autoImplicit false

namespace GranuleRecall

namespace Task

/-- How a task goes, with its outcome and its trace. -/
inductive Stages (services : Services) (settings : Settings) (freshId : String)
    (request : Request) (past : Trace) : Except Failure Report × Trace → Prop
  | unchecked {failure : Failure}
      (wrong : request.bucket.all Text.isBlank = true ∨ request.granules.length ≠ 1)
      (bare : failure.partialResult = none) :
      Stages services settings freshId request past (.error failure, [])
  | unknown {bucket : String} {granule : Granule} {replies : List ProbeReply} {failure : Failure}
      (given : request.bucket = some bucket) (filled : Text.isBlank bucket = false)
      (listed : request.granules = [granule])
      (replied : replies = Probes.ofServices services bucket past granule.requested)
      (failed : Probes.failure bucket granule.requested replies = some failure) :
      Stages services settings freshId request past
        (.error failure, Probes.events bucket granule.requested replies)
  | requested {bucket : String} {granule begun : Granule} {replies : List ProbeReply}
      {plan : RestorePlan} {probed : Trace}
      (given : request.bucket = some bucket) (filled : Text.isBlank bucket = false)
      (listed : request.granules = [granule])
      (replied : replies = Probes.ofServices services bucket past granule.requested)
      (fine : Probes.failure bucket granule.requested replies = none)
      (planned : plan = ⟨bucket, settings.expireDays, settings.tier, settings.passes⟩)
      (found : begun = { granule with results := Probes.found granule.requested replies })
      (asked : probed = past ++ Probes.events bucket granule.requested replies) :
      Stages services settings freshId request past
        ((requestRestores services settings.delivery plan (jobIdOf request freshId) begun
            probed).1.map fun final => ⟨final, jobIdOf request freshId⟩,
          Probes.events bucket granule.requested replies ++
            (requestRestores services settings.delivery plan (jobIdOf request freshId) begun
              probed).2)

variable (services : Services) (settings : Settings) (freshId : String) (request : Request)
  (past : Trace)

theorem carryOut_stages {bucket : String} {granule : Granule}
    (given : request.bucket = some bucket) (filled : Text.isBlank bucket = false)
    (listed : request.granules = [granule]) :
    Stages services settings freshId request past
      (carryOut services settings bucket granule (jobIdOf request freshId) past) := by
  have probed := presentFiles_eq services bucket past granule.requested
  have requested (plan : RestorePlan) (begun : Granule) (probed : Trace) :=
    Procedure.bind_pure_eq_map (rfl : requestRestores services settings.delivery plan
      (jobIdOf request freshId) begun probed = (_, _)) fun final =>
        (⟨final, jobIdOf request freshId⟩ : Report)
  unfold carryOut
  cases failed : Probes.failure bucket granule.requested
      (Probes.ofServices services bucket past granule.requested) with
  | some failure =>
      rw [failed] at probed
      rw [Procedure.bind_of_error probed]
      exact .unknown given filled listed rfl failed
  | none =>
      rw [failed] at probed
      rw [Procedure.bind_of_ok probed]
      rw [requested]
      exact .requested given filled listed rfl failed rfl rfl rfl

theorem run_stages :
    Stages services settings freshId request past
      (run services settings freshId request past) := by
  unfold run
  cases missing : (Step.bucket request.bucket).failure with
  | some failure =>
      rw [bucketOf_eq_error request missing]
      exact .unchecked (.inl (isBlank_of_failure missing)) (Step.failure_partialResult missing)
  | none =>
      obtain ⟨bucket, given, bucketRead⟩ := bucketOf_eq_ok request missing
      have filled : Text.isBlank bucket = false := by
        simpa [Step.failure, given] using missing
      rw [bucketRead]
      cases wrong : (Step.granules request.granules.length).failure with
      | some failure =>
          rw [granuleOf_eq_error request wrong]
          exact .unchecked (.inr (length_ne_one_of_failure wrong))
            (Step.failure_partialResult wrong)
      | none =>
          obtain ⟨granule, listed, granuleRead⟩ := granuleOf_eq_ok request wrong
          rw [granuleRead]
          exact carryOut_stages services settings freshId request past given filled listed

end Task

end GranuleRecall
