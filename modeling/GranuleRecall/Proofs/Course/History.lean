import GranuleRecall.Proofs.Course.Moments

/-! # What entries owe to the requests for them

An entry at any moment is the entry that arrived after the replies to the requests for it so far.
Each of these requests was made while the entry waited, so the first acceptance is the last reply,
and what an entry shows can be read off its replies. -/

set_option autoImplicit false

namespace GranuleRecall

/-! ## One entry and its replies -/

def RestoreReply.rejection? : RestoreReply → Option String
  | accepted => none
  | rejected message => some message
  | unusable _ => none

/-- The message of the last of some replies that is a rejection. -/
def lastRejection? (replies : List RestoreReply) : Option String :=
  (replies.filterMap RestoreReply.rejection?).getLast?

/-- What an entry shows of the replies to the requests for it. One that arrived as accepted is never
requested and never changes. An acceptance is the last reply and leaves no message of a rejection;
until then an entry shows the last rejection, or what it arrived with when there is none. -/
structure FileResult.Reflects (arrived entry : FileResult) (replies : List RestoreReply) :
    Prop where
  requested : entry.requested = arrived.requested
  untouched : arrived.accepted = true → entry = arrived ∧ replies = []
  accepted : arrived.accepted = false → (entry.accepted = true ↔ .accepted ∈ replies)
  last : .accepted ∈ replies →
    ∃ earlier, replies = earlier ++ [.accepted] ∧ .accepted ∉ earlier ∧ entry.rejection = ""
  rejection : .accepted ∉ replies →
    entry.rejection = (lastRejection? replies).getD arrived.rejection

namespace FileResult.Reflects

variable {arrived entry other : FileResult} {replies : List RestoreReply}

theorem start (file : FileResult) : file.Reflects file [] where
  requested := rfl
  untouched _ := ⟨rfl, rfl⟩
  accepted waits := by simp [waits]
  last listed := nomatch listed
  rejection _ := rfl

theorem not_mem_of_waiting (reflects : arrived.Reflects entry replies)
    (waits : entry.accepted = false) : arrived.accepted = false ∧ .accepted ∉ replies := by
  cases settled : arrived.accepted with
  | true =>
      obtain ⟨rfl, _⟩ := reflects.untouched settled
      cases settled.symm.trans waits
  | false =>
      refine ⟨rfl, fun listed => ?_⟩
      have accepted := (reflects.accepted settled).mpr listed
      cases accepted.symm.trans waits

/-- A reply to a request that is made while the entry waits. -/
theorem replied (reflects : arrived.Reflects entry replies) (waits : entry.accepted = false)
    (reply : RestoreReply) :
    arrived.Reflects (Turn.answered entry (some reply)) (replies ++ [reply]) := by
  obtain ⟨unsettled, unlisted⟩ := reflects.not_mem_of_waiting waits
  have requested := (Turn.answered_requested entry (some reply)).trans reflects.requested
  have shown := reflects.rejection unlisted
  cases reply with
  | accepted =>
      exact {
        requested := requested
        untouched := fun settled => nomatch unsettled.symm.trans settled
        accepted := fun _ => by simp [Turn.answered, FileResult.accept]
        last := fun _ => ⟨replies, rfl, unlisted, rfl⟩
        rejection := fun absent => absurd (by simp) absent }
  | rejected message =>
      exact {
        requested := requested
        untouched := fun settled => nomatch unsettled.symm.trans settled
        accepted := fun _ => by simp [Turn.answered, FileResult.reject, waits, unlisted]
        last := fun listed => absurd listed (by simp [unlisted])
        rejection := fun _ => by
          simp [Turn.answered, FileResult.reject, lastRejection?, RestoreReply.rejection?] }
  | unusable message =>
      exact {
        requested := requested
        untouched := fun settled => nomatch unsettled.symm.trans settled
        accepted := fun _ => by simp [Turn.answered, waits, unlisted]
        last := fun listed => absurd listed (by simp [unlisted])
        rejection := fun _ => by
          simpa [Turn.answered, lastRejection?, RestoreReply.rejection?] using shown }

/-- The replies leave no choice of what an entry shows. -/
theorem unique (reflects : arrived.Reflects entry replies)
    (reflects' : arrived.Reflects other replies) : entry = other := by
  cases settled : arrived.accepted with
  | true => rw [(reflects.untouched settled).1, (reflects'.untouched settled).1]
  | false =>
      have requested := reflects.requested.trans reflects'.requested.symm
      have accepted : entry.accepted = other.accepted := by
        rw [Bool.eq_iff_iff, reflects.accepted settled, reflects'.accepted settled]
      have rejection : entry.rejection = other.rejection := by
        by_cases listed : .accepted ∈ replies
        · obtain ⟨_, _, _, empty⟩ := reflects.last listed
          obtain ⟨_, _, _, empty'⟩ := reflects'.last listed
          rw [empty, empty']
        · rw [reflects.rejection listed, reflects'.rejection listed]
      obtain ⟨key, destination⟩ := RequestedFile.mk.inj requested
      cases entry
      cases other
      simp_all

/-- An entry that is accepted has no more replies, and does not change. -/
theorem stays {more : List RestoreReply} (reflects : arrived.Reflects entry replies)
    (settled : entry.accepted = true) (reflects' : arrived.Reflects other (replies ++ more)) :
    other = entry := by
  have same : more = [] := by
    cases arrivedSettled : arrived.accepted with
    | true => exact (List.append_eq_nil_iff.mp (reflects'.untouched arrivedSettled).2).2
    | false =>
        have listed := (reflects.accepted arrivedSettled).mp settled
        obtain ⟨earlier, ended, unlisted, _⟩ := reflects'.last (List.mem_append_left _ listed)
        rcases List.prefix_concat_iff.mp ⟨more, ended⟩ with whole | shorter
        · rw [← whole] at ended
          exact List.append_right_eq_self.mp ended
        · exact absurd (shorter.subset listed) unlisted
  rw [same, List.append_nil] at reflects'
  exact reflects'.unique reflects

end FileResult.Reflects

/-! ## The requests for each entry -/

/-- The replies to those of some requests that are for the entry at a position. -/
def repliesTo (position : Nat) (requests : List EntryRequest) : List RestoreReply :=
  (requests.filter (·.position = position)).map EntryRequest.reply

theorem repliesTo_append (position : Nat) (requests others : List EntryRequest) :
    repliesTo position (requests ++ others) =
      repliesTo position requests ++ repliesTo position others := by
  simp [repliesTo]

theorem repliesTo_singleton_self (request : EntryRequest) :
    repliesTo request.position [request] = [request.reply] := by
  simp [repliesTo]

theorem repliesTo_singleton_of_ne {position : Nat} {request : EntryRequest}
    (elsewhere : request.position ≠ position) : repliesTo position [request] = [] := by
  simp [repliesTo, elsewhere]

/-- Entries at some point of a run, against those that arrived and what was requested since. -/
structure KeepsHistory (plan : RestorePlan) (arrived entries : List FileResult)
    (requests : List EntryRequest) : Prop where
  length : entries.length = arrived.length
  asked : ∀ request ∈ requests,
    ∃ file, arrived[request.position]? = some file ∧ request.call = plan.callFor file
  reflects : ∀ {position : Nat} {file entry : FileResult}, arrived[position]? = some file →
    entries[position]? = some entry → file.Reflects entry (repliesTo position requests)

namespace KeepsHistory

variable {plan : RestorePlan} {arrived entries others : List FileResult}
  {requests later : List EntryRequest}

theorem start (plan : RestorePlan) (arrived : List FileResult) :
    KeepsHistory plan arrived arrived [] where
  length := rfl
  asked _ made := nomatch made
  reflects found same := by
    cases found.symm.trans same
    exact .start _

/-- A request for an entry that waits. -/
theorem requested (kept : KeepsHistory plan arrived entries requests) {position : Nat}
    {entry : FileResult} (found : entries[position]? = some entry)
    (waits : entry.accepted = false) (reply : RestoreReply) :
    KeepsHistory plan arrived
      (entries.set position (Turn.answered entry (some reply)))
      (requests ++ [⟨position, plan.callFor entry, reply⟩]) := by
  have within := (List.getElem?_eq_some_iff.mp found).1
  obtain ⟨file, here⟩ : ∃ file, arrived[position]? = some file :=
    ⟨_, List.getElem?_eq_getElem (kept.length ▸ within)⟩
  have reflects := kept.reflects here found
  refine ⟨?_, ?_, ?_⟩
  · rw [List.length_set, kept.length]
  · intro request made
    rcases List.mem_append.mp made with earlier | now
    · exact kept.asked request earlier
    · rw [List.mem_singleton.mp now]
      have sameKey : entry.key = file.key := congrArg RequestedFile.key reflects.requested
      exact ⟨file, here, by rw [RestorePlan.callFor, RestorePlan.callFor, sameKey]⟩
  · intro place file' entry' found' same
    rw [repliesTo_append]
    by_cases elsewhere : position = place
    · subst elsewhere
      cases here.symm.trans found'
      rw [List.getElem?_set_self within] at same
      cases same
      rw [repliesTo_singleton_self ⟨position, plan.callFor entry, reply⟩]
      exact reflects.replied waits reply
    · rw [List.getElem?_set_ne elsewhere] at same
      rw [repliesTo_singleton_of_ne elsewhere, List.append_nil]
      exact kept.reflects found' same

/-- What was requested decides what the entries are. -/
theorem unique (kept : KeepsHistory plan arrived entries requests)
    (kept' : KeepsHistory plan arrived others requests) : entries = others := by
  refine List.ext_getElem (kept.length.trans kept'.length.symm) fun position within within' => ?_
  have here := List.getElem?_eq_getElem (kept.length ▸ within)
  exact (kept.reflects here (List.getElem?_eq_getElem within)).unique
    (kept'.reflects here (List.getElem?_eq_getElem within'))

/-- An entry that is accepted stays as it is, whatever is requested later. -/
theorem stays (kept : KeepsHistory plan arrived entries requests)
    (kept' : KeepsHistory plan arrived others later) (grown : requests <+: later)
    {position : Nat} {entry : FileResult} (found : entries[position]? = some entry)
    (settled : entry.accepted = true) : others[position]? = some entry := by
  obtain ⟨more, rfl⟩ := grown
  have within := (List.getElem?_eq_some_iff.mp found).1
  have here := List.getElem?_eq_getElem (kept.length ▸ within)
  have within' : position < others.length := by
    rw [kept'.length, ← kept.length]
    exact within
  have there := List.getElem?_eq_getElem within'
  have reflects' := kept'.reflects here there
  rw [repliesTo_append] at reflects'
  rw [there, (kept.reflects here found).stays settled reflects']

end KeepsHistory

/-! ## The history of a moment -/

namespace Moment

section

variable {services : Services} {delivery : DeliveryBudget} {plan : RestorePlan} {job : Job}
  {arrived : List FileResult} {begun : Trace} {moment next : Moment}

theorem Changes.keepsHistory (changes : Changes services plan moment next)
    (kept : KeepsHistory plan arrived moment.entries moment.requests) :
    KeepsHistory plan arrived next.entries next.requests := by
  cases changes with
  | quiet _ _ sameRequests sameEntries =>
      rw [sameRequests, sameEntries]
      exact kept
  | request found waits _ _ grown changed =>
      rw [grown, changed]
      exact kept.requested found waits _

theorem Changes.restores_trace (changes : Changes services plan moment next)
    (told : moment.trace.restores =
      begun.restores ++ moment.requests.map EntryRequest.exchange) :
    next.trace.restores = begun.restores ++ next.requests.map EntryRequest.exchange := by
  cases changes with
  | quiet traced quiet same _ =>
      rw [traced, same, Trace.restores_append, quiet, List.append_nil]
      exact told
  | request _ _ _ traced grown _ =>
      rw [traced, grown, Trace.restores_append, told, List.map_append, List.append_assoc]
      rfl

/-- Every entry that arrived waiting and whose turn has come was requested. -/
def AskedInTurn (arrived : List FileResult) (moment : Moment) : Prop :=
  ∀ {position : Nat} {file : FileResult}, arrived[position]? = some file →
    file.accepted = false → position < moment.reached ∨ 1 < moment.attempt →
    repliesTo position moment.requests ≠ []

theorem Step.askedInTurn (step : Step services delivery plan job moment next)
    (kept : KeepsHistory plan arrived moment.entries moment.requests)
    (asked : moment.AskedInTurn arrived) : next.AskedInTurn arrived := by
  intro position file found waits come
  cases step with
  | @kept entry others unreplied first settled =>
      rcases come with turn | again
      · rcases Nat.lt_or_ge position moment.visited.length with before | here
        · exact asked found waits (.inl (Nat.lt_add_right _ before))
        · -- It is passed over because it is accepted, so it was accepted in this run.
          have place : position = moment.visited.length := by
            simp only [reached, unreplied, List.length_append, List.length_singleton,
              Option.toList_none, List.length_nil] at turn
            omega
          have shown : moment.entries[position]? = some entry := by
            rw [place]
            exact getElem?_entries_of_first unreplied first
          have accepted := ((kept.reflects found shown).accepted waits).mp settled
          exact List.ne_nil_of_mem accepted
      · exact asked found waits (.inr again)
  | @requested entry others reply unreplied first waiting replied =>
      rw [repliesTo_append]
      rcases come with turn | again
      · rcases Nat.lt_or_ge position moment.visited.length with before | here
        · exact List.append_ne_nil_of_left_ne_nil
            (asked found waits (.inl (Nat.lt_add_right _ before))) _
        · have place : moment.visited.length = position := by
            simp only [reached, Option.toList_some, List.length_singleton] at turn
            omega
          rw [← place, repliesTo_singleton_self ⟨moment.visited.length, _, _⟩]
          exact List.append_ne_nil_of_right_ne_nil _ (List.cons_ne_nil _ _)
      · exact List.append_ne_nil_of_left_ne_nil (asked found waits (.inr again)) _
  | @turned entry result reply added replied ran =>
      refine asked found waits (come.imp_left fun turn => ?_)
      simpa [reached, replied] using turn
  | @repeated passesLeft unreplied last counted left waiting =>
      refine asked found waits (.inl ?_)
      have within := (List.getElem?_eq_some_iff.mp found).1
      have all := kept.length
      rw [entries_eq_visited unreplied last] at all
      rw [reached]
      omega

/-- All that was requested, against the entries, at a moment reached from the first one. -/
structure TellsHistory (plan : RestorePlan) (arrived : List FileResult) (begun : Trace)
    (moment : Moment) : Prop where
  kept : KeepsHistory plan arrived moment.entries moment.requests
  restores : moment.trace.restores =
    begun.restores ++ moment.requests.map EntryRequest.exchange
  asked : moment.AskedInTurn arrived

theorem first_tellsHistory (plan : RestorePlan) (arrived : List FileResult) (begun : Trace) :
    (first plan arrived begun).TellsHistory plan arrived begun where
  kept := by
    have all : (first plan arrived begun).entries = arrived := rfl
    rw [all]
    exact .start plan arrived
  restores := (List.append_nil _).symm
  asked _ _ come := by simp [first, reached] at come

theorem tellsHistory_of_steps
    (steps : Relation.ReflTransGen (Step services delivery plan job) (first plan arrived begun)
      moment) : moment.TellsHistory plan arrived begun := by
  induction steps with
  | refl => exact first_tellsHistory plan arrived begun
  | tail _ step ih =>
      exact ⟨step.changes.keepsHistory ih.kept, step.changes.restores_trace ih.restores,
        step.askedInTurn ih.kept ih.asked⟩

end

end Moment

end GranuleRecall
