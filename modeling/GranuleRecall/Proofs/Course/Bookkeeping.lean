import GranuleRecall.Proofs.Course.Deeds
import GranuleRecall.Proofs.PassCount

/-! # Every run has a ledger

The deeds of a run are kept moment by moment. An entry that waits was requested once in each pass in
which its turn was over, so the number of the pass is the number of requests for it; this invariant
is why the number that a run tells of a request is the one that its ledger has. -/

set_option autoImplicit false

namespace GranuleRecall

namespace Moment

/-- The request that was just replied to. -/
def pending (plan : RestorePlan) (moment : Moment) : List EntryRequest :=
  moment.replied?.toList.map fun (file, reply) =>
    ⟨moment.visited.length, plan.callFor file, reply⟩

/-- The entries as they are when a reply counts only after the turn. -/
def settled (moment : Moment) : List FileResult :=
  moment.visited ++ moment.replied?.toList.map Prod.fst ++ moment.waiting

/-- A ledger of what happened up to a moment, but for the request that was just replied to. -/
structure KeepsLedger (services : Services) (delivery : DeliveryBudget) (plan : RestorePlan)
    (job : Job) (past : Trace) (moment : Moment) (deeds : List Deed) (trace : Trace) : Prop where
  ledger : Ledger services delivery plan job past deeds trace
  traced : moment.trace = past ++ trace ++
    (moment.pending plan).map fun asked => .restore asked.call asked.reply
  requested : moment.requests = Deed.requests deeds ++ moment.pending plan
  waited : moment.attempt = Deed.waits deeds + 1
  /-- An entry that waits was requested in each pass so far in which its turn is over. -/
  counted : ∀ (position : Nat) (file : FileResult), moment.settled[position]? = some file →
    file.accepted = false → (repliesTo position (Deed.requests deeds)).length =
      if position < moment.visited.length then moment.attempt else moment.attempt - 1
  published : (Deed.publishes deeds).length ≤
    1 + (moment.visited ++ moment.waiting).countP (·.accepted)
  replied : ∀ file reply, moment.replied? = some (file, reply) →
    file.accepted = false ∧ reply = services.restore (past ++ trace) (plan.callFor file)

/-- A ledger of what happened up to the end of the passes in a moment, in which each entry was
published at most once. -/
structure EndsLedger (services : Services) (delivery : DeliveryBudget) (plan : RestorePlan)
    (job : Job) (past : Trace) (moment : Moment) (added : Trace) (deeds : List Deed)
    (trace : Trace) : Prop where
  ledger : Ledger services delivery plan job past deeds trace
  traced : moment.trace ++ added = past ++ trace
  requested : Deed.requests deeds = moment.requests
  waited : moment.attempt = Deed.waits deeds + 1
  published : (Deed.publishes deeds).length ≤ 1 + moment.settled.length

section

variable {services : Services} {delivery : DeliveryBudget} {plan : RestorePlan} {job : Job}
  {past trace : Trace} {deeds : List Deed} {moment next : Moment}

theorem pending_eq_nil (unreplied : moment.replied? = none) : moment.pending plan = [] := by
  rw [pending, unreplied]
  rfl

theorem pending_eq_singleton {file : FileResult} {reply : RestoreReply}
    (replied : moment.replied? = some (file, reply)) :
    moment.pending plan = [⟨moment.visited.length, plan.callFor file, reply⟩] := by
  rw [pending, replied]
  rfl

theorem settled_of_unreplied (unreplied : moment.replied? = none) :
    moment.settled = moment.visited ++ moment.waiting := by
  rw [settled, unreplied, Option.toList_none, List.map_nil, List.append_nil]

theorem settled_of_replied {file : FileResult} {reply : RestoreReply}
    (replied : moment.replied? = some (file, reply)) :
    moment.settled = moment.visited ++ file :: moment.waiting := by
  rw [settled, replied, Option.toList_some, List.map_singleton, List.append_assoc]
  rfl

/-- Between two turns nothing is pending. -/
theorem keepsLedger_of_unreplied (unreplied : moment.replied? = none)
    (ledger : Ledger services delivery plan job past deeds trace)
    (traced : moment.trace = past ++ trace) (requested : moment.requests = Deed.requests deeds)
    (waited : moment.attempt = Deed.waits deeds + 1)
    (counted : ∀ (position : Nat) (file : FileResult),
      (moment.visited ++ moment.waiting)[position]? = some file → file.accepted = false →
      (repliesTo position (Deed.requests deeds)).length =
        if position < moment.visited.length then moment.attempt else moment.attempt - 1)
    (published : (Deed.publishes deeds).length ≤
      1 + (moment.visited ++ moment.waiting).countP (·.accepted)) :
    moment.KeepsLedger services delivery plan job past deeds trace where
  ledger := ledger
  traced := by rw [pending_eq_nil unreplied, List.map_nil, List.append_nil, traced]
  requested := by rw [pending_eq_nil unreplied, List.append_nil, requested]
  waited := waited
  counted := by rwa [settled_of_unreplied unreplied]
  published := published
  replied _ _ replied := nomatch unreplied.symm.trans replied

theorem getElem?_append_cons_of_ne {α : Type} {before after : List α} {value other : α}
    {position : Nat} (elsewhere : position ≠ before.length) :
    (before ++ value :: after)[position]? = (before ++ other :: after)[position]? := by
  rcases Nat.lt_or_gt_of_ne elsewhere with earlier | later
  · rw [List.getElem?_append_left earlier, List.getElem?_append_left earlier]
  · obtain ⟨further, next⟩ := Nat.exists_eq_add_of_lt later
    have place : position - before.length = further + 1 := by omega
    rw [List.getElem?_append_right later.le, List.getElem?_append_right later.le, place]
    rfl

namespace KeepsLedger

section

variable (kept : moment.KeepsLedger services delivery plan job past deeds trace)

include kept

theorem trace_eq (unreplied : moment.replied? = none) : moment.trace = past ++ trace := by
  rw [kept.traced, pending_eq_nil unreplied, List.map_nil, List.append_nil]

theorem requests_eq (unreplied : moment.replied? = none) :
    moment.requests = Deed.requests deeds := by
  rw [kept.requested, pending_eq_nil unreplied, List.append_nil]

/-- The number of the pass is that of the request that was just replied to. -/
theorem counted_replied {file : FileResult} {reply : RestoreReply}
    (replied : moment.replied? = some (file, reply)) :
    moment.attempt = (repliesTo moment.visited.length
      (Deed.requests deeds ++ [⟨moment.visited.length, plan.callFor file, reply⟩])).length := by
  have here : moment.settled[moment.visited.length]? = some file := by
    simp [settled_of_replied replied]
  have earlier := kept.counted _ _ here (kept.replied _ _ replied).1
  have passes := kept.waited
  rw [if_neg (Nat.lt_irrefl _)] at earlier
  rw [repliesTo_append, repliesTo_singleton_self ⟨moment.visited.length, _, _⟩, List.length_append,
    earlier, List.length_singleton]
  omega

/-- The ledger when a turn is over, whether or not it fails. -/
theorem afterReply {file : FileResult} {reply : RestoreReply}
    {outcome : Except Failure FileResult} {added : Trace}
    (replied : moment.replied? = some (file, reply))
    (ran : Restores.afterReply services delivery plan job moment.attempt file reply moment.trace =
      (outcome, added)) :
    ∃ deeds' trace', Ledger services delivery plan job past deeds' trace' ∧
      moment.trace ++ added = past ++ trace' ∧
      Deed.requests deeds' = moment.requests ∧ Deed.waits deeds' = Deed.waits deeds ∧
      (Deed.publishes deeds').length =
        (Deed.publishes deeds).length + if reply = .accepted then 1 else 0 := by
  have traced := kept.traced
  have requested := kept.requested
  rw [pending_eq_singleton replied] at traced requested
  rw [traced] at ran
  obtain ⟨more, ledger, unasked, unwaited, published⟩ := kept.ledger.afterReply
    (kept.replied _ _ replied).2 (kept.counted_replied replied) ran
  refine ⟨_, _, ledger, ?_, ?_, ?_, ?_⟩
  · rw [traced]
    simp only [List.map_singleton, List.append_assoc, List.singleton_append]
  · simp only [requested, Deed.requests_append, Deed.requests_request, unasked, List.append_nil]
  · simp only [Deed.waits_append, Deed.waits_request, unwaited, Nat.add_zero]
  · simp only [Deed.publishes_append, Deed.publishes_request, List.append_nil, List.length_append,
      published]

end

theorem visit (kept : moment.KeepsLedger services delivery plan job past deeds trace)
    {file : FileResult} {others : List FileResult} (unreplied : moment.replied? = none)
    (first : moment.waiting = file :: others) (accepted : file.accepted = true) :
    KeepsLedger services delivery plan job past
      { moment with visited := moment.visited ++ [file], waiting := others } deeds trace := by
  refine keepsLedger_of_unreplied unreplied kept.ledger (kept.trace_eq unreplied)
    (kept.requests_eq unreplied) kept.waited ?counted ?published
  case counted =>
    intro position other found waits
    have before := kept.counted position other (by
      rw [settled_of_unreplied unreplied, first]
      simpa using found) waits
    have elsewhere : position ≠ moment.visited.length := by
      rintro rfl
      simp at found
      cases found
      cases accepted.symm.trans waits
    rw [before, List.length_append, List.length_singleton]
    by_cases earlier : position < moment.visited.length
    · rw [if_pos earlier, if_pos (by omega)]
    · rw [if_neg earlier, if_neg (by omega)]
  case published =>
    have bounded := kept.published
    rw [first] at bounded
    simpa using bounded

theorem ask (kept : moment.KeepsLedger services delivery plan job past deeds trace)
    {file : FileResult} {others : List FileResult} {reply : RestoreReply}
    (unreplied : moment.replied? = none) (first : moment.waiting = file :: others)
    (waits : file.accepted = false)
    (replied : reply = services.restore moment.trace (plan.callFor file)) :
    KeepsLedger services delivery plan job past
      { moment with
        replied? := some (file, reply)
        waiting := others
        requests := moment.requests ++ [⟨moment.visited.length, plan.callFor file, reply⟩]
        trace := moment.trace ++ [.restore (plan.callFor file) reply] } deeds trace where
  ledger := kept.ledger
  traced := by
    rw [pending_eq_singleton rfl, kept.trace_eq unreplied]
    rfl
  requested := by
    rw [pending_eq_singleton rfl, kept.requests_eq unreplied]
  waited := kept.waited
  counted := by
    rw [settled_of_replied rfl, ← first, ← settled_of_unreplied unreplied]
    exact kept.counted
  published := by
    have bounded := kept.published
    rw [first] at bounded
    simpa [waits] using bounded
  replied := by
    rintro _ _ ⟨⟩
    exact ⟨waits, by rw [replied, kept.trace_eq unreplied]⟩

theorem turn (kept : moment.KeepsLedger services delivery plan job past deeds trace)
    {file result : FileResult} {reply : RestoreReply} {added : Trace}
    (replied : moment.replied? = some (file, reply))
    (ran : Restores.afterReply services delivery plan job moment.attempt file reply moment.trace =
      (.ok result, added)) :
    ∃ deeds' trace', KeepsLedger services delivery plan job past
      { moment with
        visited := moment.visited ++ [result]
        replied? := none
        trace := moment.trace ++ added } deeds' trace' := by
  obtain ⟨deeds', trace', ledger, traced, requested, waited, published⟩ :=
    kept.afterReply replied ran
  have bounded := kept.published
  obtain ⟨rfl, -⟩ := Restores.answered_of_afterReply ran
  refine ⟨deeds', trace', keepsLedger_of_unreplied rfl ledger traced requested.symm
    (waited ▸ kept.waited) ?counted ?published⟩
  case counted =>
    intro position other found waits
    have asked : Deed.requests deeds' =
        Deed.requests deeds ++ [⟨moment.visited.length, plan.callFor file, reply⟩] := by
      rw [requested, kept.requested, pending_eq_singleton replied]
    rw [asked, List.length_append, List.length_singleton]
    -- The request counts for the entry whose turn it was, and for no other.
    by_cases here : position = moment.visited.length
    · rw [here, ← kept.counted_replied replied, if_pos (Nat.lt_succ_self _)]
    · have same : moment.settled[position]? = some other := by
        rw [settled_of_replied replied, getElem?_append_cons_of_ne here]
        simpa using found
      rw [repliesTo_append, repliesTo_singleton_of_ne (Ne.symm here), List.append_nil,
        kept.counted position other same waits]
      by_cases earlier : position < moment.visited.length
      · rw [if_pos earlier, if_pos (by omega)]
      · rw [if_neg earlier, if_neg (by omega)]
  case published =>
    rw [published]
    have counted : (if reply = .accepted then 1 else 0) ≤
        if (Turn.answered file (some reply)).accepted then 1 else 0 := by
      cases reply with
      | accepted => exact Nat.le_refl 1
      | rejected message => exact Nat.zero_le _
      | unusable message => exact Nat.zero_le _
    simp only [List.countP_append, List.countP_singleton] at bounded ⊢
    omega

theorem again (kept : moment.KeepsLedger services delivery plan job past deeds trace)
    (passesLeft : Nat) (unreplied : moment.replied? = none) (last : moment.waiting = []) :
    KeepsLedger services delivery plan job past
      { moment with
        passesLeft := passesLeft
        attempt := moment.attempt + 1
        visited := []
        waiting := moment.visited
        trace := moment.trace ++ [.sleep plan.passes.sleep] }
      (deeds ++ [.wait]) (trace ++ [.sleep plan.passes.sleep]) := by
  refine keepsLedger_of_unreplied unreplied kept.ledger.wait ?_ ?_ ?_ ?counted ?published
  · rw [kept.trace_eq unreplied, List.append_assoc]
  · simpa using kept.requests_eq unreplied
  · simpa using kept.waited
  case counted =>
    intro position file found waits
    have within := (List.getElem?_eq_some_iff.mp found).1
    have before := kept.counted position file (by
      rw [settled_of_unreplied unreplied, last]
      simpa using found) waits
    rw [if_pos (by simpa using within)] at before
    simpa using before
  case published =>
    have bounded := kept.published
    rw [last] at bounded
    simpa using bounded

end KeepsLedger

theorem Step.keepsLedger (step : Step services delivery plan job moment next)
    (kept : moment.KeepsLedger services delivery plan job past deeds trace) :
    ∃ deeds' trace', next.KeepsLedger services delivery plan job past deeds' trace' := by
  cases step with
  | kept unreplied first accepted => exact ⟨deeds, trace, kept.visit unreplied first accepted⟩
  | requested unreplied first waits replied =>
      exact ⟨deeds, trace, kept.ask unreplied first waits replied⟩
  | turned replied ran => exact kept.turn replied ran
  | repeated unreplied last counted left waits => exact ⟨_, _, kept.again _ unreplied last⟩

namespace KeepsLedger

/-- The ledger when a turn fails. -/
theorem failed (kept : moment.KeepsLedger services delivery plan job past deeds trace)
    {file : FileResult} {reply : RestoreReply} {failure : Failure} {added : Trace}
    (replied : moment.replied? = some (file, reply))
    (ran : Restores.afterReply services delivery plan job moment.attempt file reply moment.trace =
      (.error failure, added)) :
    ∃ deeds' trace', moment.EndsLedger services delivery plan job past added deeds' trace' := by
  obtain ⟨deeds', trace', ledger, traced, requested, waited, published⟩ :=
    kept.afterReply replied ran
  refine ⟨deeds', trace', ledger, traced, requested, waited ▸ kept.waited, ?_⟩
  have bounded := kept.published
  have fewer := List.countP_le_length (p := (·.accepted)) (l := moment.visited ++ moment.waiting)
  have one : (if reply = .accepted then 1 else 0) ≤ 1 := by split <;> omega
  rw [published, settled_of_replied replied]
  rw [List.length_append] at fewer
  rw [List.length_append, List.length_cons]
  omega

/-- The ledger when a pass is over and no other follows. -/
theorem passed (kept : moment.KeepsLedger services delivery plan job past deeds trace)
    (unreplied : moment.replied? = none) :
    moment.EndsLedger services delivery plan job past [] deeds trace where
  ledger := kept.ledger
  traced := by rw [List.append_nil, kept.trace_eq unreplied]
  requested := (kept.requests_eq unreplied).symm
  waited := kept.waited
  published := by
    rw [settled_of_unreplied unreplied]
    exact kept.published.trans (Nat.add_le_add_left List.countP_le_length 1)

/-- The ledger when the passes are over. If they did not fail, only entries that are accepted were
published. -/
theorem ended (kept : moment.KeepsLedger services delivery plan job past deeds trace)
    {outcome : Except Failure (List FileResult)} {added : Trace}
    (ends : moment.Ends services delivery plan job outcome added) :
    ∃ deeds' trace', moment.EndsLedger services delivery plan job past added deeds' trace' ∧
      ∀ files, outcome = .ok files → files = moment.settled ∧
        (Deed.publishes deeds').length ≤ 1 + files.countP (·.accepted) := by
  cases ends with
  | undelivered replied ran _ =>
      obtain ⟨deeds', trace', broken⟩ := kept.failed replied ran
      exact ⟨deeds', trace', broken, nofun⟩
  | unusable replied ran _ =>
      obtain ⟨deeds', trace', broken⟩ := kept.failed replied ran
      exact ⟨deeds', trace', broken, nofun⟩
  | uncounted unreplied last _ => exact ⟨deeds, trace, kept.passed unreplied, nofun⟩
  | finished unreplied last _ _ =>
      refine ⟨deeds, trace, kept.passed unreplied, ?_⟩
      rintro _ ⟨⟩
      have bounded := kept.published
      rw [last, List.append_nil] at bounded
      rw [settled_of_unreplied unreplied, last, List.append_nil]
      exact ⟨rfl, bounded⟩

end KeepsLedger

theorem keepsLedger_of_steps {arrived : List FileResult}
    (ledger : Ledger services delivery plan job past deeds trace)
    (unasked : Deed.requests deeds = []) (unwaited : Deed.waits deeds = 0)
    (published : (Deed.publishes deeds).length ≤ 1)
    (steps : Relation.ReflTransGen (Step services delivery plan job)
      (first plan arrived (past ++ trace)) moment) :
    ∃ deeds' trace', moment.KeepsLedger services delivery plan job past deeds' trace' := by
  induction steps with
  | refl =>
      refine ⟨deeds, trace, keepsLedger_of_unreplied rfl ledger rfl unasked.symm ?_ ?_ ?_⟩
      · rw [unwaited]
        rfl
      · intro position file _ _
        rw [unasked]
        rfl
      · exact published.trans (Nat.le_add_right 1 _)
  | tail _ step ih =>
      obtain ⟨deeds', trace', kept⟩ := ih
      exact step.keepsLedger kept

end

end Moment

end GranuleRecall
