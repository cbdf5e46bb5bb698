import GranuleRecall.Proofs.WrittenForm.Numerals
import GranuleRecall.Settings.Basic

/-! # Settings are resolved exactly

Which named values give settings, which settings these are, and which failure any other values
give: that of the first value, in the order of reading, that cannot be used. This is so whatever
passes for a URL. -/

set_option autoImplicit false

namespace GranuleRecall

namespace Text

/-- A text between white space, itself without any at its ends. -/
structure IsCore (core given : List Char) : Prop where
  framed : ∃ before after, given = before ++ core ++ after ∧
    (∀ character ∈ before, isWhiteSpace character = true) ∧
    ∀ character ∈ after, isWhiteSpace character = true
  begins : ∀ first ∈ core.head?, isWhiteSpace first = false
  ends : ∀ last ∈ core.getLast?, isWhiteSpace last = false

private theorem begins_dropWhile (text : List Char) :
    ∀ first ∈ (text.dropWhile isWhiteSpace).head?, isWhiteSpace first = false := by
  intro first begins
  have other := List.head?_dropWhile_not isWhiteSpace text
  rw [Option.mem_def.mp begins] at other
  exact other

private theorem dropWhile_append_core {blank core : List Char}
    (blanks : ∀ character ∈ blank, isWhiteSpace character = true)
    (begins : ∀ first ∈ core.head?, isWhiteSpace first = false) :
    (blank ++ core).dropWhile isWhiteSpace = core := by
  rw [List.dropWhile_append_of_pos blanks]
  cases core with
  | nil => rfl
  | cons first remaining => rw [List.dropWhile_cons_of_neg (by simp [begins first rfl])]

theorem isCore_trimmed (given : List Char) : IsCore (trimmed given) given := by
  have blank (text : List Char) : ∀ character ∈ text.takeWhile isWhiteSpace,
      isWhiteSpace character = true :=
    List.all_eq_true.mp List.all_takeWhile
  have kept : given.dropWhile isWhiteSpace = trimmed given ++
      ((given.dropWhile isWhiteSpace).reverse.takeWhile isWhiteSpace).reverse := by
    rw [trimmed, ← List.reverse_append, List.takeWhile_append_dropWhile, List.reverse_reverse]
  constructor
  case framed =>
    refine ⟨given.takeWhile isWhiteSpace,
      ((given.dropWhile isWhiteSpace).reverse.takeWhile isWhiteSpace).reverse, ?_, blank given, ?_⟩
    · rw [List.append_assoc, ← kept, List.takeWhile_append_dropWhile]
    · exact fun character last => blank _ character (List.mem_reverse.mp last)
  case begins =>
    intro first begins
    refine begins_dropWhile given first ?_
    rw [kept, List.head?_append, Option.mem_def.mp begins]
    rfl
  case ends =>
    rw [trimmed, List.getLast?_reverse]
    exact begins_dropWhile _

theorem IsCore.eq_trimmed {core given : List Char} (isCore : IsCore core given)
    (written : core ≠ []) : core = trimmed given := by
  obtain ⟨before, after, rfl, blank, blank'⟩ := isCore.framed
  have begins : ∀ first ∈ (core ++ after).head?, isWhiteSpace first = false := by
    rw [List.head?_append, List.head?_eq_some_head written]
    intro first here
    exact isCore.begins first (by rw [List.head?_eq_some_head written]; exact here)
  rw [trimmed, List.append_assoc, dropWhile_append_core blank begins, List.reverse_append,
    dropWhile_append_core (by simpa using blank') (by simpa using isCore.ends),
    List.reverse_reverse]

end Text

namespace Tier

theorem ofName?_eq_some_iff {name : String} {tier : Tier} :
    ofName? name = some tier ↔ name = tier.name := by
  constructor
  · intro known
    unfold ofName? at known
    split at known
    next standard =>
      cases known
      exact standard
    next =>
      split at known
      next bulk =>
        cases known
        exact bulk
      next =>
        split at known
        next expedited =>
          cases known
          exact expedited
        next => cases known
  · rintro rfl
    exact ofName?_name tier

theorem ofName?_eq_none_iff {name : String} :
    ofName? name = none ↔ ∀ tier : Tier, name ≠ tier.name := by
  simp only [Option.eq_none_iff_forall_ne_some, ne_eq, ofName?_eq_some_iff]

end Tier

namespace Settings

open Decimal

/-! ## Values -/

theorem value?_eq_some_iff {lookup : Lookup} {name text : String} :
    value? lookup name = some text ↔ text.toList ≠ [] ∧
      ∃ given, lookup name = some given ∧ Text.IsCore text.toList given.toList := by
  unfold value?
  cases found : lookup name with
  | none => simp
  | some given =>
      have trim : (Text.trim given).toList = Text.trimmed given.toList := String.toList_ofList
      simp only [Option.ite_none_left_eq_some, Option.some.injEq, exists_eq_left']
      constructor
      · rintro ⟨written, rfl⟩
        refine ⟨by simpa using written, ?_⟩
        rw [trim]
        exact Text.isCore_trimmed given.toList
      · rintro ⟨written, isCore⟩
        have same : Text.trim given = text := by
          rw [← String.toList_inj, trim, ← isCore.eq_trimmed written]
        exact ⟨by simpa [same] using written, same⟩

/-- The kinds of values that are checked. -/
inductive Kind
  | days
  | count
  | seconds
  | address

/-- A number of days is an integer in 32 bits, and at least one. -/
structure TellsDays (text : String) (days : Int) : Prop where
  integer : IsInteger text.toList days
  positive : 1 ≤ days
  bounded : days ≤ 2147483647

def TellsCount (text : String) (count : UInt32) : Prop :=
  IsNatural text.toList count.toNat

structure TellsSeconds (text : String) (duration : Time.Duration) : Prop where
  usable : ∃ seconds, readBinary64? text.toList = some seconds ∧ seconds ≠ .notANumber ∧
    seconds.isBelowZero = false ∧ Time.Duration.ofSeconds? seconds = some duration

/-- The tier of this name, and the standard one for any other text. -/
def TellsTier (text : String) (tier : Tier) : Prop :=
  text = tier.name ∨ tier = .standard ∧ ∀ named : Tier, text ≠ named.name

def Kind.IsUsable (checkUrl : UrlCheck) : Kind → String → Prop
  | .days, text => ∃ days, TellsDays text days
  | .count, text => ∃ count, TellsCount text count
  | .seconds, text => ∃ duration, TellsSeconds text duration
  | .address, text => checkUrl text = .ok ()

/-- What is said about a value that cannot be used. -/
inductive Kind.Complains (checkUrl : UrlCheck) (name : String) :
    Kind → Option String → Failure → Prop
  | noInteger {text : String} {fault : IntegerFault}
      (shows : SignedFault (2 ^ 31 - 1) text.toList fault) :
      Complains checkUrl name .days (some text) (invalidValue name text fault.message)
  | tooFewDays {text : String} {days : Int} (read : IsInteger text.toList days)
      (tooFew : days < 1) :
      Complains checkUrl name .days (some text)
        (.configuration s!"{name} must be at least 1, got {days}")
  | noCount {text : String} {fault : IntegerFault}
      (shows : NaturalFault (2 ^ 32 - 1) text.toList fault) :
      Complains checkUrl name .count (some text) (invalidValue name text fault.message)
  | noSeconds {text : String} (unread : readBinary64? text.toList = none) :
      Complains checkUrl name .seconds (some text) (invalidValue name text invalidBinary64Message)
  | belowZero {text : String} {seconds : Binary64}
      (read : readBinary64? text.toList = some seconds) (below : seconds.isBelowZero = true) :
      Complains checkUrl name .seconds (some text)
        (.configuration
          s!"{name} must be a non-negative number of seconds, got {plainText seconds}")
  | noDuration {text : String} {seconds : Binary64}
      (read : readBinary64? text.toList = some seconds) (above : seconds.isBelowZero = false)
      (unusable : Time.Duration.ofSeconds? seconds = none) :
      Complains checkUrl name .seconds (some text)
        (.configuration (s!"{name} is not a usable number of seconds ({plainText seconds}): " ++
          Time.Duration.unusableMessage))
  | noValue : Complains checkUrl name .address none (.configuration s!"{name} must be set")
  | noAddress {text fault : String} (wrong : checkUrl text = .error fault) :
      Complains checkUrl name .address (some text)
        (.configuration s!"{name} is not a valid URL ({text}): {fault}")

/-- The parameters whose values are checked. -/
inductive Parameter
  | expireDays
  | maxRetries
  | retrySleep
  | queueUrl
  | maxAttempts
  | deliverySleep

namespace Parameter

/-- The parameters that are read before the tier, in this order. -/
def beforeTier : List Parameter :=
  [.expireDays, .maxRetries, .retrySleep]

/-- The parameters in the order in which they are read. -/
def inOrder : List Parameter :=
  beforeTier ++ [.queueUrl, .maxAttempts, .deliverySleep]

def name : Parameter → String
  | .expireDays => "RESTORE_EXPIRE_DAYS"
  | .maxRetries => "RESTORE_REQUEST_RETRIES"
  | .retrySleep => "RESTORE_RETRY_SLEEP_SECS"
  | .queueUrl => "DB_QUEUE_URL"
  | .maxAttempts => "DB_QUEUE_MAX_ATTEMPTS"
  | .deliverySleep => "DB_QUEUE_RETRY_SLEEP_SECS"

def kind : Parameter → Kind
  | .expireDays => .days
  | .maxRetries | .maxAttempts => .count
  | .retrySleep | .deliverySleep => .seconds
  | .queueUrl => .address

/-- Only the address of the queue has to be given. -/
def IsUsable (checkUrl : UrlCheck) (lookup : Lookup) (parameter : Parameter) : Prop :=
  match value? lookup parameter.name with
  | none => parameter ≠ .queueUrl
  | some text => parameter.kind.IsUsable checkUrl text

def Complains (checkUrl : UrlCheck) (lookup : Lookup) (parameter : Parameter) (failure : Failure) :
    Prop :=
  parameter.kind.Complains checkUrl parameter.name (value? lookup parameter.name) failure

end Parameter

/-- What a value tells, or what stands in for a value that is not given. -/
inductive Settles {α : Type} (tells : String → α → Prop) (otherwise : α) : Option String → α → Prop
  | unset : Settles tells otherwise none otherwise
  | told {text : String} {value : α} (told : tells text value) :
      Settles tells otherwise (some text) value

/-- The settings for values that can be used. -/
structure Follows (lookup : Lookup) (settings : Settings) : Prop where
  expireDays : Settles TellsDays 5 (value? lookup "RESTORE_EXPIRE_DAYS") settings.expireDays
  maxRetries :
    Settles TellsCount 2 (value? lookup "RESTORE_REQUEST_RETRIES") settings.passes.maxRetries
  retrySleep :
    Settles TellsSeconds ⟨0⟩ (value? lookup "RESTORE_RETRY_SLEEP_SECS") settings.passes.sleep
  tier : Settles TellsTier .standard (value? lookup "RESTORE_RETRIEVAL_TYPE") settings.tier
  queueUrl : value? lookup "DB_QUEUE_URL" = some settings.queueUrl
  maxAttempts : ∃ attempts, settings.delivery.maxAttempts.toNat = max attempts.toNat 1 ∧
    Settles TellsCount settings.passes.maxRetries (value? lookup "DB_QUEUE_MAX_ATTEMPTS") attempts
  deliverySleep : Settles TellsSeconds settings.passes.sleep
    (value? lookup "DB_QUEUE_RETRY_SLEEP_SECS") settings.delivery.sleep
  endpointUrl : settings.endpointUrl = value? lookup "AWS_ENDPOINT_URL"
  region : settings.region = value? lookup "AWS_REGION"

/-! ## Values decide the settings -/

theorem TellsDays.unique {text : String} {days days' : Int} (told : TellsDays text days)
    (told' : TellsDays text days') : days = days' :=
  told.integer.unique told'.integer

theorem TellsCount.unique {text : String} {count count' : UInt32} (told : TellsCount text count)
    (told' : TellsCount text count') : count = count' :=
  UInt32.toNat_inj.mp (IsNatural.unique told told')

theorem TellsSeconds.unique {text : String} {duration duration' : Time.Duration}
    (told : TellsSeconds text duration) (told' : TellsSeconds text duration') :
    duration = duration' := by
  obtain ⟨seconds, read, -, -, spanned⟩ := told
  obtain ⟨_, read', -, -, spanned'⟩ := told'
  cases read.symm.trans read'
  exact Option.some.inj (spanned.symm.trans spanned')

theorem TellsTier.unique {text : String} {tier tier' : Tier} (told : TellsTier text tier)
    (told' : TellsTier text tier') : tier = tier' := by
  rcases told with rfl | ⟨rfl, unknown⟩
  · rcases told' with same | ⟨-, unknown⟩
    · have known := Tier.ofName?_name tier
      rw [same, Tier.ofName?_name] at known
      exact (Option.some.inj known).symm
    · exact absurd rfl (unknown tier)
  · rcases told' with rfl | ⟨rfl, -⟩
    · exact absurd rfl (unknown tier')
    · rfl

theorem Settles.unique {α : Type} {tells : String → α → Prop} {otherwise value value' : α}
    {given : Option String} (settles : Settles tells otherwise given value)
    (tellsOne : ∀ {text value value'}, tells text value → tells text value' → value = value')
    (settles' : Settles tells otherwise given value') : value = value' := by
  cases settles with
  | unset =>
      cases settles'
      rfl
  | told told =>
      cases settles' with
      | told told' => exact tellsOne told told'

theorem Follows.unique {lookup : Lookup} {settings settings' : Settings}
    (follows : Follows lookup settings) (follows' : Follows lookup settings') :
    settings = settings' := by
  obtain ⟨expireDays, ⟨maxRetries, retrySleep⟩, tier, url, ⟨maxAttempts, sleep⟩, endpoint,
    region⟩ := settings
  obtain ⟨expireDays', ⟨maxRetries', retrySleep'⟩, tier', url', ⟨maxAttempts', sleep'⟩, endpoint',
    region'⟩ := settings'
  cases follows.expireDays.unique TellsDays.unique follows'.expireDays
  cases follows.maxRetries.unique TellsCount.unique follows'.maxRetries
  cases follows.retrySleep.unique TellsSeconds.unique follows'.retrySleep
  cases follows.tier.unique TellsTier.unique follows'.tier
  cases follows.queueUrl.symm.trans follows'.queueUrl
  cases follows.deliverySleep.unique TellsSeconds.unique follows'.deliverySleep
  cases follows.endpointUrl.trans follows'.endpointUrl.symm
  cases follows.region.trans follows'.region.symm
  obtain ⟨attempts, most, settles⟩ := follows.maxAttempts
  obtain ⟨attempts', most', settles'⟩ := follows'.maxAttempts
  cases settles.unique TellsCount.unique settles'
  cases UInt32.toNat_inj.mp (most.trans most'.symm)
  rfl

/-! ## Readers -/

/-- How the reader of a parameter answers: what it gives follows from a value that can be used,
and what it says is about one that cannot. -/
inductive Answers {α : Type} (checkUrl : UrlCheck) (lookup : Lookup) (parameter : Parameter)
    (follows : α → Prop) : Except Failure α → Prop
  | told {value : α} (usable : parameter.IsUsable checkUrl lookup) (told : follows value) :
      Answers checkUrl lookup parameter follows (.ok value)
  | refused {failure : Failure} (useless : ¬parameter.IsUsable checkUrl lookup)
      (complains : parameter.Complains checkUrl lookup failure) :
      Answers checkUrl lookup parameter follows (.error failure)

section

variable {checkUrl : UrlCheck} {lookup : Lookup} {parameter : Parameter}

theorem Parameter.isUsable_of_unset (unset : value? lookup parameter.name = none)
    (optional : parameter ≠ .queueUrl) : parameter.IsUsable checkUrl lookup := by
  rw [IsUsable, unset]
  exact optional

theorem Parameter.complains_of_value {text : String} {failure : Failure}
    (value : value? lookup parameter.name = some text)
    (complains : parameter.kind.Complains checkUrl parameter.name (some text) failure) :
    parameter.Complains checkUrl lookup failure := by
  rw [Complains, value]
  exact complains

variable (checkUrl)

theorem Parameter.isUsable_iff_of_value {text : String}
    (value : value? lookup parameter.name = some text) :
    parameter.IsUsable checkUrl lookup ↔ parameter.kind.IsUsable checkUrl text := by
  rw [IsUsable, value]

theorem answers_readCount (parameter : Parameter) (counts : parameter.kind = .count) :
    Answers checkUrl lookup parameter
      (fun count? : Option UInt32 => ∀ otherwise,
        Settles TellsCount otherwise (value? lookup parameter.name) (count?.getD otherwise))
      (readCount lookup parameter.name) := by
  unfold readCount
  cases value : value? lookup parameter.name with
  | none =>
      have optional : parameter ≠ .queueUrl := by rintro rfl; cases counts
      exact .told (Parameter.isUsable_of_unset value optional) fun _ => .unset
  | some text =>
      have usable := Parameter.isUsable_iff_of_value checkUrl value
      rw [counts] at usable
      dsimp only
      cases read : readNatural (UInt32.size - 1) text.toList with
      | ok number =>
          obtain ⟨natural, within⟩ := readNatural_eq_ok_iff.mp read
          have small : number < UInt32.size := Nat.lt_of_le_pred (by decide) within
          have told : TellsCount text (UInt32.ofNat number) := by
            rw [TellsCount, UInt32.toNat_ofNat_of_lt' small]
            exact natural
          exact .told (usable.mpr ⟨_, told⟩) fun _ => .told told
      | error fault =>
          refine .refused ?_ (Parameter.complains_of_value value ?_)
          · rw [usable]
            rintro ⟨count, natural⟩
            have within : count.toNat ≤ UInt32.size - 1 := Nat.le_pred_of_lt count.toNat_lt
            rw [readNatural_eq_ok_iff.mpr ⟨natural, within⟩] at read
            cases read
          · rw [counts]
            exact .noCount (naturalFault_of_readNatural read)

theorem answers_readSeconds (parameter : Parameter) (spans : parameter.kind = .seconds) :
    Answers checkUrl lookup parameter
      (fun duration? : Option Time.Duration => ∀ otherwise,
        Settles TellsSeconds otherwise (value? lookup parameter.name) (duration?.getD otherwise))
      (readSeconds lookup parameter.name) := by
  unfold readSeconds
  cases value : value? lookup parameter.name with
  | none =>
      have optional : parameter ≠ .queueUrl := by rintro rfl; cases spans
      exact .told (Parameter.isUsable_of_unset value optional) fun _ => .unset
  | some text =>
      have usable := Parameter.isUsable_iff_of_value checkUrl value
      have complains {failure : Failure}
          (said : Kind.Complains checkUrl parameter.name .seconds (some text) failure) :
          parameter.Complains checkUrl lookup failure :=
        Parameter.complains_of_value value (spans ▸ said)
      rw [spans] at usable
      dsimp only
      cases read : readBinary64? text.toList with
      | none =>
          refine .refused ?_ (complains (.noSeconds read))
          rw [usable]
          rintro ⟨duration, seconds, read', -⟩
          rw [read] at read'
          cases read'
      | some seconds =>
          dsimp only
          cases below : seconds.isBelowZero with
          | true =>
              rw [if_pos rfl]
              refine .refused ?_ (complains (.belowZero read below))
              rw [usable]
              rintro ⟨duration, _, read', -, above, -⟩
              cases read.symm.trans read'
              cases below.symm.trans above
          | false =>
              rw [if_neg Bool.false_ne_true]
              cases spanned : Time.Duration.ofSeconds? seconds with
              | none =>
                  refine .refused ?_ (complains (.noDuration read below spanned))
                  rw [usable]
                  rintro ⟨duration, _, read', -, -, spanned'⟩
                  cases read.symm.trans read'
                  cases spanned.symm.trans spanned'
              | some duration =>
                  -- What is not a number is not below zero, but spans no duration.
                  have number : seconds ≠ .notANumber := by rintro rfl; cases spanned
                  have told : TellsSeconds text duration := ⟨seconds, read, number, below, spanned⟩
                  exact .told (usable.mpr ⟨_, told⟩) fun _ => Settles.told told

end

theorem answers_readExpireDays (checkUrl : UrlCheck) (lookup : Lookup) :
    Answers checkUrl lookup .expireDays (Settles TellsDays 5 (value? lookup "RESTORE_EXPIRE_DAYS"))
      (readExpireDays lookup) := by
  unfold readExpireDays readInteger
  cases value : value? lookup "RESTORE_EXPIRE_DAYS" with
  | none => exact .told (Parameter.isUsable_of_unset value nofun) .unset
  | some text =>
      have usable : Parameter.expireDays.IsUsable checkUrl lookup ↔ ∃ days, TellsDays text days :=
        Parameter.isUsable_iff_of_value checkUrl value
      have read_of_tells {days : Int} (told : TellsDays text days) :
          readSigned (1 <<< 31 - 1) text.toList = .ok days := by
        obtain ⟨integer, positive, bounded⟩ := told
        exact readSigned_eq_ok_iff.mpr ⟨integer, by omega, by omega⟩
      dsimp only
      cases read : readSigned (1 <<< 31 - 1) text.toList with
      | ok days =>
          obtain ⟨integer, -, within⟩ := readSigned_eq_ok_iff.mp read
          change Answers _ _ _ _ (if days < 1 then throw _ else pure days)
          by_cases tooFew : days < 1
          · rw [if_pos tooFew]
            refine .refused ?_ (Parameter.complains_of_value value (.tooFewDays integer tooFew))
            rw [usable]
            rintro ⟨days', told⟩
            cases read.symm.trans (read_of_tells told)
            exact absurd told.positive (Int.not_le.mpr tooFew)
          · rw [if_neg tooFew]
            have told : TellsDays text days := ⟨integer, Int.not_lt.mp tooFew, by omega⟩
            exact .told (usable.mpr ⟨days, told⟩) (.told told)
      | error fault =>
          refine .refused ?_ (Parameter.complains_of_value value
            (.noInteger (signedFault_of_readSigned read)))
          rw [usable]
          rintro ⟨days, told⟩
          cases read.symm.trans (read_of_tells told)

theorem answers_readQueueUrl (checkUrl : UrlCheck) (lookup : Lookup) :
    Answers checkUrl lookup .queueUrl (fun url => value? lookup "DB_QUEUE_URL" = some url)
      (readQueueUrl checkUrl lookup) := by
  unfold readQueueUrl
  cases value : value? lookup "DB_QUEUE_URL" with
  | none =>
      refine .refused ?_ ?_
      · rw [Parameter.IsUsable, Parameter.name, value]
        exact fun given => given rfl
      · rw [Parameter.Complains, Parameter.name, value]
        exact .noValue
  | some text =>
      have usable : Parameter.queueUrl.IsUsable checkUrl lookup ↔ checkUrl text = .ok () :=
        Parameter.isUsable_iff_of_value checkUrl value
      dsimp only
      cases checked : checkUrl text with
      | ok => exact .told (usable.mpr checked) rfl
      | error fault =>
          refine .refused ?_ (Parameter.complains_of_value value (.noAddress checked))
          rw [usable, checked]
          nofun

/-! ## Resolution -/

theorem forM_eq_ok_iff {α : Type} {check : α → Except Failure Unit} {items : List α} :
    items.forM check = .ok () ↔ ∀ item ∈ items, check item = .ok () := by
  induction items with
  | nil => simp [List.forM, pure, Except.pure]
  | cons item items ih =>
      rw [List.forall_mem_cons, ← ih]
      change (check item >>= fun _ => items.forM check) = _ ↔ _
      cases check item with
      | ok => simp [bind, Except.bind]
      | error failure => simp [bind, Except.bind]

theorem exists_first_of_forM_eq_error {α : Type} {check : α → Except Failure Unit}
    {items : List α} {failure : Failure} (failed : items.forM check = .error failure) :
    ∃ before item after, items = before ++ item :: after ∧
      (∀ earlier ∈ before, check earlier = .ok ()) ∧ check item = .error failure := by
  induction items with
  | nil => cases failed
  | cons item items ih =>
      change (check item >>= fun _ => items.forM check) = _ at failed
      cases checked : check item with
      | error shown =>
          rw [checked] at failed
          cases failed
          exact ⟨[], item, items, rfl, by simp, checked⟩
      | ok =>
          rw [checked] at failed
          obtain ⟨before, first, after, rfl, earlier, refused⟩ := ih failed
          exact ⟨item :: before, first, after, rfl,
            List.forall_mem_cons.mpr ⟨checked, earlier⟩, refused⟩

/-- A reader without what it gives. -/
def Parameter.check (checkUrl : UrlCheck) (lookup : Lookup) : Parameter → Except Failure Unit
  | .expireDays => (readExpireDays lookup).map fun _ => ()
  | .maxRetries => (readCount lookup "RESTORE_REQUEST_RETRIES").map fun _ => ()
  | .retrySleep => (readSeconds lookup "RESTORE_RETRY_SLEEP_SECS").map fun _ => ()
  | .queueUrl => (readQueueUrl checkUrl lookup).map fun _ => ()
  | .maxAttempts => (readCount lookup "DB_QUEUE_MAX_ATTEMPTS").map fun _ => ()
  | .deliverySleep => (readSeconds lookup "DB_QUEUE_RETRY_SLEEP_SECS").map fun _ => ()

theorem Answers.check {α : Type} {checkUrl : UrlCheck} {lookup : Lookup} {parameter : Parameter}
    {follows : α → Prop} {reading : Except Failure α}
    (answers : Answers checkUrl lookup parameter follows reading) :
    Answers checkUrl lookup parameter (fun _ => True) (reading.map fun _ => ()) := by
  cases answers with
  | told usable => exact .told usable trivial
  | refused useless complains => exact .refused useless complains

theorem Answers.of_ok {α : Type} {checkUrl : UrlCheck} {lookup : Lookup} {parameter : Parameter}
    {follows : α → Prop} {reading : Except Failure α} {value : α}
    (answers : Answers checkUrl lookup parameter follows reading)
    (read : reading = .ok value) : follows value := by
  subst read
  cases answers with
  | told _ told => exact told

theorem Parameter.answers_check (checkUrl : UrlCheck) (lookup : Lookup) (parameter : Parameter) :
    Answers checkUrl lookup parameter (fun _ => True) (parameter.check checkUrl lookup) := by
  cases parameter with
  | expireDays => exact (answers_readExpireDays checkUrl lookup).check
  | maxRetries => exact (answers_readCount checkUrl .maxRetries rfl).check
  | retrySleep => exact (answers_readSeconds checkUrl .retrySleep rfl).check
  | queueUrl => exact (answers_readQueueUrl checkUrl lookup).check
  | maxAttempts => exact (answers_readCount checkUrl .maxAttempts rfl).check
  | deliverySleep => exact (answers_readSeconds checkUrl .deliverySleep rfl).check

theorem Parameter.check_eq_ok_iff {checkUrl : UrlCheck} {lookup : Lookup} {parameter : Parameter} :
    parameter.check checkUrl lookup = .ok () ↔ parameter.IsUsable checkUrl lookup := by
  have answers := parameter.answers_check checkUrl lookup
  cases checked : parameter.check checkUrl lookup with
  | ok =>
      rw [checked] at answers
      cases answers with
      | told usable => exact iff_of_true rfl usable
  | error failure =>
      rw [checked] at answers
      cases answers with
      | refused useless => exact iff_of_false nofun useless

theorem resolve_checks (checkUrl : UrlCheck) (lookup : Lookup) :
    (resolve checkUrl lookup).1.map (fun _ => ()) =
      Parameter.inOrder.forM (Parameter.check checkUrl lookup) := by
  unfold resolve readPasses resolveFrom readDelivery
  simp only [Parameter.inOrder, Parameter.beforeTier, List.cons_append, List.nil_append, List.forM,
    Parameter.check]
  -- Both sides read one parameter after another and end with the first that fails.
  cases readExpireDays lookup with
  | error failure => rfl
  | ok days =>
      cases readCount lookup "RESTORE_REQUEST_RETRIES" with
      | error failure => rfl
      | ok maxRetries =>
          cases readSeconds lookup "RESTORE_RETRY_SLEEP_SECS" with
          | error failure => rfl
          | ok retrySleep =>
              cases readQueueUrl checkUrl lookup with
              | error failure => rfl
              | ok url =>
                  cases readCount lookup "DB_QUEUE_MAX_ATTEMPTS" with
                  | error failure => rfl
                  | ok maxAttempts =>
                      cases readSeconds lookup "DB_QUEUE_RETRY_SLEEP_SECS" with
                      | error failure => rfl
                      | ok deliverySleep => rfl

theorem tellsTier_ofNameOrStandard (name : String) :
    TellsTier name (Tier.ofNameOrStandard name).1 := by
  unfold Tier.ofNameOrStandard
  cases known : Tier.ofName? name with
  | none => exact .inr ⟨rfl, Tier.ofName?_eq_none_iff.mp known⟩
  | some tier => exact .inl (Tier.ofName?_eq_some_iff.mp known)

theorem settles_readTier (lookup : Lookup) :
    Settles TellsTier .standard (value? lookup "RESTORE_RETRIEVAL_TYPE") (readTier lookup).1 := by
  unfold readTier
  cases value? lookup "RESTORE_RETRIEVAL_TYPE" with
  | none => exact .unset
  | some name => exact .told (tellsTier_ofNameOrStandard name)

theorem mem_warnings_readTier_iff {lookup : Lookup} {record : LogRecord} :
    record ∈ (readTier lookup).2 ↔ ∃ name, value? lookup "RESTORE_RETRIEVAL_TYPE" = some name ∧
      (∀ tier : Tier, name ≠ tier.name) ∧ record = Tier.fallbackWarning name := by
  unfold readTier
  cases value? lookup "RESTORE_RETRIEVAL_TYPE" with
  | none => simp
  | some name =>
      simp only [Option.some.injEq, exists_eq_left', ← Tier.ofName?_eq_none_iff,
        Tier.ofNameOrStandard]
      cases Tier.ofName? name with
      | none => simp
      | some tier => simp

/-- The tier is read after the parameters that budget the passes, if nothing is wrong with them. -/
theorem warnings_resolve (checkUrl : UrlCheck) (lookup : Lookup) :
    (resolve checkUrl lookup).2 =
      match Parameter.beforeTier.forM (Parameter.check checkUrl lookup) with
      | .ok _ => (readTier lookup).2
      | .error _ => [] := by
  unfold resolve readPasses
  simp only [Parameter.beforeTier, List.forM, Parameter.check]
  cases readExpireDays lookup with
  | error failure => rfl
  | ok days =>
      cases readCount lookup "RESTORE_REQUEST_RETRIES" with
      | error failure => rfl
      | ok maxRetries =>
          cases readSeconds lookup "RESTORE_RETRY_SLEEP_SECS" with
          | error failure => rfl
          | ok sleep => rfl

theorem follows_of_resolve {checkUrl : UrlCheck} {lookup : Lookup} {settings : Settings}
    (resolved : (resolve checkUrl lookup).1 = .ok settings) : Follows lookup settings := by
  unfold resolve at resolved
  split at resolved
  next => cases resolved
  next => cases resolved
  next days passes daysRead passesRead =>
    obtain ⟨maxRetries?, retriesRead, passesRead⟩ := Json.bind_eq_ok.mp passesRead
    obtain ⟨retrySleep?, retrySleepRead, passesRead⟩ := Json.bind_eq_ok.mp passesRead
    cases passesRead
    obtain ⟨url, urlRead, resolved⟩ := Json.bind_eq_ok.mp resolved
    obtain ⟨delivery, deliveryRead, resolved⟩ := Json.bind_eq_ok.mp resolved
    cases resolved
    obtain ⟨maxAttempts?, attemptsRead, deliveryRead⟩ := Json.bind_eq_ok.mp deliveryRead
    obtain ⟨deliverySleep?, deliverySleepRead, deliveryRead⟩ := Json.bind_eq_ok.mp deliveryRead
    cases deliveryRead
    exact {
      expireDays := (answers_readExpireDays checkUrl lookup).of_ok daysRead
      maxRetries := (answers_readCount checkUrl .maxRetries rfl).of_ok retriesRead _
      retrySleep := (answers_readSeconds checkUrl .retrySleep rfl).of_ok retrySleepRead _
      tier := settles_readTier lookup
      queueUrl := (answers_readQueueUrl checkUrl lookup).of_ok urlRead
      maxAttempts := ⟨_, DeliveryBudget.of_maxAttempts _ _,
        (answers_readCount checkUrl .maxAttempts rfl).of_ok attemptsRead _⟩
      deliverySleep :=
        (answers_readSeconds checkUrl .deliverySleep rfl).of_ok deliverySleepRead _
      endpointUrl := rfl
      region := rfl }

/-- What values are, when they give settings and which, and else what is said about the first that
cannot be used. Only a tier of no known name gives a warning, and only when it is read. -/
structure ResolvesExactly (checkUrl : UrlCheck) (lookup : Lookup)
    (resolved : Except Failure Settings × List LogRecord) : Prop where
  values : ∀ name text, value? lookup name = some text ↔ text.toList ≠ [] ∧
    ∃ given, lookup name = some given ∧ Text.IsCore text.toList given.toList
  resolves : (∃ settings, resolved.1 = .ok settings) ↔
    ∀ parameter : Parameter, parameter.IsUsable checkUrl lookup
  follows : ∀ settings, resolved.1 = .ok settings →
    Follows lookup settings ∧ ∀ others, Follows lookup others → others = settings
  complains : ∀ failure, resolved.1 = .error failure → ∃ before parameter after,
    Parameter.inOrder = before ++ parameter :: after ∧
    (∀ earlier ∈ before, Parameter.IsUsable checkUrl lookup earlier) ∧
    ¬parameter.IsUsable checkUrl lookup ∧ parameter.Complains checkUrl lookup failure
  warns : ∀ record, record ∈ resolved.2 ↔
    (∀ parameter ∈ Parameter.beforeTier, Parameter.IsUsable checkUrl lookup parameter) ∧
    ∃ name, value? lookup "RESTORE_RETRIEVAL_TYPE" = some name ∧
      (∀ tier : Tier, name ≠ tier.name) ∧ record = Tier.fallbackWarning name

theorem Parameter.mem_inOrder (parameter : Parameter) : parameter ∈ inOrder := by
  cases parameter <;> simp [inOrder, beforeTier]

theorem Parameter.forM_check_eq_ok_iff {checkUrl : UrlCheck} {lookup : Lookup}
    {parameters : List Parameter} :
    parameters.forM (check checkUrl lookup) = .ok () ↔
      ∀ parameter ∈ parameters, parameter.IsUsable checkUrl lookup := by
  simp only [forM_eq_ok_iff, check_eq_ok_iff]

theorem resolve_exact (checkUrl : UrlCheck) (lookup : Lookup) :
    ResolvesExactly checkUrl lookup (resolve checkUrl lookup) := by
  have checks := resolve_checks checkUrl lookup
  constructor
  case values => exact fun _ _ => value?_eq_some_iff
  case resolves =>
    have every : (∀ parameter ∈ Parameter.inOrder, parameter.IsUsable checkUrl lookup) ↔
        ∀ parameter : Parameter, parameter.IsUsable checkUrl lookup :=
      ⟨fun usable parameter => usable parameter parameter.mem_inOrder,
        fun usable parameter _ => usable parameter⟩
    rw [← every, ← Parameter.forM_check_eq_ok_iff, ← checks, Json.map_eq_ok]
    simp only [and_true]
  case follows =>
    intro settings resolved
    have follows := follows_of_resolve resolved
    exact ⟨follows, fun others follows' => follows'.unique follows⟩
  case complains =>
    intro failure failed
    rw [failed] at checks
    obtain ⟨before, parameter, after, split, earlier, refused⟩ :=
      exists_first_of_forM_eq_error checks.symm
    have answers := parameter.answers_check checkUrl lookup
    rw [refused] at answers
    cases answers with
    | refused useless complains =>
        exact ⟨before, parameter, after, split,
          fun item member => Parameter.check_eq_ok_iff.mp (earlier item member), useless, complains⟩
  case warns =>
    intro record
    rw [warnings_resolve, ← Parameter.forM_check_eq_ok_iff, ← mem_warnings_readTier_iff]
    cases Parameter.beforeTier.forM (Parameter.check checkUrl lookup) with
    | ok => simp
    | error failure => simp

end Settings

end GranuleRecall
