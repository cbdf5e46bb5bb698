import GranuleRecall.Decimal.Literal
import GranuleRecall.Decimal.Shortest
import GranuleRecall.Failure
import GranuleRecall.Settings.Budget
import GranuleRecall.Settings.Tier
import GranuleRecall.Text.WhiteSpace

/-! # Settings

The settings of a run, resolved once from named values. A value counts without the white space
around it, and one that is then empty counts as not given. The first setting that cannot be used
decides about the failure. What a URL is, is left to the caller. -/
set_option autoImplicit false

namespace GranuleRecall

open Decimal

structure Settings where
  expireDays : Int
  passes : PassBudget
  tier : Tier
  queueUrl : String
  delivery : DeliveryBudget
  endpointUrl : Option String
  region : Option String
deriving Repr

namespace Settings

abbrev Lookup := String → Option String

/-- Whether a text can be parsed as an absolute URL, and if not, what is said about it. -/
abbrev UrlCheck := String → Except String Unit

/-- The value of a name without the white space around it, unless nothing is left. -/
def value? (lookup : Lookup) (name : String) : Option String :=
  match lookup name with
  | none => none
  | some given =>
    let trimmed := Text.trim given
    if trimmed.isEmpty then none else some trimmed

def invalidValue (name given reason : String) : Failure :=
  .configuration s!"{name} has invalid value '{given}': {reason}"

def readCount (lookup : Lookup) (name : String) : Except Failure (Option UInt32) :=
  match value? lookup name with
  | none => .ok none
  | some given =>
    match readNatural (UInt32.size - 1) given.toList with
    | .ok number => .ok (some (UInt32.ofNat number))
    | .error fault => .error (invalidValue name given fault.message)

def readInteger (lookup : Lookup) (name : String) : Except Failure (Option Int) :=
  match value? lookup name with
  | none => .ok none
  | some given =>
    match readSigned (1 <<< 31 - 1) given.toList with
    | .ok number => .ok (some number)
    | .error fault => .error (invalidValue name given fault.message)

/-- A span of time given in seconds, if given. It must not be below zero, and not too long. -/
def readSeconds (lookup : Lookup) (name : String) : Except Failure (Option Time.Duration) :=
  match value? lookup name with
  | none => .ok none
  | some given =>
    match readBinary64? given.toList with
    | none => .error (invalidValue name given invalidBinary64Message)
    | some seconds =>
      if seconds.isBelowZero then
        .error (.configuration
          s!"{name} must be a non-negative number of seconds, got {plainText seconds}")
      else
        match Time.Duration.ofSeconds? seconds with
        | some duration => .ok (some duration)
        | none =>
          let reason := Time.Duration.unusableMessage
          .error (.configuration
            s!"{name} is not a usable number of seconds ({plainText seconds}): {reason}")

/-- How long restored objects are kept when that is not given. -/
def defaultExpireDays : Int := 5

def defaultMaxRetries : UInt32 := 2

/-- The number of days for which a restored object is kept: at least one. -/
def readExpireDays (lookup : Lookup) : Except Failure Int := do
  let given ← readInteger lookup "RESTORE_EXPIRE_DAYS"
  let days := given.getD defaultExpireDays
  if days < 1 then
    throw (.configuration s!"RESTORE_EXPIRE_DAYS must be at least 1, got {days}")
  else return days

def readPasses (lookup : Lookup) : Except Failure PassBudget := do
  let maxRetries ← readCount lookup "RESTORE_REQUEST_RETRIES"
  let sleep ← readSeconds lookup "RESTORE_RETRY_SLEEP_SECS"
  return ⟨maxRetries.getD defaultMaxRetries, sleep.getD .zero⟩

/-- The tier, or the standard one with a warning when its name is not known. -/
def readTier (lookup : Lookup) : Tier × List LogRecord :=
  match value? lookup "RESTORE_RETRIEVAL_TYPE" with
  | none => (.standard, [])
  | some name => Tier.ofNameOrStandard name

def readQueueUrl (checkUrl : UrlCheck) (lookup : Lookup) : Except Failure String :=
  match value? lookup "DB_QUEUE_URL" with
  | none => .error (.configuration "DB_QUEUE_URL must be set")
  | some url =>
    match checkUrl url with
    | .ok _ => .ok url
    | .error fault =>
      .error (.configuration s!"DB_QUEUE_URL is not a valid URL ({url}): {fault}")

/-- The budget for delivering messages. What is not given is as for requesting restores. -/
def readDelivery (lookup : Lookup) (passes : PassBudget) : Except Failure DeliveryBudget := do
  let maxAttempts ← readCount lookup "DB_QUEUE_MAX_ATTEMPTS"
  let sleep ← readSeconds lookup "DB_QUEUE_RETRY_SLEEP_SECS"
  return .of (maxAttempts.getD passes.maxRetries) (sleep.getD passes.sleep)

def resolveFrom (checkUrl : UrlCheck) (lookup : Lookup) (expireDays : Int) (passes : PassBudget)
    (tier : Tier) : Except Failure Settings := do
  let queueUrl ← readQueueUrl checkUrl lookup
  let delivery ← readDelivery lookup passes
  return {
    expireDays, passes, tier, queueUrl, delivery
    endpointUrl := value? lookup "AWS_ENDPOINT_URL"
    region := value? lookup "AWS_REGION" }

def resolve (checkUrl : UrlCheck) (lookup : Lookup) :
    Except Failure Settings × List LogRecord :=
  match readExpireDays lookup, readPasses lookup with
  | .error failure, _ => (.error failure, [])
  | .ok _, .error failure => (.error failure, [])
  | .ok expireDays, .ok passes =>
    let (tier, warnings) := readTier lookup
    (resolveFrom checkUrl lookup expireDays passes tier, warnings)

end Settings

end GranuleRecall
