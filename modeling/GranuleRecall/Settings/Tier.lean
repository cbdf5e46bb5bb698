import GranuleRecall.Log

/-! # Retrieval tiers

How fast, and at what cost, an object is brought back from the archive. -/
set_option autoImplicit false

namespace GranuleRecall

inductive Tier
  | standard
  | bulk
  | expedited
deriving DecidableEq, Repr

namespace Tier

def name : Tier → String
  | .standard => "Standard"
  | .bulk => "Bulk"
  | .expedited => "Expedited"

/-- The tier of a name. Names are told apart by case. -/
def ofName? (name : String) : Option Tier :=
  if name = "Standard" then some .standard
  else if name = "Bulk" then some .bulk
  else if name = "Expedited" then some .expedited
  else none

def unknownMessage (name : String) : String :=
  s!"unknown retrieval tier '{name}'"

def fallbackWarning (name : String) : LogRecord where
  level := .warn
  source := .settings
  message := s!"Invalid RESTORE_RETRIEVAL_TYPE: '{name}' defaulting to 'Standard'"
  fields := [("retrieval_type", .text name)]

def ofNameOrStandard (name : String) : Tier × List LogRecord :=
  match ofName? name with
  | some tier => (tier, [])
  | none => (.standard, [fallbackWarning name])

theorem ofName?_name (tier : Tier) : ofName? tier.name = some tier := by
  cases tier <;> decide

end Tier

end GranuleRecall
