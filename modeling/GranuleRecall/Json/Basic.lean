import GranuleRecall.Decimal.Binary64

/-! # JSON data

The values a JSON text stands for. Integers that fit in 64 bits, signed or unsigned, stay exact;
every other number is a binary64 number. The members of an object read from a text are kept
sorted by name, one for each name. -/
set_option autoImplicit false

namespace GranuleRecall

/-- A JSON number: an integer from `-2 ^ 63` to `2 ^ 64 - 1`, or a finite binary64 number. -/
inductive Json.Number
  | integer (value : Int)
  | real (value : Decimal.Binary64)
deriving DecidableEq, Repr

inductive Json
  | null
  | bool (value : Bool)
  | number (value : Json.Number)
  | text (value : String)
  | array (elements : List Json)
  | object (members : List (String × Json))
deriving Repr

namespace Json

instance : Inhabited Json := ⟨.null⟩

def natural (value : Nat) : Json :=
  .number (.integer value)

/-- Puts a member into a list sorted by name, in place of one of the same name. -/
def insertMember (name : String) (value : Json) :
    List (String × Json) → List (String × Json)
  | [] => [(name, value)]
  | (first, firstValue) :: remaining =>
    if name = first then (name, value) :: remaining
    else if name < first then (name, value) :: (first, firstValue) :: remaining
    else (first, firstValue) :: insertMember name value remaining

def member? (name : String) (members : List (String × Json)) : Option Json :=
  (members.find? (fun entry => entry.1 = name)).map Prod.snd

theorem member?_insertMember_self (name : String) (value : Json) (members : List (String × Json)) :
    member? name (insertMember name value members) = some value := by
  induction members with
  | nil => simp [insertMember, member?]
  | cons entry remaining ih =>
      obtain ⟨first, firstValue⟩ := entry
      unfold insertMember
      by_cases same : name = first
      · simp [same, member?]
      · by_cases before : name < first
        · simp [same, before, member?]
        · simp only [same, before, if_false]
          have other : ¬ first = name := fun equal => same equal.symm
          simpa [member?, List.find?_cons, other] using ih

theorem member?_insertMember_of_ne {name other : String} (different : other ≠ name) (value : Json)
    (members : List (String × Json)) :
    member? other (insertMember name value members) = member? other members := by
  induction members with
  | nil => simp [insertMember, member?, Ne.symm different]
  | cons entry remaining ih =>
      obtain ⟨first, firstValue⟩ := entry
      unfold insertMember
      by_cases same : name = first
      · subst same
        simp [member?, Ne.symm different]
      · by_cases before : name < first
        · simp [same, before, member?, List.find?_cons, Ne.symm different]
        · simp only [same, before, if_false]
          by_cases found : first = other
          · simp [member?, found]
          · simpa [member?, List.find?_cons, found] using ih

end Json

end GranuleRecall
