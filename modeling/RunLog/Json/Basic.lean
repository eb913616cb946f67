import RunLog.Number.Binary64
import RunLog.Text.Basic

/-!
# Structured values

Responses of the backend and the annotations of a line are structured values.  Integers and doubles
are kept apart, an object keeps the order in which its names first came, and a text may hold
unpaired surrogates.
-/

namespace RunLog

/-- A structured value. -/
inductive Json
  | null
  | bool (value : Bool)
  | int (value : Int)
  | float (value : Float)
  | text (value : Text)
  | list (items : List Json)
  | object (members : List (Text × Json))
  deriving Inhabited

namespace Json

/-- The value under a name in a list of members. -/
def lookup? (name : Text) : List (Text × Json) → Option Json
  | [] => none
  | (candidate, value) :: rest => if candidate == name then some value else lookup? name rest

/-- Put a member: a name that is present keeps its place and gets the new value. -/
def insertMember (name : Text) (value : Json) : List (Text × Json) → List (Text × Json)
  | [] => [(name, value)]
  | (candidate, old) :: rest =>
    if candidate == name then (candidate, value) :: rest
    else (candidate, old) :: insertMember name value rest

/-- The members of an object in which names came in order, possibly repeated. -/
def members (pairs : List (Text × Json)) : List (Text × Json) :=
  pairs.foldl (fun collected (name, value) => insertMember name value collected) []

/-- Whether a value counts as nothing where nothing is allowed. -/
def isEmpty : Json → Bool
  | null => true
  | bool value => !value
  | int value => value == 0
  | float value => value == 0
  | text value => value.isEmpty
  | list items => items.isEmpty
  | object members => members.isEmpty

@[simp] theorem lookup?_nil (name : Text) : lookup? name [] = none := rfl

@[simp] theorem lookup?_cons_self (name : Text) (value : Json) (rest : List (Text × Json)) :
    lookup? name ((name, value) :: rest) = some value := by
  simp [lookup?]

@[simp] theorem lookup?_insertMember_self
    (name : Text) (value : Json) (pairs : List (Text × Json)) :
    lookup? name (insertMember name value pairs) = some value := by
  induction pairs with
  | nil => simp [insertMember]
  | cons pair rest inductionHypothesis =>
    obtain ⟨candidate, old⟩ := pair
    by_cases same : candidate = name
    · simp [insertMember, same]
    · simp [insertMember, lookup?, same, inductionHypothesis]

end Json
end RunLog
