import RunLog.Failure
import RunLog.Json.Writer
import RunLog.Text.Utf8

/-!
# Labels

Every line comes from a stream, and a stream is known by its labels.  The names of the labels are
texts as a rule, but a response may spell labels as pairs, and then a name can be any scalar.  The
digest of a stream is taken over its labels in the order of their names.
-/

namespace RunLog

/-- A label of a stream. -/
structure Label where
  /-- The name. -/
  name : Json
  /-- The value. -/
  value : Json
  deriving Inhabited

/-- The labels of a stream, in the order in which their names first came. -/
abbrev Labels := List Label

namespace Label

/-- The label with a text as its name. -/
def named (name : Text) (value : Json) : Label :=
  ⟨.text name, value⟩

/-- The whole number that a scalar counts as. -/
def asInt? : Json → Option Int
  | .bool value => some (if value then 1 else 0)
  | .int value => some value
  | _ => none

/-- The value of a finite number, exactly, in units of the smallest positive double. -/
def units? : Json → Option Int
  | .float value => if value.isFinite then some (unitsOfFloat value) else none
  | value => (asInt? value).map unitsOfInt

/-- The double that a number is if it is not finite; beside one of these, every finite number
counts as zero. -/
def beyond : Json → Float
  | .float value => if value.isFinite then 0 else value
  | _ => 0

/-- Whether a value is a number or counts as one. -/
def isNumber : Json → Bool
  | .bool _ | .int _ | .float _ => true
  | _ => false

/-- Whether two names are the same; numbers are, when they have the same value, and so are two that
are not numbers at all although they come as numbers. -/
def sameName : Json → Json → Bool
  | .text left, .text right => left == right
  | .null, .null => true
  | left, right =>
    isNumber left && isNumber right &&
      match units? left, units? right with
      | some left, some right => left == right
      | none, none =>
        beyond left == beyond right || ((beyond left).isNaN && (beyond right).isNaN)
      | _, _ => false

/-- Whether a name does not come after another one, among names of one kind. -/
def nameLe : Json → Json → Bool
  | .text left, .text right => left.le right
  | left, right =>
    match units? left, units? right with
    | some left, some right => decide (left ≤ right)
    | _, _ => !decide (beyond right < beyond left)

/-- Whether a value can be a name. -/
def isName : Json → Bool
  | .list _ | .object _ => false
  | _ => true

/-- A label as it enters the digest of its stream. -/
def text (label : Label) : Text :=
  label.name.display ++ "=" ++ label.value.display

end Label

namespace Labels

/-- Put a label: a name that is present keeps its place and gets the new value. -/
def insert (label : Label) : Labels → Labels
  | [] => [label]
  | present :: rest =>
    if Label.sameName present.name label.name then ⟨present.name, label.value⟩ :: rest
    else present :: insert label rest

/-- The value of the label with a given text as its name. -/
def get? (name : Text) (labels : Labels) : Option Json :=
  (labels.find? fun label => Label.sameName label.name (.text name)).map (·.value)

/-- The labels with the members of an object as names and values. -/
def ofMembers (members : List (Text × Json)) : Labels :=
  members.map fun (name, value) => Label.named name value

/-- Whether the names of some labels can be put in order. -/
def comparable (labels : Labels) : Bool :=
  labels.length ≤ 1
    || (labels.all fun label => Label.isNumber label.name)
    || labels.all fun label => match label.name with | .text _ => true | _ => false

/-- Labels in the order of their names. -/
def sorted (labels : Labels) : Labels :=
  labels.mergeSort fun left right => Label.nameLe left.name right.name

/-- The text that the digest of a stream is taken over. -/
def text (labels : Labels) : Text :=
  Text.join "," (labels.sorted.map Label.text)

/-- The bytes that the digest of a stream is taken over. -/
def encoded? (labels : Labels) : Except Failure Bytes :=
  if labels.comparable then
    match labels.text.utf8? with
    | some bytes => .ok bytes
    | none => .error (.malformed .unencodable)
  else .error (.malformed .wrongType)

end Labels
end RunLog
