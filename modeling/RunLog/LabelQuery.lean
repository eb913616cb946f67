import RunLog.Scope

/-!
# Label queries

The backend is asked for lines by a query text: a selector on the labels of the service, followed
by a filter for each label of the run.  A value stands in double quotes, with a backslash before
each quote and each backslash in it.
-/

namespace RunLog

/-- The service whose lines are wanted. -/
structure Service where
  /-- The name of the service. -/
  name : Text
  /-- The namespace of the service, where it has one. -/
  space : Option Text
  deriving DecidableEq, Repr

namespace LabelQuery

/-- A text with a character replaced wherever it stands. -/
def replace (sought : Char) (replacement : Text) (text : Text) : Text :=
  text.flatMap fun point => if point.is sought then replacement else [point]

/-- A text as it stands between double quotes: backslashes are doubled first, and then a backslash
is put before each quote. -/
def escape (value : Text) : Text :=
  replace '"' "\\\"" (replace '\\' "\\\\" value)

/-- A label and the value it has to have. -/
structure Matcher where
  /-- The name of the label. -/
  label : Text
  /-- The value. -/
  value : Text
  deriving DecidableEq, Repr

/-- The text of a matcher. -/
def Matcher.text (matcher : Matcher) : Text :=
  matcher.label ++ "=\"" ++ escape matcher.value ++ "\""

/-- What the labels of the service have to be. -/
def selector (service : Service) : List Matcher :=
  ⟨"service_name", service.name⟩ ::
    match service.space with
    | some space => if space.isEmpty then [] else [⟨"service_namespace", space⟩]
    | none => []

/-- What the labels of the run have to be. -/
def filters (scope : Scope) : List Matcher :=
  [⟨"ci_pipeline_id", scope.pipeline⟩, ⟨"ci_pipeline_run_number", Text.ofInt scope.run⟩,
    ⟨"trace_id", scope.trace⟩]
    ++ (scope.step.map fun step => ⟨"jenkins_step_id", step⟩).toList

/-- The text of a query with a selector and filters. -/
def render (selector filters : List Matcher) : Text :=
  let filterText (matcher : Matcher) : Text := " | " ++ matcher.text
  "\x7b" ++ Text.join ", " (selector.map Matcher.text) ++ "\x7d" ++ filters.flatMap filterText

/-- The text of the query for the lines of a scope. -/
def text (service : Service) (scope : Scope) : Text :=
  render (selector service) (filters scope)

/-- A code point as it stands between double quotes. -/
def escapedPoint (point : CodePoint) : Text :=
  if point.is '\\' || point.is '"' then [CodePoint.ofChar '\\', point] else [point]

theorem replace_append (sought : Char) (replacement left right : Text) :
    replace sought replacement (left ++ right)
      = replace sought replacement left ++ replace sought replacement right :=
  List.flatMap_append

/-- The second replacement leaves alone what the first one has put in. -/
theorem escape_singleton (point : CodePoint) : escape [point] = escapedPoint point := by
  by_cases backslash : point.val = 0x5C
  · obtain rfl : point = CodePoint.ofChar '\\' := Fin.ext backslash
    decide +kernel
  · by_cases quote : point.val = 0x22
    · obtain rfl : point = CodePoint.ofChar '"' := Fin.ext quote
      decide +kernel
    · have noBackslash : point.is '\\' = false := beq_false_of_ne backslash
      have noQuote : point.is '"' = false := beq_false_of_ne quote
      simp [escape, replace, escapedPoint, noBackslash, noQuote]

@[simp] theorem escape_nil : escape [] = [] := rfl

@[simp] theorem escape_append (left right : Text) :
    escape (left ++ right) = escape left ++ escape right := by
  simp only [escape, replace_append]

@[simp] theorem escape_cons (point : CodePoint) (rest : Text) :
    escape (point :: rest) = escapedPoint point ++ escape rest := by
  rw [← escape_singleton, ← escape_append, List.singleton_append]

/-- Each code point is escaped on its own. -/
theorem escape_eq_flatMap (value : Text) : escape value = value.flatMap escapedPoint := by
  induction value with
  | nil => rfl
  | cons point rest inductionHypothesis =>
    rw [escape_cons, inductionHypothesis, List.flatMap_cons]

end LabelQuery
end RunLog
