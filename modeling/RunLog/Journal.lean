import RunLog.Iterator

/-!
# The journal

What happens is reported in a journal: a span for every query and for every larger piece of work,
with its attributes and how it ended, and warnings.  Waits and the windows that were asked for are
noted as well.
-/

namespace RunLog

/-- The pieces of work that have a span. -/
inductive Work
  /-- A query of an iterator. -/
  | loadLogs
  /-- Reading a stream into memory. -/
  | materialize
  /-- Opening the log of a run. -/
  | overallLog
  /-- Opening the log of a step. -/
  | stepLog
  deriving DecidableEq, Repr

/-- The name of the span of a piece of work. -/
def Work.name : Work → Text
  | loadLogs => "LokiBuildLogsLineIterator.loadLogs"
  | materialize => "InputStreamByteBuffer.materialize"
  | overallLog => "LokiLogStorageRetriever.overallLog"
  | stepLog => "LokiLogStorageRetriever.stepLog"

/-- What a tracer does of its own accord when a piece of work fails. -/
structure Tracing where
  /-- Whether it records the failure. -/
  records : Bool
  /-- Whether it says in the status that the work failed. -/
  setsStatus : Bool
  deriving DecidableEq, Repr

/-- What the tracer is asked to do when a piece of work fails.  Opening a log reports its failures
itself. -/
def Work.tracing : Work → Tracing
  | loadLogs | materialize => ⟨true, true⟩
  | overallLog | stepLog => ⟨false, false⟩

/-- The value of an attribute. -/
inductive Attribute
  | text (value : Text)
  | int (value : Int)
  | bool (value : Bool)
  deriving DecidableEq, Repr

/-- What a span says about how its work ended. -/
inductive Status
  /-- Nothing. -/
  | unset
  /-- That it failed.  The description is the text of the failure, after its kind or alone. -/
  | error (failure : Failure) (namesKind : Bool)
  deriving DecidableEq, Repr

/-- What is reported of a piece of work. -/
structure Span where
  /-- What was done. -/
  work : Work
  /-- The piece of work that it was part of. -/
  parent : Option Work
  /-- What is known about it. -/
  attributes : List (Text × Attribute)
  /-- How it ended. -/
  status : Status
  /-- The failures that were recorded, in order. -/
  recorded : List Failure
  deriving DecidableEq, Repr

namespace Span

/-- The span of a piece of work that begins. -/
def start (work : Work) (parent : Option Work) (attributes : List (Text × Attribute)) : Span :=
  ⟨work, parent, attributes, .unset, []⟩

/-- A span of which more is known. -/
def note (attributes : List (Text × Attribute)) (span : Span) : Span :=
  { span with attributes := span.attributes ++ attributes }

/-- A span that has recorded a failure. -/
def record (failure : Failure) (span : Span) : Span :=
  { span with recorded := span.recorded ++ [failure] }

/-- A span that says that its work failed. -/
def fail (failure : Failure) (namesKind : Bool) (span : Span) : Span :=
  { span with status := .error failure namesKind }

/-- A span whose work has ended, perhaps with a failure, of which the tracer reports what it was
asked to. -/
def finish (failure : Option Failure) (span : Span) : Span :=
  match failure with
  | none => span
  | some failure =>
    let recorded := if span.work.tracing.records then span.record failure else span
    if span.work.tracing.setsStatus then recorded.fail failure true else recorded

end Span

/-- What the journal holds. -/
inductive Notice
  /-- A piece of work has ended. -/
  | span (span : Span)
  /-- A warning. -/
  | warning (text : Text)
  /-- A window was asked for. -/
  | window (window : Window)
  /-- There was a wait, of so many seconds. -/
  | wait (seconds : Float)

namespace Notice

/-- The span of a query. -/
def querySpan (scope : Scope) (parent : Option Work) (window : Window)
    (outcome : Except Failure Nat) : Span :=
  let asked := Span.start .loadLogs parent
    [("ci.pipeline.id", .text scope.pipeline), ("ci.pipeline.run.number", .int scope.run),
      ("loki.query.start", .int window.start), ("loki.query.end", .int window.stop)]
  match outcome with
  | .ok count => (asked.note [("loki.query.result.count", .int count)]).finish none
  | .error failure => asked.finish (some failure)

/-- The warning that a full page did not go past the place where it began. -/
def stallWarning (cursor : Int) : Text :=
  "Loki pagination did not advance past " ++ Text.ofInt cursor
    ++ ", some lines at this timestamp may be missing"

/-- What the journal holds of an event. -/
def ofEvent (scope : Scope) (parent : Option Work) : Event Float → List Notice
  | .clockRead _ | .accepted _ => []
  | .queried asked outcome => [window asked, span (querySpan scope parent asked outcome)]
  | .waited interval _ => [wait interval]
  | .stalled cursor => [warning (stallWarning cursor)]

/-- What the journal holds of some events. -/
def ofEvents (scope : Scope) (parent : Option Work) (events : List (Event Float)) : List Notice :=
  events.flatMap (ofEvent scope parent)

/-- The spans among some notices. -/
def spans (notices : List Notice) : List Span :=
  notices.filterMap fun | span ended => some ended | _ => none

/-- The warnings among some notices. -/
def warnings (notices : List Notice) : List Text :=
  notices.filterMap fun | warning text => some text | _ => none

/-- The windows among some notices. -/
def windows (notices : List Notice) : List Window :=
  notices.filterMap fun | window asked => some asked | _ => none

/-- The waits among some notices. -/
def waits (notices : List Notice) : List Float :=
  notices.filterMap fun | wait seconds => some seconds | _ => none

@[simp] theorem ofEvents_nil (scope : Scope) (parent : Option Work) :
    ofEvents scope parent [] = [] := rfl

@[simp] theorem ofEvents_append (scope : Scope) (parent : Option Work)
    (first second : List (Event Float)) :
    ofEvents scope parent (first ++ second)
      = ofEvents scope parent first ++ ofEvents scope parent second := by
  simp [ofEvents]

end Notice
end RunLog
