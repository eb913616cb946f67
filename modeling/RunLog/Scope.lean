import RunLog.Failure
import RunLog.Time.Moment

/-!
# Scopes

A scope says which log is wanted: the run of a pipeline, perhaps one step of it, and the time in
which its lines were written.  A scope without an end is open; a scope of a run that is not
complete is followed while it grows.
-/

namespace RunLog

/-- Which log is wanted. -/
structure Scope where
  /-- The name of the pipeline. -/
  pipeline : Text
  /-- The number of the run. -/
  run : Int
  /-- The trace that the lines of the run carry. -/
  trace : Text
  /-- The first moment that is wanted. -/
  start : Moment
  /-- The first moment that is not wanted any more; none if there is no such moment. -/
  stop : Option Moment
  /-- Whether the run has finished. -/
  complete : Bool
  /-- The step whose lines are wanted; none for those of the whole run. -/
  step : Option Text
  deriving DecidableEq, Repr

namespace Scope

/-- The nanoseconds of a moment; a moment that universal time cannot show is out of range. -/
def nanos (moment : Moment) : Except Failure Int :=
  match moment.toNanos? with
  | some nanos => .ok nanos
  | none => .error (.malformed .outOfRange)

/-- The nanoseconds of the start. -/
def startNanos (scope : Scope) : Except Failure Int :=
  nanos scope.start

/-- The nanoseconds of the end, if there is one. -/
def stopNanos (scope : Scope) : Except Failure (Option Int) :=
  match scope.stop with
  | none => .ok none
  | some stop => (nanos stop).map some

@[simp] theorem stopNanos_open (scope : Scope) (isOpen : scope.stop = none) :
    scope.stopNanos = .ok none := by
  simp [stopNanos, isOpen]

end Scope
end RunLog
