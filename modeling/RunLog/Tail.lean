/-!
# Following a growing log

A log that still grows is asked for again and again: after a window without new lines there is a
wait, and when no line has come for long enough the log is taken to have ended.  Waits are measured
in any units that can be added up and compared with a bound.
-/

namespace RunLog

/-- Units in which waits are measured. -/
class WaitTime (δ : Type) where
  /-- No time. -/
  none : δ
  /-- One time after another. -/
  add : δ → δ → δ
  /-- Whether a bound is reached by a time. -/
  reached : (bound elapsed : δ) → Bool

/-- Seconds. -/
instance : WaitTime Float where
  none := 0
  add elapsed interval := elapsed + interval
  reached bound elapsed := bound ≤ elapsed

/-- How a growing log is followed. -/
structure TailPolicy (δ : Type) where
  /-- How long to wait before asking again. -/
  interval : δ
  /-- How long no line has to come for the log to have ended. -/
  patience : δ
  deriving DecidableEq, Repr

/-- A second between queries, and half a minute of patience. -/
def TailPolicy.standard : TailPolicy Float :=
  ⟨1, 30⟩

end RunLog
