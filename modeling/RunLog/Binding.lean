import RunLog.Failure
import RunLog.Json.Writer
import RunLog.Time.Moment

/-!
# Bindings

The link to a log is rendered with values that are bound to names.  Some of them come from outside,
for all logs; the others belong to the one log, and these win.
-/

namespace RunLog

/-- What a name is bound to. -/
inductive Binding
  | null
  | bool (value : Bool)
  | int (value : Int)
  | text (value : Text)
  | moment (value : Moment)
  /-- Something whose text cannot be had. -/
  | unreadable (cause : Raised)
  deriving DecidableEq, Repr

/-- The text of a value. -/
def Binding.display : Binding → Except Failure Text
  | null => .ok "None"
  | bool value => .ok (if value then "True" else "False")
  | int value => .ok (Text.ofInt value)
  | text value => .ok value
  | moment value => .ok (value.text " ")
  | unreadable cause => .error (.raised cause)

/-- Values under names; a name is there once. -/
abbrev Bindings := List (Text × Binding)

namespace Bindings

/-- The value of a name. -/
def get? (name : Text) (bindings : Bindings) : Option Binding :=
  (bindings.find? fun (candidate, _) => candidate == name).map (·.2)

/-- Bind a name, also if it was bound before. -/
def set (name : Text) (value : Binding) (bindings : Bindings) : Bindings :=
  if bindings.any fun (candidate, _) => candidate == name then
    bindings.map fun (candidate, old) => (candidate, if candidate == name then value else old)
  else bindings ++ [(name, value)]

/-- Bindings with those of a second list, which win. -/
def update (bindings further : Bindings) : Bindings :=
  further.foldl (fun collected (name, value) => collected.set name value) bindings

end Bindings

/-- The values that belong to one log. -/
structure LocalBindings where
  /-- The trace of the run. -/
  trace : Text
  /-- The span of the run. -/
  span : Text
  /-- When the log starts. -/
  start : Moment
  /-- When the log ends. -/
  stop : Moment
  /-- The name of the service, if it is known. -/
  serviceName : Option Text
  /-- The namespace of the service, if it is known. -/
  serviceNamespace : Option Text
  deriving DecidableEq, Repr

namespace LocalBindings

/-- A text under a name, if there is one. -/
def optional (name : Text) (value : Option Text) : Bindings :=
  (value.map fun value => (name, Binding.text value)).toList

/-- The values under the names that templates know; what is unknown is not bound. -/
def toBindings (bindings : LocalBindings) : Bindings :=
  let always : Bindings :=
    [("traceId", .text bindings.trace), ("spanId", .text bindings.span),
      ("startTime", .moment bindings.start), ("endTime", .moment bindings.stop)]
  always ++ optional "serviceName" bindings.serviceName
    ++ optional "serviceNamespace" bindings.serviceNamespace

end LocalBindings
end RunLog
