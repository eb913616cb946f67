import RunLog.Json.Basic
import RunLog.Number.Shortest
import RunLog.Text.Quoted

/-!
# Writing structured values

A structured value has two texts.  `Json.write` gives the form that is exchanged: ASCII, with every
other code point escaped, a space after each comma and colon.  `Json.display` gives the form that
diagnostics show, with texts in quotes of their own, `None` for nothing and capitalised truth
values; a text on its own is displayed as it is.
-/

namespace RunLog
namespace Json

/-- The escape of a number below 65536. -/
def escapedUnit (number : Nat) : Text :=
  "\\u" ++ Text.hexNumber 4 number

/-- How a code point is written between double quotes. -/
def escapedPoint (point : CodePoint) : Text :=
  let number := point.val
  if point.is '"' then "\\\""
  else if point.is '\\' then "\\\\"
  else if number = 0x08 then "\\b"
  else if number = 0x0C then "\\f"
  else if number = 0x0A then "\\n"
  else if number = 0x0D then "\\r"
  else if number = 0x09 then "\\t"
  else if 0x20 ≤ number ∧ number < 0x7F then [point]
  else if number < 0x10000 then escapedUnit number
  else
    let offset := number - 0x10000
    escapedUnit (0xD800 + offset / 0x400) ++ escapedUnit (0xDC00 + offset % 0x400)

/-- A text between double quotes. -/
def writeText (text : Text) : Text :=
  "\"" ++ text.flatMap escapedPoint ++ "\""

mutual

/-- The exchanged form of a value. -/
def write : Json → Text
  | null => "null"
  | bool value => if value then "true" else "false"
  | int value => Text.ofInt value
  | float value => Text.ofFloat "NaN" "Infinity" value
  | text value => writeText value
  | list items => "[" ++ Text.join ", " (writeItems items) ++ "]"
  | object members => "\x7b" ++ Text.join ", " (writeMembers members) ++ "\x7d"

/-- The exchanged forms of the items of a list. -/
def writeItems : List Json → List Text
  | [] => []
  | item :: rest => write item :: writeItems rest

/-- The exchanged forms of the members of an object. -/
def writeMembers : List (Text × Json) → List Text
  | [] => []
  | (name, value) :: rest => (writeText name ++ ": " ++ write value) :: writeMembers rest

end

mutual

/-- The form of a value inside another one, as diagnostics show it. -/
def displayInner : Json → Text
  | null => "None"
  | bool value => if value then "True" else "False"
  | int value => Text.ofInt value
  | float value => Text.ofFloat "nan" "inf" value
  | text value => value.quoted
  | list items => "[" ++ Text.join ", " (displayItems items) ++ "]"
  | object members => "\x7b" ++ Text.join ", " (displayMembers members) ++ "\x7d"

/-- The forms of the items of a list, as diagnostics show them. -/
def displayItems : List Json → List Text
  | [] => []
  | item :: rest => displayInner item :: displayItems rest

/-- The forms of the members of an object, as diagnostics show them. -/
def displayMembers : List (Text × Json) → List Text
  | [] => []
  | (name, value) :: rest =>
    (name.quoted ++ ": " ++ displayInner value) :: displayMembers rest

end

/-- The text of a value, as diagnostics show it. -/
def display : Json → Text
  | text value => value
  | value => displayInner value

end Json
end RunLog
