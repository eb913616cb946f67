import RunLog.Json.Basic
import RunLog.Number.Numeral

/-!
# Reading structured values

The grammar is that of RFC 8259 with three names for doubles besides: `NaN`, `Infinity` and
`-Infinity`.  A name that comes twice in an object keeps its first place and its last value.  Two
escaped halves of a surrogate pair become one code point; an escaped half alone stays as it is.
Control characters inside quotes are refused, and so is an integer with more digits than a numeral
may have.  Lists and objects may stand inside each other to a given depth only; a bracket beyond it
ends the reading at once, whatever follows.

Every function takes fuel.  Each call consumes a character of the text or moves to a call that
does, so twice the length of the text is more than enough.
-/

namespace RunLog
namespace Json

/-- Why a text cannot be read. -/
inductive ReadFault
  /-- The text is no value. -/
  | malformed
  /-- Lists and objects stand inside each other too deeply. -/
  | tooDeep
  deriving DecidableEq, Repr

namespace Reader

/-- Whether a code point may stand between tokens. -/
def isSeparator (point : CodePoint) : Bool :=
  point.isOneOf " \t\n\r"

/-- A text after the separators at its start. -/
def skip (text : Text) : Text :=
  text.dropWhile isSeparator

/-- What follows a given start of a text. -/
def after? (start : Text) (text : Text) : Option Text :=
  if start.isPrefixOf text then some (text.drop start.length) else none

/-- The number written by the four hexadecimal digits at the start of a text, and the rest. -/
def unit? : Text → Option (Nat × Text)
  | first :: second :: third :: fourth :: rest => do
    let high ← first.hexValue?
    let middle ← second.hexValue?
    let low ← third.hexValue?
    let last ← fourth.hexValue?
    some (((high * 16 + middle) * 16 + low) * 16 + last, rest)
  | _ => none

/-- What an escape of one character stands for. -/
def simpleEscape? (point : CodePoint) : Option CodePoint :=
  if point.isOneOf "\"\\/" then some point
  else if point.is 'b' then some (.ofNat 0x08)
  else if point.is 'f' then some (.ofNat 0x0C)
  else if point.is 'n' then some (.ofNat 0x0A)
  else if point.is 'r' then some (.ofNat 0x0D)
  else if point.is 't' then some (.ofNat 0x09)
  else none

/-- The code point of a numbered escape, joined with the escape after it when the two are the
halves of a pair, and the rest. -/
def numberedEscape? (text : Text) : Option (CodePoint × Text) := do
  let (high, rest) ← unit? text
  if 0xD800 ≤ high && high ≤ 0xDBFF then
    match (after? "\\u" rest).bind unit? with
    | some (low, rest') =>
      if 0xDC00 ≤ low && low ≤ 0xDFFF then
        some (CodePoint.ofNat (0x10000 + (high - 0xD800) * 0x400 + (low - 0xDC00)), rest')
      else some (CodePoint.ofNat high, rest)
    | none => some (CodePoint.ofNat high, rest)
  else some (CodePoint.ofNat high, rest)

/-- The text up to the closing quote, after what was read of it in reverse, and the rest. -/
def quoted? : Nat → Text → Text → Option (Text × Text)
  | 0, _, _ => none
  | _ + 1, _, [] => none
  | fuel + 1, reversed, point :: rest =>
    if point.is '"' then some (reversed.reverse, rest)
    else if point.is '\\' then
      match rest with
      | [] => none
      | escape :: rest =>
        if escape.is 'u' then
          match numberedEscape? rest with
          | some (code, rest) => quoted? fuel (code :: reversed) rest
          | none => none
        else
          match simpleEscape? escape with
          | some code => quoted? fuel (code :: reversed) rest
          | none => none
    else if point.val < 0x20 then none
    else quoted? fuel (point :: reversed) rest

/-- The digits at the start of a text and the rest. -/
def digits (text : Text) : Text × Text :=
  text.span CodePoint.isAsciiDigit

/-- The digits after a point at the start of a text, if there are any, and the rest. -/
def fraction (text : Text) : Text × Text :=
  match after? "." text with
  | some rest =>
    match digits rest with
    | ([], _) => ([], text)
    | found => found
  | none => ([], text)

/-- The exponent at the start of a text, if there is one, and the rest. -/
def exponent (text : Text) : Option Int × Text :=
  match text with
  | [] => (none, text)
  | mark :: rest =>
    if mark.isOneOf "eE" then
      let (negative, body) := Numeral.sign rest
      match digits body with
      | ([], _) => (none, text)
      | (found, rest) =>
        (some (Numeral.signed negative (Numeral.ofDigits (Numeral.digitValues found))), rest)
    else (none, text)

/-- The number at the start of a text, its sign already read, and the rest. -/
def number? (negative : Bool) (text : Text) : Option (Json × Text) :=
  let (whole, rest) := digits text
  match whole with
  | [] => none
  | first :: others =>
    if first.is '0' && !others.isEmpty then some (.int 0, others ++ rest)
    else
      let (decimals, rest) := fraction rest
      let (power, rest) := exponent rest
      if decimals.isEmpty && power.isNone then
        if Numeral.digitLimit < whole.length then none
        else some (.int (Numeral.signed negative
          (Numeral.ofDigits (Numeral.digitValues whole))), rest)
      else
        some (.float (floatOfDecimal negative
          (Numeral.ofDigits (Numeral.digitValues (whole ++ decimals)))
          (power.getD 0 - decimals.length)), rest)

/-- The value with a name of its own at the start of a text, and the rest. -/
def named? (text : Text) : Option (Json × Text) :=
  let named (name : Text) (value : Json) := (after? name text).map fun rest => (value, rest)
  named "null" .null <|> named "true" (.bool true) <|> named "false" (.bool false)
    <|> named "NaN" (.float (0 / 0)) <|> named "Infinity" (.float (1 / 0))
    <|> named "-Infinity" (.float (-1 / 0))

/-- What was found, or else the fault of a malformed text. -/
def found {α : Type} : Option α → Except ReadFault α
  | some value => .ok value
  | none => .error .malformed

mutual

/-- The value at the start of a text, and the rest; the second argument says how many brackets may
still be opened inside each other. -/
def value : Nat → Nat → Text → Except ReadFault (Json × Text)
  | 0, _, _ => .error .malformed
  | _ + 1, _, [] => .error .malformed
  | fuel + 1, depth, point :: rest =>
    if point.is '"' then
      (found (quoted? fuel [] rest)).map fun (value, rest) => (.text value, rest)
    else if point.isOneOf "[\x7b" then
      match depth with
      | 0 => .error .tooDeep
      | depth + 1 =>
        if point.is '[' then
          match after? "]" (skip rest) with
          | some rest => .ok (.list [], rest)
          | none => (items fuel depth (skip rest)).map fun (items, rest) => (.list items, rest)
        else
          match after? "\x7d" (skip rest) with
          | some rest => .ok (.object [], rest)
          | none =>
            (pairs fuel depth (skip rest)).map fun (pairs, rest) => (.object (members pairs), rest)
    else if point.isAsciiDigit then found (number? false (point :: rest))
    else
      match named? (point :: rest) with
      | some named => .ok named
      | none => if point.is '-' then found (number? true rest) else .error .malformed

/-- The items up to the end of a list, and the rest. -/
def items : Nat → Nat → Text → Except ReadFault (List Json × Text)
  | 0, _, _ => .error .malformed
  | fuel + 1, depth, source =>
    match value fuel depth source with
    | .error fault => .error fault
    | .ok (item, rest) =>
      match skip rest with
      | [] => .error .malformed
      | point :: rest =>
        if point.is ']' then .ok ([item], rest)
        else if point.is ',' then
          (items fuel depth (skip rest)).map fun (items, rest) => (item :: items, rest)
        else .error .malformed

/-- The names and values up to the end of an object, and the rest. -/
def pairs : Nat → Nat → Text → Except ReadFault (List (Text × Json) × Text)
  | 0, _, _ => .error .malformed
  | fuel + 1, depth, source =>
    match (after? "\"" source).bind (quoted? fuel []) with
    | none => .error .malformed
    | some (name, rest) =>
      match (found (after? ":" (skip rest))).bind fun rest => value fuel depth (skip rest) with
      | .error fault => .error fault
      | .ok (value, rest) =>
        match skip rest with
        | [] => .error .malformed
        | point :: rest =>
          if point.is '}' then .ok ([(name, value)], rest)
          else if point.is ',' then
            (pairs fuel depth (skip rest)).map fun (pairs, rest) => ((name, value) :: pairs, rest)
          else .error .malformed

end

end Reader

/-- The value written by a text in which brackets stand inside each other to a given depth at
most. -/
def readWithin (depth : Nat) (text : Text) : Except ReadFault Json :=
  match Reader.value (2 * text.length + 2) depth (Reader.skip text) with
  | .ok (value, rest) => if (Reader.skip rest).isEmpty then .ok value else .error .malformed
  | .error fault => .error fault

end Json
end RunLog
