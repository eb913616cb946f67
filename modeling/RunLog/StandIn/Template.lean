import RunLog.Binding
import RunLog.Failure
import RunLog.Text.Identifier

/-!
# A stand-in for templates

The link to a log is rendered from a template with the values that names are bound to.  The language
of templates belongs to a library; this is a part of it, for running the program against a script.
Nothing that is proved for every template language depends on it.  A template is text with three
kinds of tags in it:

* between double braces, a name, the time of a name in the form of ISO 8601, or the milliseconds of
  a name;
* between a brace and a percent sign, a choice that depends on whether a name is bound;
* between a brace and a number sign, a comment.

Everything else between braces is no template.  A hyphen beside the braces of a tag drops the white
space on that side of it; a plus sign there means nothing.  Line ends are normalised, and one at the
very end is dropped.

Some names stand for a value or a tool of the language without being bound.  Using any other name
that is not bound is a failure, except in a choice.
-/

namespace RunLog

namespace Template

/-- What a tag puts in its place. -/
inductive Expression
  /-- The value of a name. -/
  | value (name : Text)
  /-- The time of a name in the form of ISO 8601. -/
  | isoTime (name : Text)
  /-- The milliseconds of a name. -/
  | millis (name : Text)
  deriving DecidableEq, Repr

/-- A part of a template as it is written. -/
inductive Token
  | text (value : Text)
  | expression (expression : Expression)
  | ifDefined (name : Text)
  | otherwise
  | endIf
  deriving DecidableEq, Repr

end Template

/-- A template. -/
inductive Template
  /-- Nothing more. -/
  | done
  /-- Text and what follows it. -/
  | text (value : Text) (rest : Template)
  /-- A value and what follows it. -/
  | expression (expression : Template.Expression) (rest : Template)
  /-- One of two templates, and what follows. -/
  | choice (name : Text) (bound unbound rest : Template)
  deriving DecidableEq, Repr

namespace Template

/-! ## Reading -/

/-- A text whose line ends are line feeds. -/
def normalizeLines : Text → Text
  | [] => []
  | point :: rest =>
    if point.is '\r' then
      match rest with
      | next :: after =>
        if next.is '\n' then CodePoint.ofChar '\n' :: normalizeLines after
        else CodePoint.ofChar '\n' :: normalizeLines (next :: after)
      | [] => [CodePoint.ofChar '\n']
    else point :: normalizeLines rest

/-- A text without a line feed at its end. -/
def dropLastLine (text : Text) : Text :=
  if (text.getLast?.map (·.is '\n')).getD false then text.dropLast else text

/-- The words and signs of a tag, white space left out; the word so far comes in reverse. -/
def words : Text → Text → List Text
  | word, [] => if word.isEmpty then [] else [word.reverse]
  | word, point :: rest =>
    if point.continuesIdentifier then words (point :: word) rest
    else
      let others := if point.isBlank then words [] rest else [point] :: words [] rest
      if word.isEmpty then others else word.reverse :: others

/-- Whether a word is a name.  There is one word that is not, although it looks like one. -/
def isName (word : Text) : Bool :=
  word.isIdentifier && word != Text.ofString "not"

/-- The expression of a tag. -/
def expression? (tag : List Text) : Option Expression :=
  match tag with
  | [] => none
  | first :: rest =>
    if isName first then
      if rest.isEmpty then some (.value first)
      else if rest == ([".", "isoformat", "(", ")"] : List String).map Text.ofString then
        some (.isoTime first)
      else none
    else
      match rest with
      | name :: rest =>
        if first == Text.ofString "(" && isName name
            && rest == ([".", "timestamp", "(", ")", "*", "1000", ")", "|", "int"] :
              List String).map Text.ofString then
          some (.millis name)
        else none
      | [] => none

/-- The token of a tag that makes a choice. -/
def choice? (tag : List Text) : Option Token :=
  if tag == [Text.ofString "else"] then some .otherwise
  else if tag == [Text.ofString "endif"] then some .endIf
  else
    match tag with
    | [first, name, second, third] =>
      if first == Text.ofString "if" && isName name && second == Text.ofString "is"
          && third == Text.ofString "defined" then some (.ifDefined name)
      else none
    | _ => none

/-- What stands before the first of two characters that follow each other, and what stands after
them. -/
def cut? (first second : Char) : Text → Option (Text × Text)
  | [] => none
  | [_] => none
  | point :: next :: rest =>
    if point.is first && next.is second then some ([], rest)
    else (cut? first second (next :: rest)).map fun (before, after) => (point :: before, after)

/-- A tag. -/
structure Tag where
  /-- What the tag says; a comment says nothing. -/
  token : Option Token
  /-- Whether white space before the tag is dropped. -/
  trimsBefore : Bool
  /-- Whether white space after the tag is dropped. -/
  trimsAfter : Bool
  deriving DecidableEq, Repr

/-- Whether there is a hyphen at the start of a text, and the text without the sign at its start. -/
def openingSign : Text → Bool × Text
  | [] => (false, [])
  | sign :: rest => if sign.isOneOf "+-" then (sign.is '-', rest) else (false, sign :: rest)

/-- A text without the sign at its end, if it is one of those given, and whether it is a hyphen. -/
def closingSign (signs : String) (text : Text) : Text × Bool :=
  match text.getLast? with
  | some sign => if sign.isOneOf signs then (text.dropLast, sign.is '-') else (text, false)
  | none => (text, false)

/-- The tag at the start of a text, and the rest.  The braces of a comment at the very end of a text
need not be closed. -/
def tag? : Text → Option (Tag × Text)
  | _ :: kind :: rest =>
    let (trimsBefore, rest) := openingSign rest
    if kind.is '{' then
      (cut? '}' '}' rest).bind fun (inside, after) =>
        let (inside, trimsAfter) := closingSign "-" inside
        (expression? (words [] inside)).map fun found =>
          (⟨some (.expression found), trimsBefore, trimsAfter⟩, after)
    else if kind.is '%' then
      (cut? '%' '}' rest).bind fun (inside, after) =>
        let (inside, trimsAfter) := closingSign "+-" inside
        (choice? (words [] inside)).map fun found => (⟨some found, trimsBefore, trimsAfter⟩, after)
    else if rest.isEmpty then some (⟨none, trimsBefore, false⟩, [])
    else
      (cut? '#' '}' rest).map fun (inside, after) =>
        (⟨none, trimsBefore, (closingSign "-" inside).2⟩, after)
  | _ => none

/-- Whether a text begins with a tag. -/
def beginsTag : Text → Bool
  | point :: next :: _ => point.is '{' && next.isOneOf "\x7b%#"
  | _ => false

/-- The text up to the first tag, and the rest. -/
def plainText : Text → Text × Text
  | [] => ([], [])
  | point :: rest =>
    if beginsTag (point :: rest) then ([], point :: rest)
    else
      let (before, after) := plainText rest
      (point :: before, after)

/-- The tokens of a text; the first argument bounds their number. -/
def tokens? : Nat → Text → Option (List Token)
  | 0, _ => none
  | fuel + 1, source =>
    let (plain, rest) := plainText source
    if rest.isEmpty then some [.text plain]
    else
      match tag? rest with
      | none => none
      | some (tag, rest) =>
        let plain := if tag.trimsBefore then plain.trimEnd CodePoint.isBlank else plain
        let rest := if tag.trimsAfter then rest.trimStart CodePoint.isBlank else rest
        (tokens? fuel rest).map fun others => .text plain :: tag.token.toList ++ others

/-- Where reading a part of a template stops. -/
inductive Stop
  | atEnd
  | atOtherwise
  | atEndIf
  deriving DecidableEq, Repr

/-- The template at the start of some tokens, where it stops, and the tokens after that; the first
argument bounds the steps. -/
def build? : Nat → List Token → Option (Template × Stop × List Token)
  | 0, _ => none
  | _ + 1, [] => some (done, .atEnd, [])
  | _ + 1, .otherwise :: rest => some (done, .atOtherwise, rest)
  | _ + 1, .endIf :: rest => some (done, .atEndIf, rest)
  | fuel + 1, .text value :: rest =>
    (build? fuel rest).map fun (template, stop) => (text value template, stop)
  | fuel + 1, .expression found :: rest =>
    (build? fuel rest).map fun (template, stop) => (expression found template, stop)
  | fuel + 1, .ifDefined name :: rest =>
    match build? fuel rest with
    | some (bound, .atEndIf, rest) =>
      (build? fuel rest).map fun (template, stop) => (choice name bound done template, stop)
    | some (bound, .atOtherwise, rest) =>
      match build? fuel rest with
      | some (unbound, .atEndIf, rest) =>
        (build? fuel rest).map fun (template, stop) => (choice name bound unbound template, stop)
      | _ => none
    | _ => none

/-- The tokens of a template as it is written; none if a tag is not one of a template. -/
def read? (source : Text) : Option (List Token) :=
  let source := dropLastLine (normalizeLines source)
  tokens? (source.length + 1) source

/-- The template that tokens are; none if choices are not closed or not opened. -/
def ofTokens? (tokens : List Token) : Option Template :=
  match build? (tokens.length + 1) tokens with
  | some (template, .atEnd, _) => some template
  | _ => none

/-- How many choices stand inside each other at most. -/
def depth (tokens : List Token) : Nat :=
  (tokens.foldl (fun (inside, deepest) token =>
    match token with
    | .ifDefined _ => (inside + 1, max (inside + 1) deepest)
    | .endIf => (inside - 1, deepest)
    | _ => (inside, deepest)) (0, 0)).2

/-- How many choices may stand inside each other. -/
structure Limits where
  /-- In a template that is rendered. -/
  levels : Nat
  /-- While a template is read. -/
  depth : Nat

/-- A failure of a template. -/
def fault (text : Text) : Failure :=
  .raised ⟨.template, text, none, []⟩

/-- The template that a text is, or the failure that it is none. -/
def compile (limits : Limits) (source : Text) : Except Failure Template :=
  match read? source with
  | none => .error (fault [])
  | some tokens =>
    if limits.depth < depth tokens then .error (.malformed .tooDeep)
    else
      match ofTokens? tokens with
      | none => .error (fault [])
      | some template =>
        if limits.levels < depth tokens then .error (.malformed .tooManyLevels) else .ok template

/-! ## Rendering -/

/-- What a name stands for. -/
inductive Meaning
  /-- A value. -/
  | binding (value : Binding)
  /-- A tool of the language, which can only be shown. -/
  | tool (shown : Text)
  deriving DecidableEq, Repr

/-- The text of what a name stands for. -/
def Meaning.display : Meaning → Except Failure Text
  | binding value => value.display
  | tool shown => .ok shown

/-- The values that some names always have. -/
def constants : Bindings :=
  [("true", .bool true), ("false", .bool false), ("none", .null), ("True", .bool true),
    ("False", .bool false), ("None", .null)]

/-- The name of the template itself. -/
def ownName : Text := "self"

/-- How the template itself is shown. -/
def ownText : Text := "<TemplateReference None>"

/-- The tools that some names stand for unless they are bound, as they are shown. -/
def tools : List (Text × Text) :=
  [("range", "<class 'range'>"), ("dict", "<class 'dict'>"),
    ("cycler", "<class 'jinja2.utils.Cycler'>"), ("joiner", "<class 'jinja2.utils.Joiner'>"),
    ("namespace", "<class 'jinja2.utils.Namespace'>"),
    ("lipsum", "<function generate_lorem_ipsum>")]

/-- What a name stands for in a template: a constant or the template itself, or else what it is
bound to, or else a tool. -/
def meaning? (name : Text) (bindings : Bindings) : Option Meaning :=
  if name == ownName then some (.tool ownText)
  else
    match (constants.get? name).orElse fun _ => bindings.get? name with
    | some value => some (.binding value)
    | none =>
      (tools.find? fun (candidate, _) => candidate == name).map fun (_, shown) => .tool shown

/-- What a name stands for in a template, or the failure that it is not bound. -/
def meaning (name : Text) (bindings : Bindings) : Except Failure Meaning :=
  match meaning? name bindings with
  | some meaning => .ok meaning
  | none => .error (fault (name.quoted ++ " is undefined"))

/-- What a tag puts in its place. -/
def evaluate (bindings : Bindings) : Expression → Except Failure Text
  | .value name => do
    (← meaning name bindings).display
  | .isoTime name => do
    let .binding (.moment moment) ← meaning name bindings | throw (fault [])
    return moment.text "T"
  | .millis name => do
    let .binding (.moment moment) ← meaning name bindings | throw (fault [])
    let some millis := moment.toMillis? | throw (fault [])
    return Text.ofInt millis

/-- The text of a template with bindings. -/
def render (bindings : Bindings) : Template → Except Failure Text
  | done => .ok []
  | text value rest => (render bindings rest).map (value ++ ·)
  | expression found rest => do
    let first ← evaluate bindings found
    let after ← render bindings rest
    return first ++ after
  | choice name bound unbound rest => do
    let first ← if (meaning? name bindings).isSome then render bindings bound
      else render bindings unbound
    let after ← render bindings rest
    return first ++ after

/-- What makes of the text of a template something that renders it. -/
def engine (limits : Limits) (source : Text) :
    Except Failure (Bindings → Except Failure Text) :=
  (compile limits source).map fun template bindings => template.render bindings

end Template
end RunLog
