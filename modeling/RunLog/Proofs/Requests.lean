import RunLog.Client
import RunLog.Proofs.Decimals
import RunLog.Proofs.Texts
import RunLog.StandIn.Http

/-!
# What a request says

The stand-in for the library that forms requests encodes the parameters of a request so that nothing
in them is taken for something else: when the URL is put together they stay as they are, and each of
them can be read back from the URL.  So a backend knows from a request for a page which window is
asked for.
-/

namespace RunLog

/-! ## Encoded texts -/

namespace Text

/-- The characters of a decimal text are unreserved ASCII. -/
theorem unreserved_of_mem_ofInt {number : Int} {point : CodePoint}
    (present : point ∈ ofInt number) : point.val < 0x80 ∧ Percent.isUnreserved point = true := by
  have digits {number : Nat} (present : point ∈ ofNat number) :
      point.val < 0x80 ∧ Percent.isUnreserved point = true := by
    have isDigit := isDigits_ofNat number point present
    refine ⟨?_, by simp [Percent.isUnreserved, isDigit]⟩
    simp only [CodePoint.isAsciiDigit, Bool.and_eq_true, decide_eq_true_eq] at isDigit
    omega
  cases number with
  | ofNat number => exact digits present
  | negSucc number =>
    rcases List.mem_append.mp present with isSign | isDigit
    · rw [List.mem_singleton.mp isSign]
      decide
    · exact digits isDigit

/-- A decimal text can be written as bytes. -/
theorem hasSurrogate_ofInt (number : Int) : (ofInt number).hasSurrogate = false := by
  apply List.any_eq_false.mpr
  intro point present
  obtain ⟨ascii, -⟩ := unreserved_of_mem_ofInt present
  simp only [CodePoint.isSurrogate, Bool.and_eq_true, decide_eq_true_eq]
  omega

end Text

namespace Percent

/-- Whether a code point may stand in an encoded text. -/
def isFormPoint (point : CodePoint) : Bool :=
  (Target.isSentPoint point || point.is '%') && decide (point.val < 0x80) && !point.is '&'
    && !point.is '=' && !point.is '?'

/-- Whether a text is what one byte is encoded as: a code point that stands for itself, or an escape
of a byte that may not. -/
def isFormUnit : Text → Bool
  | [point] => !point.is '%'
  | [percent, high, low] =>
    percent.is '%' && (high.isAsciiLetter || high.isAsciiDigit)
      && (low.isAsciiLetter || low.isAsciiDigit)
      && match high.hexValue?, low.hexValue? with
        | some upper, some lower => !isUnreserved (CodePoint.ofNat (upper * 16 + lower))
        | _, _ => false
  | _ => false

/-- All bytes are encoded as they should be. -/
theorem isFormUnit_encodeForm (byte : UInt8) :
    isFormUnit (encodeForm [byte]) = true ∧ (encodeForm [byte]).all isFormPoint = true := by
  have every : ∀ number < 256, isFormUnit (encodeForm [UInt8.ofNat number]) = true
      ∧ (encodeForm [UInt8.ofNat number]).all isFormPoint = true := by
    decide +kernel
  simpa using every byte.toNat byte.toNat_lt

theorem encodeForm_cons (byte : UInt8) (bytes : Bytes) :
    encodeForm (byte :: bytes) = encodeForm [byte] ++ encodeForm bytes := by
  simp [encodeForm]

theorem isFormPoint_of_mem_encodeForm {bytes : Bytes} {point : CodePoint}
    (present : point ∈ encodeForm bytes) : isFormPoint point = true := by
  induction bytes with
  | nil => cases present
  | cons byte bytes inductionHypothesis =>
    rw [encodeForm_cons, List.mem_append] at present
    rcases present with first | later
    · exact List.all_eq_true.mp (isFormUnit_encodeForm byte).2 point first
    · exact inductionHypothesis later

/-- ASCII characters that are allowed are left alone. -/
theorem encode_utf8 {allowed : CodePoint → Bool} {text : Text}
    (fine : ∀ point ∈ text, point.val < 0x80 ∧ allowed point = true) :
    encode allowed text.utf8 = text := by
  induction text with
  | nil => rfl
  | cons point rest inductionHypothesis =>
    obtain ⟨ascii, isAllowed⟩ := fine point List.mem_cons_self
    have onward := inductionHypothesis fun other present =>
      fine other (List.mem_cons_of_mem _ present)
    have byte : (UInt8.ofNat point.val).toNat = point.val := by
      rw [UInt8.toNat_ofNat']
      omega
    have same : CodePoint.ofNat point.val = point := by
      simp [CodePoint.ofNat]
    have small : UInt8.ofNat point.val < 0x80 := by
      rw [UInt8.lt_iff_toNat_lt, byte]
      exact ascii
    have single : point.utf8 = [UInt8.ofNat point.val] := by
      simp [CodePoint.utf8, ascii]
    rw [Text.utf8_cons, single, encode, List.singleton_append, List.flatMap_cons]
    change encodeByte allowed (UInt8.ofNat point.val) ++ encode allowed (Text.utf8 rest) = _
    rw [onward, encodeByte, byte, same, isAllowed]
    simp [small]

/-- A text of unreserved ASCII characters is encoded as itself. -/
theorem encodeForm_utf8 {text : Text}
    (fine : ∀ point ∈ text, point.val < 0x80 ∧ isUnreserved point = true) :
    encodeForm text.utf8 = text := by
  have every : ∀ number < 0x80, isUnreserved (CodePoint.ofNat number) = true →
      encodeForm [UInt8.ofNat number] = [CodePoint.ofNat number] := by
    decide +kernel
  induction text with
  | nil => rfl
  | cons point rest inductionHypothesis =>
    obtain ⟨ascii, unreserved⟩ := fine point List.mem_cons_self
    have onward := inductionHypothesis fun other present =>
      fine other (List.mem_cons_of_mem _ present)
    have same : CodePoint.ofNat point.val = point := by
      simp [CodePoint.ofNat]
    have single : point.utf8 = [UInt8.ofNat point.val] := by
      simp [CodePoint.utf8, ascii]
    have first := every point.val ascii (same.symm ▸ unreserved)
    rw [Text.utf8_cons, single, List.singleton_append, encodeForm_cons, onward, first, same]
    rfl

/-- Decimal texts are encoded as themselves. -/
theorem encodeForm_ofInt (number : Int) :
    encodeForm (Text.utf8 (Text.ofInt number)) = Text.ofInt number :=
  encodeForm_utf8 fun _ => Text.unreserved_of_mem_ofInt

end Percent

/-! ## Putting a URL together -/

namespace Target

/-- A text that stays as it is when escapes are undone, whatever follows it. -/
def Stays (text : Text) : Prop :=
  ∀ rest, undoEscapes? (text ++ rest) = (undoEscapes? rest).map (text ++ ·)

theorem stays_nil : Stays [] := by
  intro rest
  simp

theorem Stays.append {first second : Text} (stays : Stays first) (staysAfter : Stays second) :
    Stays (first ++ second) := by
  intro rest
  rw [List.append_assoc, stays, staysAfter, Option.map_map]
  congr 1
  funext text
  exact (List.append_assoc first second text).symm

theorem Stays.undoEscapes?_eq {text : Text} (stays : Stays text) :
    undoEscapes? text = some text := by
  simpa [undoEscapes?] using stays []

theorem stays_singleton {point : CodePoint} (noPercent : point.is '%' = false) :
    Stays [point] := by
  intro rest
  match rest with
  | [] | [_] => simp [undoEscapes?]
  | _ :: _ :: _ => simp [undoEscapes?, noPercent]

theorem stays_of_plain {text : Text} (plain : ∀ point ∈ text, point.is '%' = false) :
    Stays text := by
  induction text with
  | nil => exact stays_nil
  | cons point rest inductionHypothesis =>
    exact (stays_singleton (plain point List.mem_cons_self)).append
      (inductionHypothesis fun other present => plain other (List.mem_cons_of_mem _ present))

/-- What a byte is encoded as stays. -/
theorem stays_of_isFormUnit {unit : Text} (isUnit : Percent.isFormUnit unit = true) :
    Stays unit := by
  match unit with
  | [point] => exact stays_singleton (by simpa [Percent.isFormUnit] using isUnit)
  | [percent, high, low] =>
    intro rest
    simp only [Percent.isFormUnit, Bool.and_eq_true] at isUnit
    obtain ⟨⟨⟨isPercent, isHigh⟩, isLow⟩, reserved⟩ := isUnit
    cases upper : high.hexValue? with
    | none => simp [upper] at reserved
    | some upperValue =>
      cases lower : low.hexValue? with
      | none => simp [upper, lower] at reserved
      | some lowerValue =>
        simp only [upper, lower, Bool.not_eq_true'] at reserved
        change undoEscapes? (percent :: high :: low :: rest) = _
        simp only [undoEscapes?, isPercent, isHigh, isLow, upper, lower, reserved, Bool.and_self,
          if_true, Bool.false_eq_true, if_false]
        rfl
  | [] | [_, _] | _ :: _ :: _ :: _ :: _ => simp [Percent.isFormUnit] at isUnit

theorem stays_encodeForm (bytes : Bytes) : Stays (Percent.encodeForm bytes) := by
  induction bytes with
  | nil => exact stays_nil
  | cons byte bytes inductionHypothesis =>
    rw [Percent.encodeForm_cons]
    exact (stays_of_isFormUnit (Percent.isFormUnit_encodeForm byte).1).append inductionHypothesis

/-- Whether a code point may stand in a URL, percent signs included. -/
def isUrlPoint (point : CodePoint) : Bool :=
  (isSentPoint point || point.is '%') && decide (point.val < 0x80)

/-- A URL that stays and holds nothing else is sent as it is. -/
theorem quoteUrl_of_stays {url : Text} (stays : Stays url)
    (sendable : ∀ point ∈ url, isUrlPoint point = true) : quoteUrl url = url := by
  rw [quoteUrl, stays.undoEscapes?_eq]
  apply Percent.encode_utf8
  intro point present
  obtain ⟨isSent, ascii⟩ := Bool.and_eq_true_iff.mp (sendable point present)
  exact ⟨of_decide_eq_true ascii, isSent⟩

/-! ## Parameters -/

/-- A name and a value, encoded. -/
def pair (name value : Text) : Text :=
  Percent.encodeForm name.utf8 ++ "=" ++ Percent.encodeForm value.utf8

/-- The names and values of parameters that are texts, encoded. -/
def form (parameters : List (Text × Text)) : Text :=
  Text.join "&" (parameters.map fun parameter => pair parameter.1 parameter.2)

variable {parameters : List (Text × Text)}

/-- Parameters that can be written as bytes are encoded. -/
theorem encodeParameters?_texts
    (plain : ∀ parameter ∈ parameters,
      parameter.1.hasSurrogate = false ∧ parameter.2.hasSurrogate = false) :
    encodeParameters? (parameters.map fun parameter => (parameter.1, .text parameter.2))
      = some (form parameters) := by
  have flat : ((parameters.map fun parameter => (parameter.1, Json.text parameter.2)).flatMap
      fun parameter => (valueTexts parameter.2).map fun text => (parameter.1, text))
        = parameters := by
    rw [List.flatMap_map]
    exact List.flatMap_singleton' parameters
  have encoded : (parameters.mapM fun parameter => encodePair? parameter.1 parameter.2)
      = some (parameters.map fun parameter => pair parameter.1 parameter.2) := by
    clear flat
    induction parameters with
    | nil => rfl
    | cons first others inductionHypothesis =>
      have onward := inductionHypothesis fun parameter present =>
        plain parameter (List.mem_cons_of_mem _ present)
      obtain ⟨plainName, plainValue⟩ := plain first List.mem_cons_self
      have isPair : encodePair? first.1 first.2 = some (pair first.1 first.2) := by
        simp [encodePair?, pair, Text.utf8?_of_plain plainName, Text.utf8?_of_plain plainValue]
      rw [List.mapM_cons, onward, isPair]
      rfl
  calc encodeParameters? (parameters.map fun parameter => (parameter.1, .text parameter.2))
      = (((parameters.map fun parameter => (parameter.1, Json.text parameter.2)).flatMap
          fun parameter => (valueTexts parameter.2).map fun text => (parameter.1, text)).mapM
          fun parameter => encodePair? parameter.1 parameter.2).map (Text.join "&") := rfl
    _ = some (form parameters) := by
      rw [flat, encoded]
      rfl

theorem isFormPoint_of_mem_pair {name value : Text} {point : CodePoint}
    (present : point ∈ pair name value) :
    Percent.isFormPoint point = true ∨ point.is '=' = true := by
  rw [pair, List.mem_append, List.mem_append] at present
  rcases present with (inName | isEquals) | inValue
  · exact Or.inl (Percent.isFormPoint_of_mem_encodeForm inName)
  · rw [List.mem_singleton.mp isEquals]
    exact Or.inr rfl
  · exact Or.inl (Percent.isFormPoint_of_mem_encodeForm inValue)

theorem stays_pair (name value : Text) : Stays (pair name value) := by
  have staysEquals : Stays "=" := stays_singleton rfl
  exact ((stays_encodeForm _).append staysEquals).append (stays_encodeForm _)

theorem stays_form (parameters : List (Text × Text)) : Stays (form parameters) := by
  have staysSeparator : Stays "&" := stays_singleton rfl
  apply Text.join_closed stays_nil Stays.append staysSeparator
  intro part present
  obtain ⟨parameter, -, rfl⟩ := List.mem_map.mp present
  exact stays_pair parameter.1 parameter.2

/-- Everything in encoded parameters may stand in a URL. -/
theorem isUrlPoint_of_mem_form {point : CodePoint} (present : point ∈ form parameters) :
    isUrlPoint point = true := by
  have isEquals {point : CodePoint} (same : point.is '=' = true) : isUrlPoint point = true := by
    have whole : point = CodePoint.ofChar '=' := Fin.ext (beq_iff_eq.mp same)
    rw [whole]
    rfl
  have sendable : ∀ point ∈ form parameters, isUrlPoint point = true := by
    have separator : (Text.ofString "&").all isUrlPoint = true := rfl
    refine Text.join_closed (P := fun text => ∀ point ∈ text, isUrlPoint point = true)
      (List.forall_mem_nil _) (fun first second => List.forall_mem_append.mpr ⟨first, second⟩)
      (List.all_eq_true.mp separator) fun part among point inPart => ?_
    obtain ⟨parameter, -, rfl⟩ := List.mem_map.mp among
    rcases isFormPoint_of_mem_pair inPart with isForm | same
    · simp only [Percent.isFormPoint, Bool.and_eq_true] at isForm
      exact Bool.and_eq_true_iff.mpr isForm.1.1.1
    · exact isEquals same
  exact sendable point present

/-! ## Reading parameters back -/

/-- The encoded value of the first parameter of a URL with an encoded name. -/
def parameter? (name url : Text) : Option Text :=
  let query := ((Text.splitFirst? '?' url).map (·.2)).getD []
  (Text.splitAll '&' query).findSome? fun written =>
    match Text.splitFirst? '=' written with
    | some (known, value) => if known = name then some value else none
    | none => none

/-- Parameters can be read back from a URL that ends with them. -/
theorem parameter?_form {base : Text} (noQuery : ∀ point ∈ base, point.is '?' = false)
    (nonempty : parameters ≠ []) (name : Text) :
    parameter? name (base ++ "?" ++ form parameters)
      = parameters.findSome? fun parameter =>
          if Percent.encodeForm parameter.1.utf8 = name then
            some (Percent.encodeForm parameter.2.utf8)
          else none := by
  have query : Text.splitFirst? '?' (base ++ "?" ++ form parameters)
      = some (base, form parameters) := by
    rw [List.append_assoc]
    exact Text.splitFirst?_of_clean noQuery (form parameters)
  have parts : Text.splitAll '&' (form parameters)
      = parameters.map fun parameter => pair parameter.1 parameter.2 := by
    apply Text.splitAll_join (by simpa using nonempty)
    intro part present point inPart
    obtain ⟨parameter, -, rfl⟩ := List.mem_map.mp present
    rcases isFormPoint_of_mem_pair inPart with isForm | isEquals
    · simp only [Percent.isFormPoint, Bool.and_eq_true, Bool.not_eq_true'] at isForm
      exact isForm.1.1.2
    · simp only [CodePoint.is, beq_iff_eq] at isEquals
      simp [CodePoint.is, isEquals]
  have values (parameter : Text × Text) :
      Text.splitFirst? '=' (pair parameter.1 parameter.2)
        = some (Percent.encodeForm parameter.1.utf8, Percent.encodeForm parameter.2.utf8) := by
    rw [pair, List.append_assoc]
    refine Text.splitFirst?_of_clean (fun point present => ?_) _
    have isForm := Percent.isFormPoint_of_mem_encodeForm present
    simp only [Percent.isFormPoint, Bool.and_eq_true, Bool.not_eq_true'] at isForm
    exact isForm.1.2
  rw [parameter?, query]
  simp only [Option.map_some, Option.getD_some]
  rw [parts, List.findSome?_map]
  refine congrArg (fun read => parameters.findSome? read) (funext fun parameter => ?_)
  simp only [Function.comp_apply, values]

end Target

/-! ## Requests for pages -/

/-- The window that a URL asks for. -/
def Window.ofUrl (url : Text) : Window :=
  ⟨Numeral.ofText ((Target.parameter? "start" url).getD []),
    Numeral.ofText ((Target.parameter? "end" url).getD [])⟩

namespace Client

open Target (form stays_form quoteUrl_of_stays)

variable {client : Client} {scope : Scope} {window : Window}

/-- The parameters of a query as texts. -/
def queryTexts (client : Client) (scope : Scope) (window : Window) : List (Text × Text) :=
  [("query", LabelQuery.text client.service scope), ("start", Text.ofInt window.start),
    ("end", Text.ofInt window.stop), ("direction", "forward"),
    ("limit", Text.ofInt client.pageSize)]

/-- Where a backend on a machine of its own is asked for pages. -/
def localQuery : Text := "http://loki:3100/loki/api/v1/query_range"

theorem ofUrl_localQuery (client : Client) (scope : Scope) (window : Window) :
    Window.ofUrl (localQuery ++ "?" ++ form (client.queryTexts scope window)) = window := by
  have clean : (localQuery.all fun point => !point.is '?') = true := rfl
  have noQuery : ∀ point ∈ localQuery, point.is '?' = false := by
    simpa using clean
  have nonempty : client.queryTexts scope window ≠ [] := List.cons_ne_nil _ _
  have read := Target.parameter?_form noQuery nonempty
  have start :
      Target.parameter? "start" (localQuery ++ "?" ++ form (client.queryTexts scope window))
        = some (Percent.encodeForm (Text.utf8 (Text.ofInt window.start))) := by
    rw [read]
    rfl
  have stop :
      Target.parameter? "end" (localQuery ++ "?" ++ form (client.queryTexts scope window))
        = some (Percent.encodeForm (Text.utf8 (Text.ofInt window.stop))) := by
    rw [read]
    rfl
  rw [Window.ofUrl, start, stop, Percent.encodeForm_ofInt, Percent.encodeForm_ofInt]
  simp only [Option.getD_some, Numeral.ofText_ofInt]

/-- The parts of the URL of a local query. -/
def localParts : Target.Parts where
  scheme := some "http"
  userInfo := []
  host := "loki"
  port := some 3100
  path := "/loki/api/v1/query_range"
  query := []
  fragment := []

/-- A local query is sent with its parameters as they are encoded. -/
theorem prepare_localQuery (plain : (LabelQuery.text client.service scope).hasSurrogate = false) :
    Target.prepare localQuery (client.queryParameters scope window)
      = .ok (localQuery ++ "?" ++ form (client.queryTexts scope window)) := by
  have encoded : Target.encodeParameters? (client.queryParameters scope window)
      = some (form (client.queryTexts scope window)) := by
    have texts : ∀ parameter ∈ client.queryTexts scope window,
        parameter.1.hasSurrogate = false ∧ parameter.2.hasSurrogate = false := by
      simp only [queryTexts, List.forall_mem_cons]
      exact ⟨⟨rfl, plain⟩, ⟨rfl, Text.hasSurrogate_ofInt _⟩, ⟨rfl, Text.hasSurrogate_ofInt _⟩,
        ⟨rfl, rfl⟩, ⟨rfl, Text.hasSurrogate_ofInt _⟩, List.forall_mem_nil _⟩
    exact Target.encodeParameters?_texts texts
  have trimmed : localQuery.trimStart CodePoint.isBlank = localQuery := rfl
  have notForeign : Target.isForeign localQuery = false := rfl
  have parts : Target.parts localQuery = .ok localParts := rfl
  have assembled : Target.assemble "http" localParts (form (client.queryTexts scope window))
      = Target.quoteUrl (localQuery
        ++ ((Text.ofString "?") ++ form (client.queryTexts scope window)) ++ []) := rfl
  simp only [Target.prepare, trimmed, notForeign, parts, encoded]
  rw [List.append_nil, ← List.append_assoc] at assembled
  have plainBase : ((localQuery ++ "?").all fun point => !point.is '%') = true := rfl
  have sentBase : (localQuery ++ "?").all Target.isUrlPoint = true := rfl
  have staysBase : Target.Stays (localQuery ++ "?") :=
    Target.stays_of_plain fun point present => by
      simpa using List.all_eq_true.mp plainBase point present
  have sent : Target.quoteUrl (localQuery ++ "?" ++ form (client.queryTexts scope window))
      = localQuery ++ "?" ++ form (client.queryTexts scope window) := by
    apply quoteUrl_of_stays (staysBase.append (stays_form _))
    intro point present
    rcases List.mem_append.mp present with inBase | inForm
    · exact List.all_eq_true.mp sentBase point inBase
    · exact Target.isUrlPoint_of_mem_form inForm
  exact congrArg Except.ok (assembled.trans sent)

/-- A client of a local backend, without credentials and without a tenant, sends a request for every
window, and the request says which window it is for. -/
theorem exists_request (isLocal : client.connection.url = "http://loki:3100")
    (noCredentials : client.connection.credentials = none)
    (noTenant : client.connection.tenant = none)
    (plain : (LabelQuery.text client.service scope).hasSurrogate = false) (window : Window) :
    ∃ request, StandIn.form
        (client.connection.call queryPath (client.queryParameters scope window)) = .ok request
      ∧ Window.ofUrl request.url = window := by
  have address : client.connection.address queryPath = localQuery := by
    rw [Connection.address, isLocal]
    rfl
  have sound : StandIn.checkTarget
      (localQuery ++ "?" ++ form (client.queryTexts scope window)) = .ok () := rfl
  have noUser : StandIn.authorization none
      (localQuery ++ "?" ++ form (client.queryTexts scope window)) = .ok none := rfl
  have sendable : StandIn.isSendable
      (localQuery ++ "?" ++ form (client.queryTexts scope window)) = true := rfl
  refine ⟨⟨localQuery ++ "?" ++ form (client.queryTexts scope window), none, none,
    client.connection.verify, client.connection.timeout⟩, ?_, ofUrl_localQuery client scope window⟩
  simp only [StandIn.form, Connection.call, address, prepare_localQuery plain, noCredentials,
    noTenant, StandIn.checkTenant, bind, Except.bind, sound, noUser, sendable]
  rfl

end Client
end RunLog
