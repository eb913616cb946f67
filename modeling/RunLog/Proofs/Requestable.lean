import Mathlib.Data.List.Induction
import RunLog.Proofs.Checking
import RunLog.Proofs.Texts

/-!
# URLs that can be requested

A URL is looked at twice.  When a connection is made, it is accepted if it names a host to be
reached by `http` or `https`; its port is not looked at.  When a request is formed, the library
takes the URL apart again and asks for a port that exists.  So there are URLs that are accepted
although no request for them can be formed, among them all that are plain but for their port.
-/

namespace RunLog

namespace Text

/-- A text that ends in something else than what is dropped stays as it is. -/
theorem trimEnd_eq_self {drop : CodePoint → Bool} {text : Text}
    (kept : ∀ point ∈ text.getLast?, drop point = false) : text.trimEnd drop = text := by
  induction text using List.reverseRecOn with
  | nil => rfl
  | append_singleton before last =>
    have keepsLast : drop last = false := kept last (by simp)
    simp [trimEnd, keepsLast]

/-- A text that begins with something else than what is dropped stays as it is. -/
theorem trimStart_eq_self {drop : CodePoint → Bool} {text : Text}
    (kept : ∀ point ∈ text.head?, drop point = false) : text.trimStart drop = text := by
  cases text with
  | nil => rfl
  | cons first rest =>
    apply List.dropWhile_cons_of_neg
    simp [kept first rfl]

end Text

/-! ## Plain URLs -/

/-- A text is the number of a port, in digits. -/
def Text.IsPort (text : Text) : Prop :=
  (∀ point ∈ text, point.isAsciiDigit = true)
    ∧ text.foldl (fun number digit => number * 10 + (digit.val - 0x30)) 0 ≤ 65535

instance (text : Text) : Decidable text.IsPort :=
  inferInstanceAs (Decidable (_ ∧ _))

namespace CodePoint

/-- Whether a code point is an ASCII character that is printed, and no space. -/
def isPrinted (point : CodePoint) : Bool :=
  decide (0x21 ≤ point.val ∧ point.val ≤ 0x7E)

/-- Whether a code point is a letter, a digit, a hyphen or a point. -/
def isHostPoint (point : CodePoint) : Bool :=
  point.isAsciiLetter || point.isAsciiDigit || point.isOneOf "-."

/-- Whether a code point neither ends an authority nor brackets anything in it. -/
def isPortPoint (point : CodePoint) : Bool :=
  point.isPrinted && !point.isOneOf "/?#\\@[]"

theorem isPrinted_of_isHostPoint {point : CodePoint} (isPlain : point.isHostPoint = true) :
    point.isPrinted = true := by
  rcases Bool.or_eq_true_iff.mp isPlain with letterOrDigit | isSign
  · simp only [isAsciiLetter, isAsciiDigit, Bool.or_eq_true, Bool.and_eq_true,
      decide_eq_true_eq] at letterOrDigit
    simp only [isPrinted, decide_eq_true_eq]
    omega
  · exact passes_of_isOneOf rfl isSign

end CodePoint

/-- The URL of a backend that is plain but for what is written where its port belongs. -/
structure PlainUrl where
  /-- Whether the scheme is `https`. -/
  secure : Bool
  /-- The host. -/
  host : Text
  /-- What is written for the port. -/
  port : Text
  /-- The path of the backend. -/
  base : Text
  /-- The host begins with a letter or a digit. -/
  hostBegins : ∃ first ∈ host.head?, (first.isAsciiLetter || first.isAsciiDigit) = true
  /-- The host holds letters, digits, hyphens and points. -/
  hostPlain : ∀ point ∈ host, point.isHostPoint = true
  /-- What is written for the port does not end the authority, and brackets nothing. -/
  portPlain : ∀ point ∈ port, point.isPortPoint = true
  /-- Zeros at its start do not make it longer than a port can be. -/
  portShort : port.head? = some (CodePoint.ofChar '0') → port.length ≤ 5
  /-- The path is printed. -/
  basePlain : ∀ point ∈ base, point.isPrinted = true
  /-- The path begins with a slash. -/
  baseRooted : ∀ point ∈ base.head?, point = CodePoint.ofChar '/'
  /-- The path does not end in a slash. -/
  baseTrimmed : ∀ point ∈ base.getLast?, point.is '/' = false

namespace PlainUrl

variable (plain : PlainUrl)

/-- The scheme. -/
def scheme : Text :=
  if plain.secure then "https" else "http"

/-- The host and the port. -/
def authority : Text :=
  plain.host ++ CodePoint.ofChar ':' :: plain.port

/-- What follows the scheme. -/
def afterScheme : Text :=
  CodePoint.ofChar '/' :: CodePoint.ofChar '/' :: (plain.authority ++ plain.base)

/-- The URL. -/
def url : Text :=
  plain.scheme ++ CodePoint.ofChar ':' :: plain.afterScheme

/-! ### What it is made of -/

theorem host_ne_nil : plain.host ≠ [] := by
  obtain ⟨first, isFirst, -⟩ := plain.hostBegins
  exact List.ne_nil_of_mem (List.mem_of_mem_head? isFirst)

/-- The authority holds no separators. -/
theorem not_is_of_mem_authority {character : Char} (separator : character ∈ "/?#@[]".toList)
    {point : CodePoint} (among : point ∈ plain.authority) : point.is character = false := by
  have others : ("/?#@[]".toList.all fun character =>
      !(CodePoint.ofChar character).isHostPoint && !(CodePoint.ofChar character).isPortPoint
        && !(CodePoint.ofChar ':').is character) = true := rfl
  have other := List.all_eq_true.mp others character separator
  simp only [Bool.and_eq_true, Bool.not_eq_true'] at other
  obtain ⟨⟨notInHost, notInPort⟩, notColon⟩ := other
  rcases List.mem_append.mp among with ofHost | ofRest
  · exact CodePoint.not_is (plain.hostPlain point ofHost) notInHost
  · rcases List.mem_cons.mp ofRest with rfl | ofPort
    · exact notColon
    · exact CodePoint.not_is (plain.portPlain point ofPort) notInPort

theorem not_is_of_mem_host {point : CodePoint} (among : point ∈ plain.host) :
    point.is ':' = false :=
  CodePoint.not_is (plain.hostPlain point among) (by decide)

/-- All of it is printed. -/
theorem isPrinted_of_mem_url {point : CodePoint} (among : point ∈ plain.url) :
    point.isPrinted = true := by
  simp only [url, afterScheme, authority, List.mem_append, List.mem_cons] at among
  rcases among with inScheme | rfl | rfl | rfl | (inHost | rfl | inPort) | inBase
  · unfold scheme at inScheme
    split at inScheme <;> exact List.all_eq_true.mp rfl point inScheme
  · rfl
  · rfl
  · rfl
  · exact CodePoint.isPrinted_of_isHostPoint (plain.hostPlain point inHost)
  · rfl
  · exact (Bool.and_eq_true_iff.mp (plain.portPlain point inPort)).1
  · exact plain.basePlain point inBase

theorem not_isSlash_of_last {point : CodePoint} (isLast : point ∈ plain.url.getLast?) :
    point.is '/' = false := by
  have split : plain.url = (plain.scheme ++ [CodePoint.ofChar ':', CodePoint.ofChar '/',
      CodePoint.ofChar '/'] ++ plain.host ++ [CodePoint.ofChar ':'])
        ++ plain.port ++ plain.base := by
    simp [url, afterScheme, authority]
  rw [split, List.getLast?_append] at isLast
  cases ofBase : plain.base.getLast? with
  | some last =>
    rw [ofBase] at isLast
    cases isLast
    exact plain.baseTrimmed _ ofBase
  | none =>
    rw [ofBase, Option.none_or, List.getLast?_append] at isLast
    cases ofPort : plain.port.getLast? with
    | some last =>
      rw [ofPort] at isLast
      cases isLast
      exact plain.not_is_of_mem_authority (by decide)
        (List.mem_append_right _ (List.mem_cons_of_mem _ (List.mem_of_getLast? ofPort)))
    | none =>
      rw [ofPort, Option.none_or, List.getLast?_concat] at isLast
      cases isLast
      rfl

/-! ### How it is looked at -/

theorem not_isBlank_of_mem_url {point : CodePoint} (among : point ∈ plain.url) :
    point.isBlank = false := by
  have printed := plain.isPrinted_of_mem_url among
  simp only [CodePoint.isPrinted, decide_eq_true_eq] at printed
  simp only [CodePoint.isBlank, Bool.or_eq_false_iff, Bool.and_eq_false_iff,
    decide_eq_false_iff_not, beq_eq_false_iff_ne]
  omega

/-- It is used as it is written. -/
theorem normalize_url : BackendUrl.normalize plain.url = plain.url := by
  have stripped : plain.url.strip = plain.url := by
    rw [Text.strip, Text.trim, Text.trimStart_eq_self, Text.trimEnd_eq_self]
    · exact fun point isLast => plain.not_isBlank_of_mem_url (List.mem_of_getLast? isLast)
    · exact fun point isFirst => plain.not_isBlank_of_mem_url (List.mem_of_mem_head? isFirst)
  rw [BackendUrl.normalize, stripped]
  exact Text.trimEnd_eq_self fun point => plain.not_isSlash_of_last

theorem isBlank_url : plain.url.isBlank = false := by
  refine List.all_eq_false.mpr ⟨CodePoint.ofChar ':', ?_, by decide⟩
  simp [url]

/-- All of it is visible. -/
theorem visible_url : BackendUrl.visible plain.url = plain.url := by
  have printed {point : CodePoint} (among : point ∈ plain.url) : 0x21 ≤ point.val := by
    have isPrinted := plain.isPrinted_of_mem_url among
    simp only [CodePoint.isPrinted, decide_eq_true_eq] at isPrinted
    exact isPrinted.1
  rw [BackendUrl.visible, Text.trimStart_eq_self]
  · refine List.filter_eq_self.mpr fun point among => ?_
    rw [Bool.not_eq_true', Bool.eq_false_iff]
    intro ignored
    let isSmall (point : CodePoint) : Bool := decide (point.val < 0x21)
    have small : isSmall point = true := CodePoint.passes_of_isOneOf rfl ignored
    exact absurd (of_decide_eq_true small) (Nat.not_lt.mpr (printed among))
  · intro point isFirst
    have large := printed (List.mem_of_mem_head? isFirst)
    rw [decide_eq_false_iff_not]
    omega

theorem scheme_append (after : Text) :
    BackendUrl.scheme (plain.url ++ after) = (plain.scheme, plain.afterScheme ++ after) := by
  have clean : ∀ point ∈ plain.scheme, point.is ':' = false := by
    unfold scheme
    split <;> exact Text.splitFirst?_eq_none.mp rfl
  have found := Text.splitFirst?_of_clean clean (plain.afterScheme ++ after)
  rw [BackendUrl.scheme, url, List.append_assoc, List.cons_append, found]
  unfold scheme
  cases plain.secure <;> rfl

/-- The authority ends where the path of the backend or another path begins. -/
theorem authority_append {after : Text}
    (rooted : ∀ point ∈ after.head?, point = CodePoint.ofChar '/') :
    BackendUrl.authority (plain.afterScheme ++ after) = plain.authority := by
  have runs : ∀ point ∈ plain.authority, (!point.isOneOf "/?#") = true := by
    intro point among
    rw [Bool.not_eq_true', Bool.eq_false_iff]
    intro isOne
    obtain ⟨character, isSeparator, same⟩ := List.any_eq_true.mp isOne
    have known : ("/?#".toList.all "/?#@[]".toList.contains) = true := rfl
    have other := plain.not_is_of_mem_authority
      (List.contains_iff_mem.mp (List.all_eq_true.mp known character isSeparator)) among
    exact absurd same (by simp [other])
  have ends : (plain.base ++ after).takeWhile (fun point => !point.isOneOf "/?#") = [] := by
    cases whole : plain.base ++ after with
    | nil => rfl
    | cons first rest =>
      have isSlash : first = CodePoint.ofChar '/' := by
        cases ofBase : plain.base with
        | nil =>
          refine rooted first ?_
          rw [ofBase, List.nil_append] at whole
          rw [whole]
          rfl
        | cons point others =>
          refine plain.baseRooted first ?_
          rw [ofBase, List.cons_append] at whole
          rw [ofBase, (List.cons.inj whole).1]
          rfl
      rw [isSlash]
      exact List.takeWhile_cons_of_neg (by decide)
  have split : plain.afterScheme ++ after = CodePoint.ofChar '/' :: CodePoint.ofChar '/' ::
      (plain.authority ++ (plain.base ++ after)) := by
    simp [afterScheme]
  rw [split, BackendUrl.authority]
  simp only [CodePoint.is_ofChar, Bool.and_self, if_true]
  rw [List.takeWhile_append_of_pos runs, ends, List.append_nil]

/-- The authority is sound, whatever is written for the port. -/
theorem checkAuthority_authority : BackendUrl.checkAuthority plain.authority = .ok () := by
  have without (character : Char) (separator : character ∈ "/?#@[]".toList) :
      plain.authority.any (·.is character) = false :=
    List.any_eq_false.mpr fun point among => by
      simp [plain.not_is_of_mem_authority separator among]
  have unfolded : plain.authority.any
      (fun point => BackendUrl.foldingPoints.contains point.val) = false := by
    refine List.any_eq_false.mpr fun point among folds => ?_
    have beyond : ∀ number ∈ BackendUrl.foldingPoints, 0x7E < number := by decide
    have large := beyond point.val (List.contains_iff_mem.mp folds)
    have printed : point.isPrinted = true :=
      plain.isPrinted_of_mem_url (by simp [url, afterScheme, among])
    simp only [CodePoint.isPrinted, decide_eq_true_eq] at printed
    omega
  simp only [BackendUrl.checkAuthority, without '[' (by decide), without ']' (by decide),
    unfolded]
  rfl

theorem host_authority : BackendUrl.host plain.authority = plain.host := by
  have noAt : BackendUrl.hostAndPort plain.authority = plain.authority := by
    have missing : Text.splitFirst? '@' plain.authority.reverse = none :=
      Text.splitFirst?_eq_none.mpr fun point among =>
        plain.not_is_of_mem_authority (by decide) (List.mem_reverse.mp among)
    simp [BackendUrl.hostAndPort, Text.splitLast?, missing]
  have noBracket : Text.splitFirst? '[' plain.authority = none :=
    Text.splitFirst?_eq_none.mpr fun point => plain.not_is_of_mem_authority (by decide)
  rw [BackendUrl.host, noAt, noBracket]
  dsimp only
  rw [BackendUrl.before, authority, List.takeWhile_append_of_pos]
  · simp [CodePoint.is_ofChar]
  · exact fun point among => by simp [plain.not_is_of_mem_host among]

/-- It is accepted, whatever is written for the port. -/
theorem check_url : BackendUrl.check plain.url = .ok () := by
  have taken : BackendUrl.scheme plain.url = (plain.scheme, plain.afterScheme) := by
    simpa using plain.scheme_append []
  have sound : BackendUrl.authority plain.afterScheme = plain.authority := by
    simpa using @authority_append plain [] (by simp)
  have known : (plain.scheme != Text.ofString "http" && plain.scheme != Text.ofString "https")
      = false := by
    unfold scheme
    cases plain.secure <;> rfl
  have named : plain.host.isEmpty = false := by simpa using plain.host_ne_nil
  simp [BackendUrl.check, visible_url, taken, sound, checkAuthority_authority, host_authority,
    known, named]

end PlainUrl

/-! ## Requests -/

/-- Whether a failure says that a URL is not valid. -/
def Failure.isInvalidUrl : Failure → Bool
  | .request fault => fault.kind == .invalidUrl
  | .raised failure => failure.kind == .transport .invalidUrl
  | _ => false

variable {ω : Type}

/-- A plain URL is valid to the library exactly if the number of a port is written for its port. -/
def Sender.ReadsPorts (sender : Sender ω) : Prop :=
  ∀ (plain : PlainUrl) (path : Text) (call : Call) (world : ω),
    path.head? = some (CodePoint.ofChar '/') → call.url = plain.url ++ path →
    call.credentials = none → call.tenant = none →
    ((∃ failure, failure.isInvalidUrl = true ∧ sender.form call world = .error failure)
      ↔ ¬plain.port.IsPort)

namespace Connection

variable {sender : Sender ω} {connection : Connection} {path : Text} {parameters : List Parameter}
  {world : ω}

/-- No request is formed, since the URL is not valid. -/
def FailsUnsent (sender : Sender ω) (connection : Connection) (path : Text)
    (parameters : List Parameter) (world : ω) : Prop :=
  ∃ failure, failure.isInvalidUrl = true
    ∧ sender.form (connection.call path parameters) world = .error failure
    ∧ connection.execute sender path parameters world
      = ⟨.error failure, .nothing, connection, world⟩

/-- On an open connection that depends on the library alone. -/
theorem failsUnsent_iff (isOpen : connection.closed = false) :
    connection.FailsUnsent sender path parameters world
      ↔ ∃ failure, failure.isInvalidUrl = true
        ∧ sender.form (connection.call path parameters) world = .error failure := by
  constructor
  · rintro ⟨failure, invalid, unformed, -⟩
    exact ⟨failure, invalid, unformed⟩
  · rintro ⟨failure, invalid, unformed⟩
    refine ⟨failure, invalid, unformed, ?_⟩
    simp [execute, isOpen, unformed]

/-- Asking fails with an invalid URL if the request is not formed for that reason, or once it is
formed. -/
theorem answer_invalid_iff (isOpen : connection.closed = false) :
    (∃ failure, failure.isInvalidUrl = true
        ∧ (connection.execute sender path parameters world).answer = .error failure)
      ↔ connection.FailsUnsent sender path parameters world
        ∨ ∃ request failure, sender.form (connection.call path parameters) world = .ok request
          ∧ failure.isInvalidUrl = true
          ∧ (sender.send request world).1.answer = .error failure := by
  rw [failsUnsent_iff isOpen]
  cases formed : sender.form (connection.call path parameters) world with
  | error failure => simp [answer_of_unformed isOpen formed]
  | ok request => simp [answer_of_formed isOpen formed]

/-- A plain URL is accepted as it is written. -/
theorem create_plain (plain : PlainUrl) (verify : Bool) (timeout : Float) :
    create (some plain.url) none none verify timeout
      = .ok ⟨plain.url, none, none, verify, timeout, false⟩ := by
  simp [create, plain.isBlank_url, plain.normalize_url, plain.check_url]

/-- A request on a connection that was made fails with an invalid URL if and only if the library
finds the URL not valid when it forms the request, or after it has sent it.  Where the library reads
ports, a plain URL is accepted whatever is written for its port, and requests fail unsent exactly if
that is no number up to 65535. -/
theorem created_failsUnsent_iff (sender : Sender ω) (verify : Bool) (timeout : Float) :
    (∀ url connection, create url none none verify timeout = .ok connection →
        ∀ path parameters world,
          (∃ failure, failure.isInvalidUrl = true
              ∧ (connection.execute sender path parameters world).answer = .error failure)
            ↔ connection.FailsUnsent sender path parameters world
              ∨ ∃ request failure, sender.form (connection.call path parameters) world = .ok request
                ∧ failure.isInvalidUrl = true
                ∧ (sender.send request world).1.answer = .error failure)
      ∧ (sender.ReadsPorts → ∀ plain : PlainUrl,
        ∃ connection, create (some plain.url) none none verify timeout = .ok connection
          ∧ ∀ path parameters world, path.head? = some (CodePoint.ofChar '/') →
            (connection.FailsUnsent sender path parameters world ↔ ¬plain.port.IsPort)) := by
  refine ⟨fun url connection made path parameters world =>
    answer_invalid_iff (closed_of_create made), fun readsPorts plain =>
      ⟨_, create_plain plain verify timeout, fun path parameters world rooted => ?_⟩⟩
  rw [failsUnsent_iff rfl]
  exact readsPorts plain path _ world rooted rfl rfl rfl

/-! ### Two ports -/

/-- What is written for the port of a URL. -/
def portIn (url : Text) : Text :=
  ((Text.splitFirst? ':' (BackendUrl.authority (BackendUrl.scheme url).2)).map (·.2)).getD []

/-- A sender that finds fault with nothing but ports, and whose requests are answered. -/
def portReading : Sender Unit where
  target url _ := .ok url
  form call _ :=
    if (portIn call.url).IsPort then .ok ⟨call.url, none, call.tenant, call.verify, call.timeout⟩
    else .error (.request ⟨.invalidUrl, "Failed to parse: " ++ call.url⟩)
  send _ world := (⟨.ok (.ofBody 6 200 []), .nothing, []⟩, world)
  room := 0x100000

theorem portIn_append (plain : PlainUrl) {path : Text}
    (rooted : path.head? = some (CodePoint.ofChar '/')) :
    portIn (plain.url ++ path) = plain.port := by
  have found : Text.splitFirst? ':' plain.authority = some (plain.host, plain.port) :=
    Text.splitFirst?_of_clean (fun _ => plain.not_is_of_mem_host) plain.port
  rw [portIn, plain.scheme_append, plain.authority_append (by simp [rooted]), found]
  rfl

theorem portReading_readsPorts : portReading.ReadsPorts := by
  intro plain path call world rooted isUrl _ _
  have form : portReading.form call world = if plain.port.IsPort then
      .ok ⟨call.url, none, call.tenant, call.verify, call.timeout⟩
      else .error (.request ⟨.invalidUrl, "Failed to parse: " ++ call.url⟩) := by
    simp only [portReading, isUrl, portIn_append plain rooted]
  rw [form]
  by_cases isPort : plain.port.IsPort
  · simp [isPort]
  · simp [isPort, Failure.isInvalidUrl]

/-- A local backend, with something written for its port. -/
def localPort (port : Text) (plainPort : ∀ point ∈ port, point.isPortPoint = true)
    (short : port.length ≤ 5) : PlainUrl where
  secure := false
  host := "loki"
  port
  base := []
  hostBegins := ⟨CodePoint.ofChar 'l', rfl, rfl⟩
  hostPlain := List.all_eq_true.mp rfl
  portPlain := plainPort
  portShort _ := short
  basePlain := by simp
  baseRooted := by simp
  baseTrimmed := by simp

/-- A request to the greatest port is not among those that fail unsent, and one to the port after it
is. -/
theorem greatestPort_not_failsUnsent :
    portReading.ReadsPorts
      ∧ (∃ connection, create (some "http://loki:65535") none none true 30 = .ok connection
        ∧ ¬connection.FailsUnsent portReading Client.checkPath [] ())
      ∧ ∃ connection, create (some "http://loki:65536") none none true 30 = .ok connection
        ∧ connection.FailsUnsent portReading Client.checkPath [] () := by
  have onPlain := (created_failsUnsent_iff portReading true 30).2 portReading_readsPorts
  refine ⟨portReading_readsPorts, ?_, ?_⟩
  · obtain ⟨connection, made, failsUnsent_iff⟩ :=
      onPlain (localPort "65535" (List.all_eq_true.mp rfl) (by decide))
    refine ⟨connection, made, fun fails => (failsUnsent_iff _ _ _ rfl).mp fails ?_⟩
    exact ⟨List.all_eq_true.mp rfl, by decide⟩
  · obtain ⟨connection, made, failsUnsent_iff⟩ :=
      onPlain (localPort "65536" (List.all_eq_true.mp rfl) (by decide))
    refine ⟨connection, made, (failsUnsent_iff _ _ _ rfl).mpr fun isPort => ?_⟩
    exact absurd isPort.2 (by decide)

/-- A connection with a port that does not exist. -/
def largePort : Connection :=
  ⟨"http://loki:99999", none, none, true, 30, false⟩

/-- A URL with a port beyond 65535 is accepted, and no request to it is sent. -/
theorem largePort_accepted_but_unsent :
    create (some largePort.url) none none true 30 = .ok largePort
      ∧ ∀ (ω : Type) (room : Int) (send : Request → ω → Delivery × ω) (world : ω),
        (largePort.execute (StandIn.sender room send) Client.checkPath Client.checkParameters
            world).answer
          = .error (.request (.invalidUrl (.port (largePort.address Client.checkPath)))) :=
  ⟨rfl, fun _ _ _ _ => rfl⟩

end Connection
end RunLog
