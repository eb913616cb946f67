import RunLog.Failure
import RunLog.Json.Basic

/-!
# Requests and answers

The program forms and sends no requests of its own.  It says what it wants asked, and a library
makes a request of that, sends it, follows redirects and reads the answer.  What the library does is
known here by its results only: what a request is called, the request or why there is none, the
answer or why there is none, and what is closed while requests are under way.
-/

namespace RunLog

/-- A name and a password. -/
structure Credentials where
  user : Text
  password : Text
  deriving DecidableEq, Repr

/-- A parameter of a request: a name and a value. -/
abbrev Parameter := Text × Json

/-- What a library is told to ask for. -/
structure Call where
  /-- The URL without parameters. -/
  url : Text
  /-- The parameters. -/
  parameters : List Parameter
  /-- The credentials to present, if any. -/
  credentials : Option Credentials
  /-- The tenant to name, if any. -/
  tenant : Option Text
  /-- Whether certificates are verified. -/
  verify : Bool
  /-- How many seconds an answer may take. -/
  timeout : Float

/-- A request as it is sent. -/
structure Request where
  /-- The URL with its parameters. -/
  url : Text
  /-- The header that proves who is asking. -/
  authorization : Option Text
  /-- The header that names the tenant. -/
  tenant : Option Text
  /-- Whether the certificate of the backend is verified. -/
  verify : Bool
  /-- How many seconds an answer may take. -/
  timeout : Float

/-- The answer to a request. -/
structure Response where
  /-- The status. -/
  status : Int
  /-- The body as text. -/
  text : Text
  /-- The structured value that the body is read as, or why it cannot be read. -/
  json : Except Failure Json

/-- Whether the status is one of success. -/
def Response.isSuccess (response : Response) : Bool :=
  decide (200 ≤ response.status ∧ response.status < 300)

/-- What is closed while a request is under way. -/
structure Closing where
  /-- Whether the connection is closed. -/
  connection : Bool
  /-- Whether the iterator that asked is closed. -/
  iterator : Bool
  deriving DecidableEq, Repr

/-- Nothing is closed. -/
def Closing.nothing : Closing :=
  ⟨false, false⟩

/-- What comes of a request that was sent. -/
structure Delivery where
  /-- The answer, or the failure on the way. -/
  answer : Except Failure Response
  /-- What is closed while the request is under way. -/
  first : Closing
  /-- What is closed during each further request that a redirect leads to, in order. -/
  redirects : List Closing

namespace Delivery

/-- What is closed during each request, in order. -/
def closings (delivery : Delivery) : List Closing :=
  delivery.first :: delivery.redirects

/-- What is closed before the answer comes. -/
def closing (delivery : Delivery) : Closing :=
  ⟨delivery.closings.any Closing.connection, delivery.closings.any Closing.iterator⟩

/-- Without a redirect, what is closed is closed during the one request. -/
@[simp] theorem closing_mk_nil (answer : Except Failure Response) (first : Closing) :
    closing ⟨answer, first, []⟩ = first := by
  simp [closing, closings]

end Delivery

/-- Whatever forms and sends requests. -/
structure Sender (ω : Type) where
  /-- The URL of a plain request for a URL with parameters. -/
  target : Text → List Parameter → Except Failure Text
  /-- The request that a call leads to. -/
  form : Call → ω → Except Failure Request
  /-- The delivery of a request, and the world after it. -/
  send : Request → ω → Delivery × ω
  /-- How many bytes there is room for in one piece where answers are read. -/
  room : Int

end RunLog
