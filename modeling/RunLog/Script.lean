import RunLog.Retriever
import RunLog.StandIn.Http
import RunLog.StandIn.Template

/-!
# Scripted surroundings

A script plays the outside: it holds the readings of the clock, the deliveries of requests or the
batches of queries, and when the iterator is closed during a wait.  It keeps the requests that were
sent.  With it and with stand-ins for the libraries the program runs without a network, a clock or
any waiting.  Waits of a script never fail.
-/

namespace RunLog

/-- What the outside does. -/
structure Script where
  /-- The readings of the clock; the last one is repeated. -/
  readings : List Int
  /-- What comes of the requests, one after the other. -/
  deliveries : List Delivery
  /-- What comes of queries without a client, and whether the iterator is closed meanwhile. -/
  batches : List (Except Failure Batch × Bool)
  /-- The wait of an iterator during which it is closed. -/
  closeAtWait : Option Nat
  /-- The time, as a moment. -/
  now : Moment
  /-- The requests that were sent, the latest first. -/
  sent : List Request

namespace Script

/-- Read the clock. -/
def clock (script : Script) : Int × Script :=
  match script.readings with
  | [] => (0, script)
  | [reading] => (reading, script)
  | reading :: rest => (reading, { script with readings := rest })

/-- How deeply lists and objects may stand inside each other. -/
def depthLimit : Nat := 985

/-- How many bytes there is room for. -/
def room : Int := 0x4000000000

/-- The language of templates, with the limits of the machine that scripts are recorded on. -/
def templates : TemplateEngine :=
  Template.engine ⟨98, 240⟩

/-- The answer with a status and a body. -/
def response (status : Int) (body : Bytes) : Response :=
  .ofBody depthLimit status body

/-- What comes of a request when the script has no delivery left: success, and nothing else. -/
def emptyDelivery : Delivery :=
  ⟨.ok (response 200 (Text.utf8 "\x7b\"status\": \"success\"\x7d")), .nothing, []⟩

/-- Send a request. -/
def send (request : Request) (script : Script) : Delivery × Script :=
  let script := { script with sent := request :: script.sent }
  match script.deliveries with
  | [] => (emptyDelivery, script)
  | delivery :: rest => (delivery, { script with deliveries := rest })

/-- Whatever forms and sends requests. -/
def sender : Sender Script :=
  StandIn.sender room send

/-- Ask for a batch; without one left it is empty. -/
def batch (script : Script) : (Except Failure Batch × Bool) × Script :=
  match script.batches with
  | [] => ((.ok ⟨[], none⟩, false), script)
  | batch :: rest => (batch, { script with batches := rest })

/-- Whether an iterator is closed during a wait. -/
def wait (number : Nat) (_interval : Float) (script : Script) : Except Failure Bool × Script :=
  (.ok (script.closeAtWait == some number), script)

/-- The outside of a retriever. -/
def host : Host Script where
  sender := sender
  clock := clock
  wait := wait
  now script := (script.now, script)

/-- The outside of an iterator that gets its batches from the script. -/
def surroundings : Surroundings Script Float where
  clock := clock
  query _ script := script.batch
  wait := wait

end Script
end RunLog
