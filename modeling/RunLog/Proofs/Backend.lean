import RunLog.Proofs.Paging
import RunLog.Proofs.Requests
import RunLog.Retriever

/-!
# A backend behind a client

A backend serves the stores of a history if it answers the first query with a page of the first
store, the second query with a page of the second one and so on, whatever window is asked for.
Behind a client it looks to an iterator as if the pages came from the stores themselves; a page
whose times have too many digits to be read makes the query fail and changes nothing.
-/

namespace RunLog

/-- A backend that answers the queries of a client for the lines of a scope with pages of stores,
one store after the other; the function tells how many queries a world has seen. -/
structure Serves {ω : Type} (host : Host ω) (client : Client) (scope : Scope) (limit : Nat)
    (history : Nat → Store) (asked : ω → Nat) : Prop where
  /-- The connection is open. -/
  connected : client.connection.closed = false
  /-- Pages hold as many lines as the client asks for. -/
  pageSize : client.pageSize = limit
  /-- The clock does not count as a query. -/
  clock : ∀ world, asked (host.clock world).2 = asked world
  /-- A wait does not count as a query. -/
  wait : ∀ number interval world, asked (host.wait number interval world).2 = asked world
  /-- Every query reaches the backend and is answered with a page of the next store. -/
  answers : ∀ window world, ∃ request delivery response later,
    host.sender.form
        (client.connection.call Client.queryPath (client.queryParameters scope window)) world
        = .ok request
      ∧ host.sender.send request world = (delivery, later)
      ∧ delivery.answer = .ok response
      ∧ delivery.closing = .nothing
      ∧ asked later = asked world + 1
      ∧ response.isSuccess = true
      ∧ response.json = .ok ((history (asked world)).answer window limit)

namespace Serves

open Iterator (Pages)

variable {ω : Type} {host : Host ω} {client : Client} {scope : Scope} {limit : Nat}
  {history : Nat → Store} {asked : ω → Nat}

/-- What comes of a query. -/
theorem query_eq (serves : Serves host client scope limit history asked) (window : Window)
    (world : ω) :
    ∃ later, asked later = asked world + 1
      ∧ (host.surroundings scope).query window ⟨client, world⟩
        = ((Batch.ofResponse host.sender.room limit window
              ((history (asked world)).answer window limit), false),
            ⟨client, later⟩) := by
  obtain ⟨request, delivery, response, later, formed, sent, answered, nothing, counted, success,
    read⟩ := serves.answers window world
  refine ⟨later, counted, ?_⟩
  have same : client.connection.during .nothing = client.connection := by
    simp [Connection.during, Closing.nothing]
  have exchange : client.connection.execute host.sender Client.queryPath
      (client.queryParameters scope window) world
      = ⟨.ok response, .nothing, client.connection, later⟩ := by
    simp [Connection.execute, serves.connected, formed, sent, answered, nothing, same]
  have batch : client.readAnswer host.sender (client.queryParameters scope window) window
        (.ok response)
      = Batch.ofResponse host.sender.room limit window
          ((history (asked world)).answer window limit) := by
    simp [Client.readAnswer, success, read, serves.pageSize]
  have queried : client.query host.sender scope window world
      = ⟨client.readAnswer host.sender (client.queryParameters scope window) window (.ok response),
          .nothing, client, later⟩ := by
    simp only [Client.query, exchange]
  simp only [Host.surroundings, queried, batch]
  rfl

/-- A client whose connection stays as it is, and how many queries its world has seen. -/
def Counts (client : Client) (asked : ω → Nat) (session : Session ω) (count : Nat) : Prop :=
  session.client = client ∧ asked session.world = count

/-- Behind a client, a backend answers with pages. -/
theorem pages (serves : Serves host client scope limit history asked) (positive : 0 < limit) :
    Pages (host.surroundings scope) history limit (Counts client asked) where
  clock := by
    rintro session count ⟨same, counted⟩
    exact ⟨same, (serves.clock session.world).trans counted⟩
  wait := by
    rintro number interval session count ⟨same, counted⟩
    exact ⟨same, (serves.wait number interval session.world).trans counted⟩
  query := by
    rintro window ⟨_, world⟩ count ⟨rfl, rfl⟩
    obtain ⟨later, counted, answered⟩ := serves.query_eq window world
    rw [answered]
    exact ⟨rfl, counted⟩
  page := by
    rintro window ⟨_, world⟩ count batch closes later ⟨rfl, rfl⟩ answer
    obtain ⟨after, -, answered⟩ := serves.query_eq window world
    rw [answered] at answer
    exact Batch.isPage_of_ofResponse positive (congrArg (fun answer => answer.1.1) answer)

end Serves

/-! ## A backend that reads requests -/

/-- How deeply lists and objects may stand inside each other in the answers of such a backend. -/
def Host.answerDepth : Nat := 6

/-- A host whose backend reads from a request which window it is for and answers with a text.  A
world counts the requests, and the clock goes by this count. -/
def Host.answering (clock : Nat → Int) (texts : Nat → Window → Text) : Host Nat where
  sender := StandIn.sender 0x100000 fun request count =>
    (⟨.ok (.ofBody answerDepth 200 (texts count (Window.ofUrl request.url)).utf8), .nothing, []⟩,
      count + 1)
  clock count := (clock count, count)
  wait _ _ count := (.ok false, count)
  now count := (⟨0, none⟩, count)

/-- Such a backend answers the query of a local client with the text for its window. -/
theorem Client.answer_of_answering {client : Client} {scope : Scope}
    (connected : client.connection.closed = false)
    (isLocal : client.connection.url = "http://loki:3100")
    (noCredentials : client.connection.credentials = none)
    (noTenant : client.connection.tenant = none)
    (plain : (LabelQuery.text client.service scope).hasSurrogate = false) (clock : Nat → Int)
    (texts : Nat → Window → Text) (window : Window) (count : Nat) :
    (client.connection.execute (Host.answering clock texts).sender queryPath
      (client.queryParameters scope window) count).answer
        = .ok (.ofBody Host.answerDepth 200 (texts count window).utf8) := by
  obtain ⟨request, formed, isWindow⟩ := exists_request isLocal noCredentials noTenant plain window
  simp [Connection.execute, connected, Host.answering, StandIn.sender, formed, isWindow,
    Except.mapError]

/-- Such a backend serves a local client if the texts are those of pages. -/
theorem Serves.answering {client : Client} {scope : Scope} {limit : Nat} {history : Nat → Store}
    (connected : client.connection.closed = false) (pageSize : client.pageSize = limit)
    (isLocal : client.connection.url = "http://loki:3100")
    (noCredentials : client.connection.credentials = none)
    (noTenant : client.connection.tenant = none)
    (plain : (LabelQuery.text client.service scope).hasSurrogate = false) (clock : Nat → Int)
    {texts : Nat → Window → Text}
    (reads : ∀ count window,
      Json.readWithin Host.answerDepth (Text.ofUtf8 (texts count window).utf8)
        = .ok ((history count).answer window limit)) :
    Serves (Host.answering clock texts) client scope limit history id where
  connected := connected
  pageSize := pageSize
  clock _ := rfl
  wait _ _ _ := rfl
  answers window count := by
    obtain ⟨request, formed, isWindow⟩ :=
      Client.exists_request isLocal noCredentials noTenant plain window
    refine ⟨request, _, .ofBody Host.answerDepth 200 (texts count (Window.ofUrl request.url)).utf8,
      count + 1, ?_, rfl, rfl, Delivery.closing_mk_nil _ _, rfl, rfl, ?_⟩
    · simp [Host.answering, StandIn.sender, formed, Except.mapError]
    · simp only [Response.ofBody, isWindow, reads count window]
      rfl

namespace Store

variable {store : Store} {limit : Nat}

/-- Windows that hold the same lines have the same answer. -/
theorem answer_congr {first second : Window}
    (same : ∀ line ∈ store.lines,
      first.contains line.timestamp = second.contains line.timestamp) :
    store.answer first limit = store.answer second limit := by
  have within : store.within first = store.within second :=
    List.filter_congr fun line present => same line (mem_byTime.mp present)
  simp only [answer, groups, page, within]

/-- Of lines at one time, an answer has all or none. -/
theorem answer_of_atOnce {time : Int} (atOnce : ∀ line ∈ store.lines, line.timestamp = time)
    (window : Window) :
    store.answer window limit
      = if window.contains time then store.answer ⟨time, time + 1⟩ limit
        else store.answer ⟨time, time⟩ limit := by
  split
  · rename_i inside
    apply answer_congr
    intro line present
    rw [atOnce line present, inside]
    exact (decide_eq_true ⟨Int.le_refl time, Int.lt_succ time⟩).symm
  · rename_i outside
    apply answer_congr
    intro line present
    rw [atOnce line present, eq_false_of_ne_true outside]
    simp [Window.contains]

theorem byTime_of_pairwise
    (sorted : store.lines.Pairwise fun left right => left.timestamp ≤ right.timestamp) :
    store.byTime = store.lines :=
  List.mergeSort_of_pairwise (sorted.imp decide_eq_true)

theorem length_atTime_le_lines (store : Store) (time : Int) :
    (store.atTime time).length ≤ store.lines.length := by
  apply Nat.le_trans (List.length_filter_le _ _)
  rw [byTime, List.length_mergeSort]

/-! ### Lines at the seventh nanosecond -/

set_option maxRecDepth 4000 in
/-- One line at the seventh nanosecond. -/
def oneLine : Store where
  streams := [⟨[("job", "a")], [(7, "x")]⟩]
  distinct := by decide +kernel
  inOrder := by decide +kernel
  encodable := by decide +kernel

set_option maxRecDepth 4000 in
/-- A second line of the same stream and a line of another stream at the same time. -/
def threeLines : Store where
  streams := [⟨[("job", "a")], [(7, "x"), (7, "y")]⟩, ⟨[("job", "b")], [(7, "z")]⟩]
  distinct := by decide +kernel
  inOrder := by decide +kernel
  encodable := by decide +kernel

theorem byTime_oneLine : oneLine.byTime = oneLine.lines :=
  byTime_of_pairwise (by decide +kernel)

theorem byTime_threeLines : threeLines.byTime = threeLines.lines :=
  byTime_of_pairwise (by decide +kernel)

/-- The text of an answer, given the texts of its streams. -/
def answerText (streams : Text) : Text :=
  "\x7b\"status\":\"success\",\"data\":\x7b\"resultType\":\"streams\",\"result\":[" ++ streams
    ++ "]\x7d\x7d"

/-- The text of a stream in an answer, given those of its values. -/
def streamText (job values : Text) : Text :=
  "\x7b\"stream\":\x7b\"job\":\"" ++ job ++ "\"\x7d,\"values\":[" ++ values ++ "]\x7d"

end Store
end RunLog
