import RunLog.Proofs.Discipline
import RunLog.Proofs.Finality

/-!
# Reporting how a log was opened

Opening a log can fail at many points: before there is an iterator, while the first page is asked
for, and in what others provide for the link.  Wherever it fails, the failure is passed on, the span
of the call tells it once, and an iterator that was made for the call is closed, with the stream and
the buffer over it.  The tracer would tell a failure as well, but for opening a log it is asked not
to.
-/

namespace RunLog

/-! ## Spans -/

/-- The pieces of work that open a log. -/
def Work.opensLog : Work → Bool
  | .overallLog | .stepLog => true
  | .loadLogs | .materialize => false

namespace Notice

/-- A piece of work that opened a log was reported by one span, with a status and with the failures
that were recorded. -/
def ReportedOnce (notices : List Notice) (work : Work) (status : Status)
    (recorded : List Failure) : Prop :=
  ∃ span, (Notice.spans notices).filter (·.work.opensLog) = [span]
    ∧ span.work = work ∧ span.status = status ∧ span.recorded = recorded

@[simp] theorem spans_append (first second : List Notice) :
    spans (first ++ second) = spans first ++ spans second := by
  simp [spans]

theorem work_querySpan (scope : Scope) (parent : Option Work) (window : Window)
    (outcome : Except Failure Nat) : (querySpan scope parent window outcome).work = .loadLogs := by
  cases outcome <;> rfl

/-- What happens to an iterator has spans of queries only. -/
theorem work_of_mem_spans {scope : Scope} {parent : Option Work} {events : List (Event Float)} :
    ∀ span ∈ spans (ofEvents scope parent events), span.work = .loadLogs := by
  intro span among
  obtain ⟨notice, happened, found⟩ := List.mem_filterMap.mp among
  obtain ⟨event, -, reported⟩ := List.mem_flatMap.mp happened
  cases event with
  | queried window outcome =>
    rcases List.mem_cons.mp reported with rfl | second
    · cases found
    · cases List.mem_singleton.mp second
      cases found
      exact work_querySpan scope parent window outcome
  | clockRead | accepted => cases reported
  | waited | stalled =>
    cases List.mem_singleton.mp reported
    cases found

/-- A span after what happened to an iterator is the only one of a piece of work that opens a
log. -/
theorem reportedOnce_of_events (scope : Scope) (parent : Option Work)
    (events : List (Event Float)) (span : Span) (opens : span.work.opensLog = true) :
    ReportedOnce (ofEvents scope parent events ++ [.span span]) span.work span.status
      span.recorded := by
  have ofQueries : (spans (ofEvents scope parent events)).filter (·.work.opensLog) = [] :=
    List.filter_eq_nil_iff.mpr fun query among => by simp [work_of_mem_spans query among,
      Work.opensLog]
  refine ⟨span, ?_, rfl, rfl, rfl⟩
  rw [spans_append, List.filter_append, ofQueries, List.nil_append]
  simp [spans, opens]

end Notice

/-! ## Asking for the first page -/

namespace Iterator

variable {ω δ : Type} [WaitTime δ] (env : Surroundings ω δ)

/-- A new iterator opens its first window and asks for a page of it. -/
structure AsksFirst (iterator : Iterator δ) (world : ω) (stop : Option Int) (window : Window)
    (later : ω) : Prop where
  stopNanos : iterator.scope.stopNanos = .ok stop
  opens : ∃ events, newWindowStop env iterator.scope.complete stop world
    = (window.stop, later, events)
  start : window.start = iterator.cursor
  inside : window.start < window.stop

/-- How a new iterator fails to get its first page: the end of its scope is out of range, its query
fails, or an entry of the page cannot be told from others. -/
inductive FirstPageFails (iterator : Iterator δ) (world : ω) : Failure → Prop
  | stop {failure : Failure} (outOfRange : iterator.scope.stopNanos = .error failure) :
    FirstPageFails iterator world failure
  | query {stop : Option Int} {window : Window} {later : ω} {failure : Failure}
      (asks : AsksFirst env iterator world stop window later)
      (answer : (env.query window later).1.1 = .error failure) :
    FirstPageFails iterator world failure
  | entry {stop : Option Int} {window : Window} {later : ω} {batch : Batch} {failure : Failure}
      (asks : AsksFirst env iterator world stop window later)
      (answer : (env.query window later).1 = (.ok batch, false))
      (brokenOff : (acceptAll stop (Entry.sorted batch.entries)
        { iterator with windowStop := some window.stop }).2.2 = some failure) :
    FirstPageFails iterator world failure

variable {env}

/-- Going on with an open window without a wait fails if its query fails or an entry of the page
cannot be accepted, and for nothing else. -/
theorem failure_advanceWindow_iff {stop : Option Int} {windowStop : Int} {iterator : Iterator δ}
    {world : ω} {failure : Failure} :
    (advanceWindow env false stop windowStop iterator world).failure = some failure
      ↔ iterator.cursor < windowStop ∧
        let answer := (env.query ⟨iterator.cursor, windowStop⟩ world).1
        answer.1 = .error failure ∨ ∃ batch, answer = (.ok batch, false)
          ∧ (acceptAll stop (Entry.sorted batch.entries) iterator).2.2 = some failure := by
  rcases Int.lt_or_le iterator.cursor windowStop with inside | past
  · rcases reply : env.query ⟨iterator.cursor, windowStop⟩ world
      with ⟨⟨fault | batch, closes⟩, later⟩
    · simp [advanceWindow, Int.not_le.mpr inside, load_eq, reply, takeReply, inside]
    · cases closes with
      | true => simp [advanceWindow, Int.not_le.mpr inside, load_eq, reply, takeReply]
      | false =>
        simp [advanceWindow, Int.not_le.mpr inside, load_eq, reply, takeReply_page,
          failure_takeIn_false, inside]
  · simp [advanceWindow, past, Int.not_lt.mpr past]

/-- A new iterator opens a window when it is asked for its first page. -/
theorem failure_prefetch {scope : Scope} {policy : TailPolicy δ} {iterator : Iterator δ}
    (started : Iterator.start scope policy = .ok iterator) {stop : Option Int}
    (stopNanos : iterator.scope.stopNanos = .ok stop) {world later : ω} {windowStop : Int}
    {events : List (Event δ)}
    (opens : newWindowStop env iterator.scope.complete stop world = (windowStop, later, events)) :
    (prefetch env iterator world).failure
      = (advanceWindow env false stop windowStop { iterator with windowStop := some windowStop }
          later).failure := by
  obtain ⟨cursor, -, rfl⟩ := eq_of_start started
  simp [prefetch, fetch, stopNanos, fetchWithin, fetchOpen, opens]

/-- A new iterator that is asked for its first page fails in these ways and in no other. -/
theorem failure_prefetch_iff {scope : Scope} {policy : TailPolicy δ} {iterator : Iterator δ}
    (started : Iterator.start scope policy = .ok iterator) {world : ω} {failure : Failure} :
    (prefetch env iterator world).failure = some failure
      ↔ FirstPageFails env iterator world failure := by
  cases stopNanos : iterator.scope.stopNanos with
  | error fault =>
    have fails : (prefetch env iterator world).failure = some fault := by
      obtain ⟨cursor, -, rfl⟩ := eq_of_start started
      simp [prefetch, fetch, stopNanos]
    rw [fails, Option.some.injEq]
    constructor
    · rintro rfl
      exact .stop stopNanos
    · intro pageFails
      cases pageFails with
      | stop outOfRange => exact Except.error.inj (stopNanos.symm.trans outOfRange)
      | query asks | entry asks => cases stopNanos.symm.trans asks.stopNanos
  | ok stop =>
    rcases opens : newWindowStop env iterator.scope.complete stop world
      with ⟨windowStop, later, events⟩
    rw [failure_prefetch started stopNanos opens, failure_advanceWindow_iff]
    constructor
    · rintro ⟨inside, answer | ⟨batch, answer, brokenOff⟩⟩
      · exact .query ⟨stopNanos, ⟨events, opens⟩, rfl, inside⟩ answer
      · exact .entry ⟨stopNanos, ⟨events, opens⟩, rfl, inside⟩ answer brokenOff
    · -- there is one window that the iterator can ask for first
      have sameWindow {other : Option Int} {window : Window} {earlier : ω}
          (asks : AsksFirst env iterator world other window earlier) :
          other = stop ∧ window = ⟨iterator.cursor, windowStop⟩ ∧ earlier = later := by
        obtain ⟨otherStop, ⟨otherEvents, otherOpens⟩, start, -⟩ := asks
        cases Except.ok.inj (stopNanos.symm.trans otherStop)
        obtain ⟨sameStop, sameWorld, -⟩ := by simpa using opens.symm.trans otherOpens
        exact ⟨rfl, by cases window; simp_all, sameWorld.symm⟩
      intro pageFails
      cases pageFails with
      | stop outOfRange => cases stopNanos.symm.trans outOfRange
      | query asks answer =>
        obtain ⟨rfl, rfl, rfl⟩ := sameWindow asks
        exact ⟨asks.inside, Or.inl answer⟩
      | entry asks answer brokenOff =>
        obtain ⟨rfl, rfl, rfl⟩ := sameWindow asks
        exact ⟨asks.inside, Or.inr ⟨_, answer, brokenOff⟩⟩

end Iterator

/-! ## What is given up -/

/-- A buffer that was given up: it is closed, with its stream and its iterator, and whatever is
called on the iterator or done with the buffer, nothing is asked and nothing is waited for. -/
structure Buffer.Released (buffer : Buffer Float) : Prop where
  closed : buffer.closed = true
  stream : buffer.stream.closed = true
  iterator : buffer.stream.iterator.closed = true
  still : ∀ {ω : Type} (env : Surroundings ω Float) (world : ω) (calls : List Iterator.Call),
    let run := Iterator.Run.start buffer.stream.iterator world
    run.calls env calls = run
  unused : ∀ {ω : Type} (env : Surroundings ω Float) (world : ω) (usage : Usage),
    let used := usage.apply env buffer world
    used.buffer.stream.iterator = buffer.stream.iterator ∧ used.world = world
      ∧ Usage.Quiet used.notices

/-- Closing a buffer over a new stream closes everything. -/
theorem Buffer.released_close (iterator : Iterator Float) (extractor : Extractor) :
    (Buffer.start (ByteStream.start iterator extractor)).close.Released where
  closed := rfl
  stream := rfl
  iterator := rfl
  still _ _ calls := Iterator.Run.calls_of_closed rfl rfl calls
  unused env world usage := Usage.apply_of_closed env world usage rfl rfl

namespace Retriever

variable {ω : Type}

/-! ## Where opening a log fails -/

/-- How far opening a log has come. -/
inductive Milestone (ω : Type)
  /-- There is an iterator. -/
  | begun (iterator : Iterator Float)
  /-- The first page is there, in a world. -/
  | paged (world : ω)
  /-- The values that belong to the log are known. -/
  | located (ofLog : LocalBindings)
  /-- The values that the link is rendered with are put together. -/
  | bound (bindings : Bindings)
  /-- The link is rendered. -/
  | linked (bindings : Bindings) (link : Text)

section Points

variable (host : Host ω) (wanted : Wanted) (retriever : Retriever) (world : ω)

/-- The step in which an iterator is asked for the first page of a log. -/
def firstPage (iterator : Iterator Float) : Iterator.Step (Session ω) Float :=
  iterator.prefetch (host.surroundings wanted.scope) ⟨retriever.client, world⟩

/-- Opening a log comes as far as a milestone. -/
inductive Reaches : Milestone ω → Prop
  | begin {iterator : Iterator Float} (isOpen : retriever.closed = false)
      (started : Iterator.start wanted.scope retriever.policy = .ok iterator) :
    Reaches (.begun iterator)
  | page {iterator : Iterator Float} (begun : Reaches (.begun iterator))
      (succeeded : (firstPage host wanted retriever world iterator).failure = none) :
    Reaches (.paged (firstPage host wanted retriever world iterator).world.world)
  | locate {later : ω} {ofLog : LocalBindings} (paged : Reaches (.paged later))
      (known : (localBindings host retriever.client.service wanted later).1 = .ok ofLog) :
    Reaches (.located ofLog)
  | bind {ofLog : LocalBindings} {bindings : Bindings} (located : Reaches (.located ofLog))
      (composed : retriever.provider.compose ofLog = .ok bindings) : Reaches (.bound bindings)
  | link {bindings : Bindings} {link : Text} (bound : Reaches (.bound bindings))
      (rendered : retriever.renderer.link bindings = .ok link) : Reaches (.linked bindings link)

/-- The points where opening a log fails, each with its failure: the retriever is closed, the start
of the scope is out of range, the first page does not come, the times of the log cannot be given,
the provider has no values, the link cannot be rendered, or a value for the header has no text. -/
inductive FailsWith : Failure → Prop
  | closed (isClosed : retriever.closed = true) : FailsWith (.closed .retriever)
  | start {failure : Failure} (isOpen : retriever.closed = false)
      (outOfRange : wanted.scope.startNanos = .error failure) : FailsWith failure
  | page {iterator : Iterator Float} {failure : Failure}
      (begun : Reaches host wanted retriever world (.begun iterator))
      (fails : Iterator.FirstPageFails (host.surroundings wanted.scope) iterator
        ⟨retriever.client, world⟩ failure) : FailsWith failure
  | times {later : ω} {failure : Failure}
      (paged : Reaches host wanted retriever world (.paged later))
      (fails : (localBindings host retriever.client.service wanted later).1 = .error failure) :
    FailsWith failure
  | provider {ofLog : LocalBindings} {failure : Failure}
      (located : Reaches host wanted retriever world (.located ofLog))
      (fails : retriever.provider.bindings = .error failure) : FailsWith failure
  | link {bindings : Bindings} {failure : Failure}
      (bound : Reaches host wanted retriever world (.bound bindings))
      (fails : retriever.renderer.link bindings = .error failure) : FailsWith failure
  | backend {bindings : Bindings} {link : Text} {failure : Failure}
      (linked : Reaches host wanted retriever world (.linked bindings link))
      (fails : Header.textOf "backendName" bindings = .error failure) : FailsWith failure
  | icon {bindings : Bindings} {link backend : Text} {failure : Failure}
      (linked : Reaches host wanted retriever world (.linked bindings link))
      (named : Header.textOf "backendName" bindings = .ok backend)
      (fails : Header.textOf "backend24x24IconUrl" bindings = .error failure) : FailsWith failure

/-- What is left to be done for the header of a log from a milestone on. -/
def Milestone.rest : Milestone ω → Except Failure Header
  | .begun iterator => (prepare host retriever wanted iterator world).outcome
  | .paged later =>
    (localBindings host retriever.client.service wanted later).1.bind
      (Header.create retriever.provider retriever.renderer)
  | .located ofLog => Header.create retriever.provider retriever.renderer ofLog
  | .bound bindings => do
    let link ← retriever.renderer.link bindings
    let backend ← Header.textOf "backendName" bindings
    let icon ← Header.textOf "backend24x24IconUrl" bindings
    return { backend, link, icon }
  | .linked bindings link => do
    let backend ← Header.textOf "backendName" bindings
    let icon ← Header.textOf "backend24x24IconUrl" bindings
    return { backend, link, icon }

end Points

section Failing

variable {host : Host ω} {wanted : Wanted} {retriever : Retriever} {world : ω} {work : Work}
  {iterator : Iterator Float} {failure : Failure}

theorem Reaches.started (begun : Reaches host wanted retriever world (.begun iterator)) :
    Iterator.start wanted.scope retriever.policy = .ok iterator := by
  obtain ⟨-, started⟩ := begun
  exact started

theorem outcome_prepare_of_paged
    (succeeded : (firstPage host wanted retriever world iterator).failure = none) :
    (prepare host retriever wanted iterator world).outcome
      = (Milestone.paged (firstPage host wanted retriever world iterator).world.world).rest host
        wanted retriever world := by
  simp only [firstPage] at succeeded
  simp [prepare, succeeded, Milestone.rest, firstPage]

theorem outcome_prepare_of_failed
    (failed : (firstPage host wanted retriever world iterator).failure = some failure) :
    (prepare host retriever wanted iterator world).outcome = .error failure := by
  simp only [firstPage] at failed
  simp [prepare, failed]

theorem outcome_openWith :
    (openWith host work wanted retriever iterator world).result.outcome
      = (prepare host retriever wanted iterator world).outcome.map fun _ =>
        retriever.logs.length := by
  unfold openWith
  dsimp only
  split <;> simp_all [Except.map]

/-- A log is opened with a new iterator, or refused before there is one. -/
theorem opening_cases (host : Host ω) (work : Work) (wanted : Wanted) (retriever : Retriever)
    (world : ω) :
    (∃ iterator, Reaches host wanted retriever world (.begun iterator)
        ∧ opening host work wanted retriever world
          = openWith host work wanted retriever iterator world)
      ∨ ∃ failure, FailsWith host wanted retriever world failure
        ∧ (∀ iterator, ¬Reaches host wanted retriever world (.begun iterator))
        ∧ opening host work wanted retriever world
          = ⟨⟨retriever, world, [.span (openingSpan work wanted.scope (some failure))],
            .error failure⟩, none⟩ := by
  cases isOpen : retriever.closed with
  | true =>
    refine Or.inr ⟨.closed .retriever, .closed isOpen, ?_, by simp [opening, isOpen]⟩
    rintro iterator ⟨notClosed, -⟩
    exact absurd isOpen (ne_true_of_eq_false notClosed)
  | false =>
    cases started : Iterator.start wanted.scope retriever.policy with
    | ok iterator =>
      exact Or.inl ⟨iterator, .begin isOpen started, by simp [opening, isOpen, started]⟩
    | error failure =>
      refine Or.inr ⟨failure, .start isOpen (map_eq_error.mp started), ?_,
        by simp [opening, isOpen, started]⟩
      rintro iterator ⟨-, begun⟩
      cases started.symm.trans begun

/-- From a milestone on nothing matters but what is left. -/
theorem outcome_of_reaches {milestone : Milestone ω}
    (reached : Reaches host wanted retriever world milestone) :
    (opening host work wanted retriever world).result.outcome
      = (milestone.rest host wanted retriever world).map fun _ => retriever.logs.length := by
  induction reached with
  | begin isOpen started => simp [opening, isOpen, started, outcome_openWith, Milestone.rest]
  | page begun succeeded inductionHypothesis =>
    rw [inductionHypothesis, ← outcome_prepare_of_paged succeeded, Milestone.rest]
  | locate paged known inductionHypothesis =>
    rw [inductionHypothesis, Milestone.rest, known]
    rfl
  | bind located composed inductionHypothesis =>
    rw [inductionHypothesis, Milestone.rest, Header.create, composed]
    rfl
  | link bound rendered inductionHypothesis =>
    rw [inductionHypothesis, Milestone.rest, rendered]
    rfl

/-- What is left after the first page fails at one of the points that come then. -/
theorem failsWith_of_paged {later : ω} (paged : Reaches host wanted retriever world (.paged later))
    (failed : (Milestone.paged later).rest host wanted retriever world = .error failure) :
    FailsWith host wanted retriever world failure := by
  rcases bind_eq_error.mp failed with unknown | ⟨ofLog, known, failed⟩
  · exact .times paged unknown
  have located := Reaches.locate paged known
  rcases bind_eq_error.mp failed with notComposed | ⟨bindings, composed, failed⟩
  · exact .provider located (map_eq_error.mp notComposed)
  have bound := Reaches.bind located composed
  rcases bind_eq_error.mp failed with notRendered | ⟨link, rendered, failed⟩
  · exact .link bound notRendered
  have linked := Reaches.link bound rendered
  rcases bind_eq_error.mp failed with unnamed | ⟨backend, named, failed⟩
  · exact .backend linked unnamed
  rcases bind_eq_error.mp failed with noIcon | ⟨icon, -, impossible⟩
  · exact .icon linked named noIcon
  · cases impossible

/-- Opening a log fails at these points and at no other, with the failure of the point. -/
theorem outcome_opening_iff :
    (opening host work wanted retriever world).result.outcome = .error failure
      ↔ FailsWith host wanted retriever world failure := by
  constructor
  · intro failed
    rcases opening_cases host work wanted retriever world with
      ⟨iterator, begun, eq⟩ | ⟨refusal, fails, -, eq⟩
    · rw [eq, outcome_openWith, map_eq_error] at failed
      cases page : (firstPage host wanted retriever world iterator).failure with
      | some fault =>
        rw [outcome_prepare_of_failed page, Except.error.injEq] at failed
        exact failed ▸ .page begun ((Iterator.failure_prefetch_iff begun.started).mp page)
      | none =>
        rw [outcome_prepare_of_paged page] at failed
        exact failsWith_of_paged (.page begun page) failed
    · rw [eq] at failed
      cases failed
      exact fails
  · intro fails
    cases fails with
    | closed isClosed => simp [opening, isClosed]
    | start isOpen outOfRange =>
      simp [opening, isOpen, Iterator.start, outOfRange, Except.map]
    | page begun fails =>
      rw [outcome_of_reaches begun, Milestone.rest, outcome_prepare_of_failed, Except.map]
      exact (Iterator.failure_prefetch_iff begun.started).mpr fails
    | times paged fails => rw [outcome_of_reaches paged, Milestone.rest, fails]; rfl
    | provider located fails =>
      rw [outcome_of_reaches located, Milestone.rest, Header.create, Provider.compose, fails]; rfl
    | link bound fails => rw [outcome_of_reaches bound, Milestone.rest, fails]; rfl
    | backend linked fails => rw [outcome_of_reaches linked, Milestone.rest, fails]; rfl
    | icon linked named fails =>
      rw [outcome_of_reaches linked, Milestone.rest, named]
      simp [bind, Except.bind, fails, Except.map]

end Failing

/-! ## What opening a log leaves -/

section Leaving

variable (host : Host ω) (wanted : Wanted) (retriever : Retriever) (world : ω)

/-- Opening a log failed cleanly: the one span of the call says so and has recorded the failure
once, no log was added, and an iterator that was made for the call is given up, as it was after it
was asked for the first page. -/
structure FailsCleanly (work : Work) (opened : Opening ω) (failure : Failure) : Prop where
  reported : Notice.ReportedOnce opened.result.notices work (.error failure false) [failure]
  noLog : opened.result.retriever.logs.length = retriever.logs.length
  released : ∀ iterator, Reaches host wanted retriever world (.begun iterator) →
    ∃ buffer, opened.abandoned = some buffer ∧ buffer.Released
      ∧ buffer.stream.iterator = (firstPage host wanted retriever world iterator).iterator.close

/-- A log was opened: the one span of the call says nothing of a failure, nothing is given up, and
the log comes after those that were there, complete if its scope is. -/
structure OpensCleanly (work : Work) (opened : Opening ω) (number : Nat) : Prop where
  reported : Notice.ReportedOnce opened.result.notices work .unset []
  nothingGivenUp : opened.abandoned = none
  isNext : number = retriever.logs.length
  log : ∃ log, opened.result.retriever.logs[number]? = some log
    ∧ log.complete = wanted.scope.complete

end Leaving

section Opening

variable {host : Host ω} {wanted : Wanted} {retriever : Retriever} {world : ω} {work : Work}
  (opens : work.opensLog = true)

include opens in
/-- After what happened to an iterator, a call is reported once by its span. -/
theorem reportedOnce_openingSpan (scope : Scope) (events : List (Event Float))
    (failure : Option Failure) :
    Notice.ReportedOnce (Notice.ofEvents scope (some work) events
        ++ [.span (openingSpan work scope failure)]) work
      (match failure with | some failure => .error failure false | none => .unset)
      failure.toList := by
  have told : let span := openingSpan work scope failure
      span.work = work ∧ span.recorded = failure.toList ∧ span.status
        = match failure with | some failure => .error failure false | none => .unset := by
    cases work with
    | overallLog | stepLog => cases failure <;> exact ⟨rfl, rfl, rfl⟩
    | loadLogs | materialize => cases opens
  obtain ⟨sameWork, sameRecorded, sameStatus⟩ := told
  have once := Notice.reportedOnce_of_events scope (some work) events
    (openingSpan work scope failure) (by rw [sameWork, opens])
  rwa [sameWork, sameRecorded, sameStatus] at once

theorem length_logs_withClient (retriever : Retriever) (client : Client) :
    (retriever.withClient client).logs.length = retriever.logs.length := by
  unfold withClient
  dsimp only
  split <;> simp

theorem iterator_prepare (iterator : Iterator Float) :
    (prepare host retriever wanted iterator world).iterator
      = (firstPage host wanted retriever world iterator).iterator := by
  unfold prepare firstPage
  dsimp only
  split <;> rfl

include opens in
theorem failsCleanly_openWith {iterator : Iterator Float} {failure : Failure}
    (begun : Reaches host wanted retriever world (.begun iterator))
    (failed : (prepare host retriever wanted iterator world).outcome = .error failure) :
    FailsCleanly host wanted retriever world work
      (openWith host work wanted retriever iterator world) failure := by
  simp only [openWith, failed, failureOf]
  refine ⟨reportedOnce_openingSpan opens wanted.scope _ (some failure),
    length_logs_withClient retriever _, fun other otherBegun => ?_⟩
  cases Except.ok.inj (begun.started.symm.trans otherBegun.started)
  refine ⟨_, rfl, Buffer.released_close _ _, ?_⟩
  rw [← iterator_prepare]
  rfl

include opens in
theorem opensCleanly_openWith {iterator : Iterator Float} {header : Header}
    (succeeded : (prepare host retriever wanted iterator world).outcome = .ok header) :
    OpensCleanly wanted retriever work (openWith host work wanted retriever iterator world)
      retriever.logs.length := by
  simp only [openWith, succeeded, failureOf]
  refine ⟨reportedOnce_openingSpan opens wanted.scope _ none, rfl, rfl, ?_⟩
  simp only [getElem?_withClient, List.getElem?_concat_length, Option.map_some]
  split <;> exact ⟨_, rfl, rfl⟩

end Opening

/-- Whoever opens the log of a run or of a step is told a failure, and so is the journal, once.

Opening a log fails exactly at the points there are for it, with the failure of the point, whatever
the outside, the provider and the renderer do.  If it fails, the one span of the call has the status
of an error and has recorded this failure once, and the iterator that was made for the call, if
there was one, is closed and sends no request ever after.  If it succeeds, the one span of the call
has no status and nothing was recorded, and the log is complete if its scope is. -/
theorem opening_reports_and_cleans_up {work : Work} (opens : work.opensLog = true) (host : Host ω)
    (wanted : Wanted) (retriever : Retriever) (world : ω) :
    let opened := opening host work wanted retriever world
    opened.result = openLog host work wanted retriever world
      ∧ (∀ failure, opened.result.outcome = .error failure ↔
        FailsWith host wanted retriever world failure)
      ∧ (∀ failure, opened.result.outcome = .error failure →
        FailsCleanly host wanted retriever world work opened failure)
      ∧ ∀ number, opened.result.outcome = .ok number →
        OpensCleanly wanted retriever work opened number := by
  refine ⟨rfl, fun failure => outcome_opening_iff, fun failure failed => ?_,
    fun number succeeded => ?_⟩
  · rcases opening_cases host work wanted retriever world with
      ⟨iterator, begun, eq⟩ | ⟨refusal, -, notBegun, eq⟩
    · rw [eq, outcome_openWith, map_eq_error] at failed
      rw [eq]
      exact failsCleanly_openWith opens begun failed
    · rw [eq] at failed ⊢
      cases failed
      exact ⟨reportedOnce_openingSpan opens wanted.scope [] (some failure), rfl,
        fun iterator begun => absurd begun (notBegun iterator)⟩
  · rcases opening_cases host work wanted retriever world with
      ⟨iterator, -, eq⟩ | ⟨refusal, -, -, eq⟩
    · rw [eq, outcome_openWith] at succeeded
      obtain ⟨header, prepared, rfl⟩ := map_eq_ok.mp succeeded
      rw [eq]
      exact opensCleanly_openWith opens prepared
    · rw [eq] at succeeded
      cases succeeded

/-- A provider that has no values fails the call when a line is ready already; with a provider that
has some the same log is opened. -/
theorem sameAgain_reports_and_cleans_up :
    let host := Iterator.sameAgain
    let wanted : Wanted := ⟨Scope.firstMicrosecond true, "span"⟩
    let failure : Failure := .raised ⟨.runtime, "no values", none, []⟩
    let providing := retrieverAt "http://loki:3100"
    let failing := { providing with provider := .failing failure }
    (∃ iterator, Reaches host wanted failing 0 (.begun iterator)
        ∧ (firstPage host wanted failing 0 iterator).iterator.ready.map Entry.timestamp = [5])
      ∧ (let opened := opening host .stepLog wanted failing 0
        opened.result.outcome = .error failure ∧ opened.result.world = 1
          ∧ FailsCleanly host wanted failing 0 .stepLog opened failure)
      ∧ let opened := opening host .overallLog wanted providing 0
        opened.result.outcome = .ok 0 ∧ opened.result.world = 1
          ∧ OpensCleanly wanted providing .overallLog opened 0 := by
  intro host wanted failure providing failing
  have failed : (opening host .stepLog wanted failing 0).result.outcome = .error failure
      ∧ (opening host .stepLog wanted failing 0).result.world = 1 := by
    decide +kernel
  have succeeded : (opening host .overallLog wanted providing 0).result.outcome = .ok 0
      ∧ (opening host .overallLog wanted providing 0).result.world = 1 := by
    decide +kernel
  refine ⟨⟨_, .begin rfl rfl, by decide +kernel⟩, ⟨failed.1, failed.2, ?_⟩,
    succeeded.1, succeeded.2, ?_⟩
  · exact (opening_reports_and_cleans_up rfl host wanted failing 0).2.2.1 failure failed.1
  · exact (opening_reports_and_cleans_up rfl host wanted providing 0).2.2.2 0 succeeded.1

end Retriever
end RunLog
