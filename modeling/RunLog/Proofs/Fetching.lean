import RunLog.Proofs.Trace

/-!
# What a fetch asks

A fetch asks for one page at most.  What it does before, making up for a wait and opening the first
window, and what it does after the page came do not depend on how pages are answered.  A fetch
therefore differs between surroundings that differ in their answers only where the answers to its
one question differ.

A query that fails leaves an iterator that asks the same question again.  A fetch that puts a wait
off differs from one that waits in nothing but the wait.  A wait that fails is the last thing that
happens in a fetch.
-/

namespace RunLog

/-- Whether an event is a query that failed. -/
def Event.isFailedQuery {δ : Type} : Event δ → Bool
  | .queried _ (.error _) => true
  | _ => false

/-- Whether an event is a wait that failed. -/
def Event.isFailedWait {δ : Type} : Event δ → Bool
  | .waited _ (.error _) => true
  | _ => false

namespace Iterator

variable {ω δ : Type}

/-- Whether a wait failed. -/
def waitFailed (events : List (Event δ)) : Bool :=
  events.any Event.isFailedWait

@[simp] theorem waitFailed_nil : waitFailed ([] : List (Event δ)) = false := rfl

@[simp] theorem waitFailed_append (first second : List (Event δ)) :
    waitFailed (first ++ second) = (waitFailed first || waitFailed second) :=
  List.any_append

@[simp] theorem waitFailed_map_accepted (taken : List Entry) :
    waitFailed (taken.map (Event.accepted (δ := δ))) = false := by
  simp [waitFailed, Event.isFailedWait]

theorem waitFailed_newWindowStop (env : Surroundings ω δ) (complete : Bool) (stop : Option Int)
    (world : ω) : waitFailed (newWindowStop env complete stop world).2.2 = false := by
  unfold newWindowStop
  split <;> rfl

theorem waitFailed_of_opening {env : Surroundings ω δ} {complete : Bool} {stop : Option Int}
    {world later : ω} {windowStop : Int} {events : List (Event δ)}
    (opening : newWindowStop env complete stop world = (windowStop, later, events)) :
    waitFailed events = false := by
  simpa [opening] using waitFailed_newWindowStop env complete stop world

/-- Events without the queries that failed. -/
def answered (events : List (Event δ)) : List (Event δ) :=
  events.filter fun event => !event.isFailedQuery

@[simp] theorem answered_append (first second : List (Event δ)) :
    answered (first ++ second) = answered first ++ answered second := by
  simp [answered]

@[simp] theorem answered_map_accepted (taken : List Entry) :
    answered (taken.map (Event.accepted (δ := δ))) = taken.map .accepted := by
  simp [answered, Event.isFailedQuery]

theorem answered_newWindowStop (env : Surroundings ω δ) (complete : Bool) (stop : Option Int)
    (world : ω) :
    answered (newWindowStop env complete stop world).2.2
      = (newWindowStop env complete stop world).2.2 := by
  unfold newWindowStop
  split <;> rfl

theorem answered_of_opening {env : Surroundings ω δ} {complete : Bool} {stop : Option Int}
    {world later : ω} {windowStop : Int} {events : List (Event δ)}
    (opening : newWindowStop env complete stop world = (windowStop, later, events)) :
    answered events = events := by
  simpa [opening] using answered_newWindowStop env complete stop world

theorem answered_openNext (env : Surroundings ω δ) (stop : Option Int) (iterator : Iterator δ)
    (world : ω) :
    answered (openNext env stop iterator world).events
      = (openNext env stop iterator world).events := by
  rw [openNext_eq]
  exact answered_newWindowStop env _ stop world

theorem answered_follow (next : Int) (iterator : Iterator δ) (world : ω) :
    answered (follow next iterator world).events = (follow next iterator world).events := by
  rw [follow_eq]
  split <;> rfl

/-- What is not accepted leaves the iterator as it was. -/
theorem eq_of_none_taken {stop : Option Int} {entries : List Entry} {iterator next : Iterator δ}
    (acceptance : acceptAll stop entries iterator = (next, [], none)) : next = iterator := by
  induction entries generalizing iterator with
  | nil =>
    unfold acceptAll at acceptance
    simpa using (congrArg Prod.fst acceptance).symm
  | cons entry rest inductionHypothesis =>
    unfold acceptAll at acceptance
    cases accepted : iterator.accept stop entry with
    | error failure => simp [accepted] at acceptance
    | ok answer =>
      obtain ⟨middle, wasAccepted⟩ := answer
      rcases later : acceptAll stop rest middle with ⟨last, taken, failure⟩
      simp only [accepted, later, Prod.mk.injEq] at acceptance
      obtain ⟨rfl, noneTaken, rfl⟩ := acceptance
      cases wasAccepted with
      | true => simp at noneTaken
      | false =>
        simp only [Bool.false_eq_true, if_false] at noneTaken
        rw [inductionHypothesis (noneTaken ▸ later)]
        unfold accept at accepted
        split at accepted
        · simpa using accepted.symm
        · split at accepted
          · simp at accepted
          · split at accepted <;> simp at accepted
            exact accepted.symm

/-- Entries with fingerprints are accepted or passed over. -/
theorem no_failure_of_fingerprints {stop : Option Int} {entries : List Entry}
    {iterator : Iterator δ}
    (fingerprints : ∀ entry ∈ entries, ∃ fingerprint, entry.fingerprint = .ok fingerprint) :
    (acceptAll stop entries iterator).2.2 = none := by
  induction entries generalizing iterator with
  | nil => rfl
  | cons entry rest inductionHypothesis =>
    rw [List.forall_mem_cons] at fingerprints
    obtain ⟨⟨fingerprint, found⟩, fingerprintsAfter⟩ := fingerprints
    obtain ⟨answer, accepted⟩ : ∃ answer, iterator.accept stop entry = .ok answer := by
      unfold accept
      split
      · exact ⟨_, rfl⟩
      · simp only [found]
        split <;> exact ⟨_, rfl⟩
    unfold acceptAll
    simpa only [accepted] using inductionHypothesis fingerprintsAfter

/-! ## The reply to a question -/

variable [WaitTime δ] {env : Surroundings ω δ} {stop : Option Int} {windowStop : Int}
  {iterator : Iterator δ} {world : ω}

/-- Take in the reply to a query. -/
def takeReply (env : Surroundings ω δ) (mayWait : Bool) (stop : Option Int) (windowStop : Int)
    (iterator : Iterator δ) (reply : (Except Failure Batch × Bool) × ω) : Step ω δ :=
  let window : Window := ⟨iterator.cursor, windowStop⟩
  let iterator := if reply.1.2 then iterator.close else iterator
  match reply.1.1 with
  | .error failure => ⟨iterator, reply.2, [.queried window (.error failure)], some failure⟩
  | .ok batch =>
    let event := Event.queried window (.ok batch.entries.length)
    if reply.1.2 then ⟨iterator, reply.2, [event], none⟩
    else (takeIn env mayWait stop windowStop batch iterator reply.2).after [event]

theorem load_eq (mayWait : Bool) :
    load env mayWait stop windowStop iterator world
      = takeReply env mayWait stop windowStop iterator
        (env.query ⟨iterator.cursor, windowStop⟩ world) := rfl

omit [WaitTime δ] in
@[simp] theorem failure_openNext : (openNext env stop iterator world).failure = none := by
  rw [openNext_eq]

omit [WaitTime δ] in
theorem waitFailed_openNext : waitFailed (openNext env stop iterator world).events = false := by
  rw [openNext_eq]
  exact waitFailed_newWindowStop env _ stop world

/-- What can come of a wait: it fails, or the iterator is closed meanwhile, or the next window is
opened. -/
theorem waitThenOpen_cases (env : Surroundings ω δ) (stop : Option Int) (iterator : Iterator δ)
    (world : ω) :
    (∃ failure later, waitThenOpen env stop iterator world
        = ⟨iterator.countWait, later, [.waited iterator.policy.interval (.error failure)],
          some failure⟩)
      ∨ (∃ later, waitThenOpen env stop iterator world
        = ⟨iterator.countWait.close, later, [.waited iterator.policy.interval (.ok true)], none⟩)
      ∨ ∃ later, waitThenOpen env stop iterator world
        = (openNext env stop iterator.countWait.passInterval later).after
            [.waited iterator.policy.interval (.ok false)] := by
  rcases answer : env.wait (iterator.waits + 1) iterator.policy.interval world
    with ⟨failure | closes, later⟩
  case error => exact Or.inl ⟨failure, later, by simp [waitThenOpen, answer, countWait]⟩
  case ok =>
    cases closes with
    | true => exact Or.inr (Or.inl ⟨later, by simp [waitThenOpen, answer, countWait]⟩)
    | false =>
      exact Or.inr (Or.inr ⟨later, by simp [waitThenOpen, answer, countWait, passInterval]⟩)

theorem answered_waitThenOpen :
    answered (waitThenOpen env stop iterator world).events
      = (waitThenOpen env stop iterator world).events := by
  obtain ⟨failure, later, eq⟩ | ⟨later, eq⟩ | ⟨later, eq⟩ :=
    waitThenOpen_cases env stop iterator world
  · rw [eq]
    rfl
  · rw [eq]
    rfl
  · rw [eq, Step.after, answered_append, answered_openNext]
    rfl

/-- A step that fails exactly if a wait fails in it, and stays open if it fails. -/
structure Step.FailsInWait (step : Step ω δ) : Prop where
  failed : step.failure.isSome = waitFailed step.events
  staysOpen : waitFailed step.events = true → step.iterator.closed = false

omit [WaitTime δ] in
theorem Step.FailsInWait.after {step : Step ω δ} (failsInWait : step.FailsInWait)
    {events : List (Event δ)} (noneFailed : waitFailed events = false) :
    (step.after events).FailsInWait := by
  constructor
  · simpa [Step.after, noneFailed] using failsInWait.failed
  · simpa [Step.after, noneFailed] using failsInWait.staysOpen

omit [WaitTime δ] in
theorem Step.failsInWait_of_none {step : Step ω δ} (succeeds : step.failure = none)
    (noneFailed : waitFailed step.events = false) : step.FailsInWait :=
  ⟨by simp [succeeds, noneFailed], by simp [noneFailed]⟩

theorem failsInWait_waitThenOpen (notClosed : iterator.closed = false) :
    (waitThenOpen env stop iterator world).FailsInWait := by
  obtain ⟨failure, later, eq⟩ | ⟨later, eq⟩ | ⟨later, eq⟩ :=
    waitThenOpen_cases env stop iterator world
  · rw [eq]
    exact ⟨rfl, fun _ => notClosed⟩
  · rw [eq]
    exact Step.failsInWait_of_none rfl rfl
  · rw [eq]
    exact (Step.failsInWait_of_none failure_openNext waitFailed_openNext).after rfl

theorem answered_finishWindow (mayWait : Bool) :
    answered (finishWindow env mayWait stop windowStop iterator world).events
      = (finishWindow env mayWait stop windowStop iterator world).events := by
  unfold finishWindow
  dsimp only
  split
  · rfl
  · split
    · exact answered_openNext env stop _ world
    · split
      · rfl
      · split
        · exact answered_waitThenOpen
        · rfl

theorem failsInWait_finishWindow (mayWait : Bool) (notClosed : iterator.closed = false) :
    (finishWindow env mayWait stop windowStop iterator world).FailsInWait := by
  unfold finishWindow
  dsimp only
  split
  · exact Step.failsInWait_of_none rfl rfl
  · split
    · exact Step.failsInWait_of_none failure_openNext waitFailed_openNext
    · split
      · exact Step.failsInWait_of_none rfl rfl
      · split
        · exact failsInWait_waitThenOpen notClosed
        · exact Step.failsInWait_of_none rfl rfl

theorem takeReply_page (mayWait : Bool) (batch : Batch) :
    takeReply env mayWait stop windowStop iterator ((.ok batch, false), world)
      = (takeIn env mayWait stop windowStop batch iterator world).after
        [pageEvent iterator windowStop batch] := rfl

section TakeIn

variable {batch : Batch} {next : Iterator δ} {taken : List Entry} (mayWait : Bool)

theorem takeIn_brokenOff {failure : Failure}
    (acceptance : acceptAll stop (Entry.sorted batch.entries) iterator
      = (next, taken, some failure)) :
    takeIn env mayWait stop windowStop batch iterator world
      = ⟨next, world, taken.map .accepted, some failure⟩ := by
  simp [takeIn, acceptance, Step.after]

theorem takeIn_turned {cursor : Int}
    (acceptance : acceptAll stop (Entry.sorted batch.entries) iterator = (next, taken, none))
    (turned : batch.next = some cursor) :
    takeIn env mayWait stop windowStop batch iterator world
      = (follow cursor (next.countTaken taken) world).after (taken.map .accepted) := by
  simp [takeIn, acceptance, turned, countTaken]

theorem takeIn_last
    (acceptance : acceptAll stop (Entry.sorted batch.entries) iterator = (next, taken, none))
    (last : batch.next = none) :
    takeIn env mayWait stop windowStop batch iterator world
      = (finishWindow env mayWait stop windowStop (next.countTaken taken) world).after
        (taken.map .accepted) := by
  simp [takeIn, acceptance, last, countTaken]

end TakeIn

theorem answered_takeReply (mayWait : Bool) {batch : Batch} {closes : Bool} :
    answered (takeReply env mayWait stop windowStop iterator ((.ok batch, closes), world)).events
      = (takeReply env mayWait stop windowStop iterator ((.ok batch, closes), world)).events := by
  cases closes with
  | true => rfl
  | false =>
    have quietPage : answered [pageEvent iterator windowStop batch]
        = [pageEvent iterator windowStop batch] := rfl
    rw [takeReply_page, Step.after, answered_append, quietPage]
    congr 1
    rcases acceptance : acceptAll stop (Entry.sorted batch.entries) iterator
      with ⟨next, taken, _ | failure⟩
    case some => rw [takeIn_brokenOff mayWait acceptance, answered_map_accepted]
    case none =>
      cases turned : batch.next with
      | some cursor =>
        rw [takeIn_turned mayWait acceptance turned, Step.after, answered_append,
          answered_map_accepted, answered_follow]
      | none =>
        rw [takeIn_last mayWait acceptance turned, Step.after, answered_append,
          answered_map_accepted, answered_finishWindow]

@[simp] theorem failure_finishWindow_false :
    (finishWindow env false stop windowStop iterator world).failure = none := by
  unfold finishWindow
  dsimp only
  split
  · rfl
  · split
    · exact failure_openNext
    · split <;> rfl

/-- Without a wait a page fails to be taken in if one of its entries cannot be accepted, and for
nothing else. -/
theorem failure_takeIn_false (batch : Batch) :
    (takeIn env false stop windowStop batch iterator world).failure
      = (acceptAll stop (Entry.sorted batch.entries) iterator).2.2 := by
  rcases acceptance : acceptAll stop (Entry.sorted batch.entries) iterator
    with ⟨next, taken, _ | failure⟩
  case some => rw [takeIn_brokenOff false acceptance]
  case none =>
    cases turned : batch.next with
    | some cursor => rw [takeIn_turned false acceptance turned, Step.failure_after, follow_eq]
    | none =>
      rw [takeIn_last false acceptance turned, Step.failure_after, failure_finishWindow_false]

/-- A page of entries with fingerprints fails to be taken in only if there is a wait afterwards and
it fails. -/
theorem failsInWait_takeReply (mayWait : Bool) (notClosed : iterator.closed = false) {batch : Batch}
    {closes : Bool}
    (fingerprints : ∀ entry ∈ batch.entries, ∃ fingerprint, entry.fingerprint = .ok fingerprint) :
    (takeReply env mayWait stop windowStop iterator
      ((.ok batch, closes), world)).FailsInWait := by
  cases closes with
  | true => exact Step.failsInWait_of_none rfl rfl
  | false =>
    rw [takeReply_page]
    refine Step.FailsInWait.after ?_ rfl
    rcases acceptance : acceptAll stop (Entry.sorted batch.entries) iterator
      with ⟨next, taken, _ | failure⟩
    case some =>
      have unfailed : (acceptAll stop (Entry.sorted batch.entries) iterator).2.2 = none :=
        no_failure_of_fingerprints fun entry among =>
          fingerprints entry ((Entry.sorted_perm batch.entries).subset among)
      simp [acceptance] at unfailed
    case none =>
      have stillOpen : (next.countTaken taken).closed = false :=
        (sameBut_of_acceptance acceptance).closed.trans notClosed
      cases turned : batch.next with
      | some cursor =>
        rw [takeIn_turned mayWait acceptance turned, follow_eq]
        refine Step.FailsInWait.after (Step.failsInWait_of_none rfl ?_)
          (waitFailed_map_accepted taken)
        split <;> rfl
      | none =>
        rw [takeIn_last mayWait acceptance turned]
        exact (failsInWait_finishWindow mayWait stillOpen).after (waitFailed_map_accepted taken)

/-! ## Putting a wait off -/

/-- Two steps of which the first one puts a wait off and the second one waits, or equal steps. -/
inductive PutOff (env : Surroundings ω δ) (stop : Option Int) : Step ω δ → Step ω δ → Prop
  | same (step : Step ω δ) : PutOff env stop step step
  | wait {iterator : Iterator δ} (world : ω) (events : List (Event δ))
      (hungry : Hungry iterator stop) :
      PutOff env stop ⟨{ iterator with waitDue := true }, world, events, none⟩
        ((waitThenOpen env stop iterator world).after events)

omit [WaitTime δ] in
@[simp] theorem Step.after_nil (step : Step ω δ) : step.after [] = step := rfl

theorem PutOff.after {early late : Step ω δ} (putOff : PutOff env stop early late)
    (events : List (Event δ)) : PutOff env stop (early.after events) (late.after events) := by
  cases putOff with
  | same => exact PutOff.same _
  | wait world more hungry =>
    have whole : PutOff env stop _ _ := PutOff.wait world (events ++ more) hungry
    simpa [Step.after] using whole

theorem putOff_finishWindow (active : Active iterator stop) (notDue : iterator.waitDue = false)
    (nothingReady : iterator.windowCount = 0 → iterator.ready = []) :
    PutOff env stop (finishWindow env false stop windowStop iterator world)
      (finishWindow env true stop windowStop iterator world) := by
  unfold finishWindow
  dsimp only
  split
  · exact PutOff.same _
  · split
    · exact PutOff.same _
    · rename_i foundNone
      split
      · exact PutOff.same _
      · have whole : PutOff env stop _ _ := PutOff.wait world []
          ⟨active, nothingReady (Classical.not_not.mp foundNone), notDue⟩
        rwa [Step.after_nil] at whole

theorem putOff_takeReply (hungry : Hungry iterator stop)
    (reply : (Except Failure Batch × Bool) × ω) :
    PutOff env stop (takeReply env false stop windowStop iterator reply)
      (takeReply env true stop windowStop iterator reply) := by
  obtain ⟨⟨result, closes⟩, later⟩ := reply
  cases result with
  | error failure => exact PutOff.same _
  | ok batch =>
    cases closes with
    | true => exact PutOff.same _
    | false =>
      rw [takeReply_page, takeReply_page]
      refine PutOff.after ?_ _
      rcases acceptance : acceptAll stop (Entry.sorted batch.entries) iterator
        with ⟨next, taken, _ | failure⟩
      case some =>
        rw [takeIn_brokenOff false acceptance, takeIn_brokenOff true acceptance]
        exact PutOff.same _
      case none =>
        cases turned : batch.next with
        | some cursor =>
          rw [takeIn_turned false acceptance turned, takeIn_turned true acceptance turned]
          exact PutOff.same _
        | none =>
          rw [takeIn_last false acceptance turned, takeIn_last true acceptance turned]
          have same := sameBut_of_acceptance acceptance
          have stillActive : Active (next.countTaken taken) stop :=
            ⟨same.closed.trans hungry.notClosed, same.exhausted.trans hungry.notExhausted,
              by simpa [countTaken, same.scope] using hungry.stopNanos⟩
          refine PutOff.after (putOff_finishWindow stillActive (same.waitDue.trans hungry.notDue)
            fun foundNone => ?_) _
          · -- nothing was taken from the page, so that nothing is ready
            have noneTaken : taken = [] :=
              List.length_eq_zero_iff.mp (Nat.eq_zero_of_add_eq_zero_left foundNone)
            subst noneTaken
            rw [eq_of_none_taken acceptance]
            exact hungry.nothingReady

theorem putOff_advanceWindow (hungry : Hungry iterator stop) :
    PutOff env stop (advanceWindow env false stop windowStop iterator world)
      (advanceWindow env true stop windowStop iterator world) := by
  unfold advanceWindow
  split
  · exact putOff_finishWindow hungry.toActive hungry.notDue fun _ => hungry.nothingReady
  · exact putOff_takeReply hungry _

/-! ## What a fetch comes down to -/

/-- An iterator with an open window asks for its next page. -/
theorem fetch_of_hungry (mayWait : Bool) (hungry : Hungry iterator stop)
    (opened : iterator.windowStop = some windowStop) :
    fetch env mayWait iterator world
      = advanceWindow env mayWait stop windowStop iterator world := by
  simp [fetch, hungry.stopNanos, fetchWithin, hungry.notDue, fetchOpen, opened]

/-- A fetch makes up for a wait that was put off, and asks for the next page unless the wait failed
or the iterator was closed meanwhile. -/
theorem fetch_of_due (mayWait : Bool) (hungry : Hungry iterator stop) :
    fetch env mayWait { iterator with waitDue := true } world
      = let waited := waitThenOpen env stop iterator world
        if waited.iterator.closed || waited.failure.isSome then waited
        else (fetch env mayWait waited.iterator waited.world).after waited.events := by
  have settled : { iterator with waitDue := false } = iterator := by
    rw [← hungry.notDue]
  have plain : fetch env mayWait { iterator with waitDue := true } world
      = fetchWithin env mayWait stop { iterator with waitDue := true } world := by
    simp [fetch, hungry.stopNanos]
  rw [plain, fetchWithin]
  simp only [settled, if_true]
  cases closed : (waitThenOpen env stop iterator world).iterator.closed with
  | true => rfl
  | false =>
    have asks :=
      hungry_waitThenOpen env world hungry.toActive hungry.nothingReady hungry.notDue closed
    simp [fetch, asks.stopNanos, fetchWithin, asks.notDue]

/-- Nothing failed among some events. -/
structure Unfailing (events : List (Event δ)) : Prop where
  answered : answered events = events
  waited : waitFailed events = false

/-- A fetch without a wait to make up for leads to an iterator with an open window. -/
theorem fetchOpen_cases (env : Surroundings ω δ) (world : ω) (hungry : Hungry iterator stop) :
    ∃ (asking : Iterator δ) (windowStop : Int) (later : ω) (events : List (Event δ)),
      Hungry asking stop ∧ asking.windowStop = some windowStop ∧ Unfailing events
        ∧ ∀ query mayWait, fetchOpen { env with query } mayWait stop iterator world
          = (advanceWindow { env with query } mayWait stop windowStop asking later).after
              events := by
  cases opened : iterator.windowStop with
  | some windowStop =>
    refine ⟨iterator, windowStop, world, [], hungry, opened, ⟨rfl, rfl⟩, fun query mayWait => ?_⟩
    simp [fetchOpen, opened, Step.after]
  | none =>
    rcases opening : newWindowStop env iterator.scope.complete stop world
      with ⟨windowStop, later, events⟩
    refine ⟨{ iterator with windowStop := some windowStop }, windowStop, later, events,
      ⟨⟨hungry.notClosed, hungry.notExhausted, hungry.stopNanos⟩, hungry.nothingReady,
        hungry.notDue⟩, rfl, ⟨answered_of_opening opening, waitFailed_of_opening opening⟩,
      fun query mayWait => ?_⟩
    have sameOpening : newWindowStop { env with query } iterator.scope.complete stop world
        = (windowStop, later, events) := opening
    simp only [fetchOpen, opened, sameOpening]

/-- A fetch is cut short by a wait that fails or during which the iterator is closed, or leads to an
iterator with an open window, in both cases whatever the answer will be. -/
theorem fetch_cases (env : Surroundings ω δ) (world : ω) (active : Active iterator stop)
    (nothingReady : iterator.ready = []) :
    (∃ step : Step ω δ, (step.iterator.closed || step.failure.isSome) = true ∧ step.FailsInWait
        ∧ answered step.events = step.events
        ∧ ∀ query mayWait, fetch { env with query } mayWait iterator world = step)
      ∨ ∃ (asking : Iterator δ) (windowStop : Int) (later : ω) (events : List (Event δ)),
        Hungry asking stop ∧ asking.windowStop = some windowStop ∧ Unfailing events
          ∧ ∀ query mayWait, fetch { env with query } mayWait iterator world
            = (advanceWindow { env with query } mayWait stop windowStop asking later).after
                events := by
  cases due : iterator.waitDue with
  | false =>
    obtain ⟨asking, windowStop, later, events, asks, opened, quiet, eq⟩ :=
      fetchOpen_cases env world ⟨active, nothingReady, due⟩
    refine Or.inr ⟨asking, windowStop, later, events, asks, opened, quiet, fun query mayWait => ?_⟩
    simp [fetch, active.stopNanos, fetchWithin, due, eq]
  | true =>
    have settledActive : Active { iterator with waitDue := false } stop :=
      ⟨active.notClosed, active.notExhausted, active.stopNanos⟩
    have sameWait : ∀ query, waitThenOpen { env with query } stop
        { iterator with waitDue := false } world
          = waitThenOpen env stop { iterator with waitDue := false } world := fun _ => rfl
    have failsInWait : (waitThenOpen env stop
        { iterator with waitDue := false } world).FailsInWait :=
      failsInWait_waitThenOpen active.notClosed
    have quietWait :
        answered (waitThenOpen env stop { iterator with waitDue := false } world).events
          = (waitThenOpen env stop { iterator with waitDue := false } world).events :=
      answered_waitThenOpen
    have asksThen := hungry_waitThenOpen env world settledActive nothingReady rfl
    have whole (query) (mayWait) : fetch { env with query } mayWait iterator world
        = let waited := waitThenOpen env stop { iterator with waitDue := false } world
          if waited.iterator.closed || waited.failure.isSome then waited
          else (fetchOpen { env with query } mayWait stop waited.iterator waited.world).after
            waited.events := by
      simp only [fetch, active.stopNanos, fetchWithin, due, sameWait, if_true]
    generalize waitThenOpen env stop { iterator with waitDue := false } world = waited at *
    cases ended : waited.iterator.closed || waited.failure.isSome with
    | true =>
      refine Or.inl ⟨waited, ended, failsInWait, quietWait, fun query mayWait => ?_⟩
      simp only [whole, ended, if_true]
    | false =>
      obtain ⟨stillOpen, unfailed⟩ := Bool.or_eq_false_iff.mp ended
      obtain ⟨asking, windowStop, later, events, asks, opened, quiet, eq⟩ :=
        fetchOpen_cases env waited.world (asksThen stillOpen)
      refine Or.inr ⟨asking, windowStop, later, waited.events ++ events, asks, opened,
        ⟨by rw [answered_append, quietWait, quiet.answered],
          by rw [waitFailed_append, quiet.waited, ← failsInWait.failed, unfailed]; rfl⟩,
        fun query mayWait => ?_⟩
      simp [whole, ended, eq, Step.after]

end Iterator
end RunLog
