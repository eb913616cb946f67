import RunLog.Proofs.Fetching

/-!
# Closing an iterator

An iterator can be closed at any time: between two calls, while a page is under way, and during a
wait.  Surroundings that keep a record of the queries and the waits, and of those during which the
iterator was closed, show that such a one is the last: nothing is asked or waited for afterwards,
and nothing of the page that was under way is accepted.

Between two calls the world may go on in any way, as it does when other iterators are used.
-/

namespace RunLog

/-- Whether an event is a query or a wait. -/
def Event.isContact {δ : Type} : Event δ → Bool
  | .queried _ _ => true
  | .waited _ _ => true
  | _ => false

namespace Surroundings

variable {ω δ : Type}

/-- Whether the iterator was closed during a wait; one that fails takes no time. -/
def closesIn (outcome : Except Failure Bool) : Bool :=
  outcome.toOption.getD false

@[simp] theorem closesIn_ok (closes : Bool) : closesIn (.ok closes) = closes := rfl

@[simp] theorem closesIn_error (failure : Failure) : closesIn (.error failure) = false := rfl

/-- The world keeps a record of queries and waits, and of each one whether the iterator was closed
meanwhile.  One during which the iterator stayed open may be missing. -/
structure Records (env : Surroundings ω δ) (record : ω → List Bool) : Prop where
  clock : ∀ world, record (env.clock world).2 = record world
  query : ∀ window world,
    record (env.query window world).2 = record world ++ [(env.query window world).1.2]
      ∨ (env.query window world).1.2 = false ∧ record (env.query window world).2 = record world
  wait : ∀ number interval world,
    record (env.wait number interval world).2
        = record world ++ [closesIn (env.wait number interval world).1]
      ∨ closesIn (env.wait number interval world).1 = false
        ∧ record (env.wait number interval world).2 = record world

/-- Surroundings with a record of every query and every wait. -/
def recording (env : Surroundings ω δ) : Surroundings (ω × List Bool) δ where
  clock world := ((env.clock world.1).1, (env.clock world.1).2, world.2)
  query window world :=
    let (answer, later) := env.query window world.1
    (answer, later, world.2 ++ [answer.2])
  wait number interval world :=
    let (outcome, later) := env.wait number interval world.1
    (outcome, later, world.2 ++ [closesIn outcome])

theorem records_recording (env : Surroundings ω δ) : env.recording.Records Prod.snd where
  clock _ := rfl
  query _ _ := Or.inl rfl
  wait _ _ _ := Or.inl rfl

end Surroundings

namespace Iterator

variable {ω δ : Type} {env : Surroundings ω δ} {record : ω → List Bool}

theorem record_of_opening (records : env.Records record) {complete : Bool} {stop : Option Int}
    {world later : ω} {windowStop : Int} {events : List (Event δ)}
    (opening : newWindowStop env complete stop world = (windowStop, later, events)) :
    record later = record world := by
  unfold newWindowStop at opening
  split at opening <;> cases opening
  · rfl
  · exact records.clock world
  · exact records.clock world

theorem record_openNext (records : env.Records record) (stop : Option Int)
    (iterator : Iterator δ) (world : ω) :
    record (openNext env stop iterator world).world = record world := by
  rw [openNext_eq]
  exact record_of_opening records rfl

/-- What is known of a run since the record was as given: a query or a wait during which the
iterator was closed is the last one, and the last event; an iterator that is closed has nothing
ready. -/
structure Final (record : ω → List Bool) (base : List Bool) (run : Run ω δ) : Prop where
  recorded : ∃ since, record run.world = base ++ since ∧ true ∉ since.dropLast
    ∧ (true ∈ since → run.iterator.closed = true
      ∧ ∃ event ∈ run.events.getLast?, event.isContact = true)
  nothingReady : run.iterator.closed = true → run.iterator.ready = []

namespace Final

variable {base : List Bool} {stage stage' : Stage} {run run' : Run ω δ}

theorem start {iterator : Iterator δ} {world : ω}
    (nothingReady : iterator.closed = true → iterator.ready = []) :
    Final record (record world) (Run.start iterator world) where
  recorded := ⟨[], (List.append_nil _).symm, by simp, by simp⟩
  nothingReady := nothingReady

/-- An open iterator was not closed during any query or wait. -/
theorem not_mem (final : Final record base run) (notClosed : run.iterator.closed = false) :
    ∃ since, record run.world = base ++ since ∧ true ∉ since := by
  obtain ⟨since, eq, -, isClosed⟩ := final.recorded
  exact ⟨since, eq, fun among => absurd (isClosed among).1 (ne_true_of_eq_false notClosed)⟩

/-- Nothing is asked or waited for. -/
theorem still (final : Final record base run) (notClosed : run.iterator.closed = false)
    (sameRecord : record run'.world = record run.world)
    (nothingReady : run'.iterator.closed = true → run'.iterator.ready = []) :
    Final record base run' := by
  obtain ⟨since, eq, never⟩ := final.not_mem notClosed
  have notBefore : true ∉ since.dropLast := fun among =>
    never ((List.dropLast_sublist since).subset among)
  exact ⟨⟨since, sameRecord.trans eq, notBefore, fun among => absurd among never⟩, nothingReady⟩

/-- There is a query or a wait. -/
theorem contact (final : Final record base run) (notClosed : run.iterator.closed = false)
    (closes : Bool)
    (recorded : record run'.world = record run.world ++ [closes]
      ∨ closes = false ∧ record run'.world = record run.world)
    (isClosed : closes = true → run'.iterator.closed = true
      ∧ ∃ event ∈ run'.events.getLast?, event.isContact = true)
    (nothingReady : run'.iterator.closed = true → run'.iterator.ready = []) :
    Final record base run' := by
  rcases recorded with recorded | ⟨-, sameRecord⟩
  · obtain ⟨since, eq, never⟩ := final.not_mem notClosed
    refine ⟨⟨since ++ [closes], by rw [recorded, eq, List.append_assoc], ?_, fun among => ?_⟩,
      nothingReady⟩
    · rwa [List.dropLast_concat]
    · rcases List.mem_append.mp among with before | now
      · exact absurd before never
      · exact isClosed (List.mem_singleton.mp now).symm
  · exact final.still notClosed sameRecord nothingReady

/-- Every move keeps this. -/
theorem move [WaitTime δ] (records : env.Records record)
    (move : Move env (stage, run) (stage', run')) (final : Final record base run) :
    Final record base run' := by
  cases move with
  | resume active =>
    exact final.still active.notClosed rfl (by simp [active.notClosed])
  | openFirst hungry _ opening =>
    exact final.still hungry.notClosed (record_of_opening records opening)
      (by simp [Run.advance, hungry.notClosed])
  | useUp hungry => exact final
  | @failQuery _ _ windowStop failure closes world hungry opened inside answer =>
    have recorded := records.query ⟨run.iterator.cursor, windowStop⟩ run.world
    rw [answer] at recorded
    refine final.contact hungry.notClosed closes recorded (fun isClosed => ?_) ?_
    · simp [Run.advance, isClosed, Event.isContact]
    · cases closes <;> simp [Run.advance, hungry.notClosed]
  | @dropPage _ _ windowStop batch world hungry opened inside answer =>
    have recorded := records.query ⟨run.iterator.cursor, windowStop⟩ run.world
    rw [answer] at recorded
    exact final.contact hungry.notClosed true recorded
      (by simp [Run.advance, pageEvent, Event.isContact]) (by simp [Run.advance])
  | @breakOff _ _ windowStop _ world _ _ _ hungry opened inside answer acceptance
  | @lastPage _ _ windowStop _ world _ _ hungry opened inside answer acceptance =>
    have recorded := records.query ⟨run.iterator.cursor, windowStop⟩ run.world
    rw [answer] at recorded
    have stillOpen := (sameBut_of_acceptance acceptance).closed.trans hungry.notClosed
    exact final.contact hungry.notClosed false recorded (by simp)
      (by simp [Run.advance, countTaken, stillOpen])
  | @turnPage _ _ windowStop _ world _ _ _ hungry opened inside answer acceptance =>
    have recorded := records.query ⟨run.iterator.cursor, windowStop⟩ run.world
    rw [answer] at recorded
    have stillOpen := (sameBut_of_acceptance acceptance).closed.trans hungry.notClosed
    refine final.contact hungry.notClosed false ?_ (by simp) ?_
    · simpa [Run.after, Run.advance, follow_eq] using recorded
    · simp [Run.after, Run.advance, follow_eq, countTaken, stillOpen]
  | finish active | giveUp active | postpone active | beginWait active =>
    exact final.still active.notClosed rfl (by simp [active.notClosed])
  | renew active =>
    refine final.still active.notClosed (record_openNext records _ _ _) ?_
    simp [Run.after, Run.advance, openNext_eq, active.notClosed]
  | @failWait _ _ _ world active answer =>
    have recorded := records.wait (run.iterator.waits + 1) run.iterator.policy.interval run.world
    rw [answer] at recorded
    exact final.contact active.notClosed false recorded (by simp)
      (by simp [Run.advance, countWait, active.notClosed])
  | @breakWait _ _ world active answer =>
    have recorded := records.wait (run.iterator.waits + 1) run.iterator.policy.interval run.world
    rw [answer] at recorded
    exact final.contact active.notClosed true recorded (by simp [Run.advance, Event.isContact])
      (by simp [Run.advance])
  | @endWait _ _ world active answer =>
    have recorded := records.wait (run.iterator.waits + 1) run.iterator.policy.interval run.world
    rw [answer] at recorded
    refine final.contact active.notClosed false ?_ (by simp) ?_
    · simpa [Run.after, Run.advance, record_openNext records] using recorded
    · simp [Run.after, Run.advance, openNext_eq, countWait, passInterval, active.notClosed]
  | handOut notClosed => exact final.still notClosed rfl (by simp [notClosed])
  | close =>
    obtain ⟨since, eq, never, isClosed⟩ := final.recorded
    exact ⟨⟨since, eq, never, fun among => ⟨rfl, (isClosed among).2⟩⟩, fun _ => rfl⟩

end Final

/-! ## Calls that are cut short -/

/-- The last event is a query that failed in this way. -/
def FailsWithQuery (events : List (Event δ)) (failure : Failure) : Prop :=
  ∃ window, events.getLast? = some (.queried window (.error failure))

theorem FailsWithQuery.after {events : List (Event δ)} {failure : Failure}
    (fails : FailsWithQuery events failure) (earlier : List (Event δ)) :
    FailsWithQuery (earlier ++ events) failure := by
  obtain ⟨window, isLast⟩ := fails
  exact ⟨window, by rw [List.getLast?_append, isLast]; rfl⟩

/-- If a step fails and leaves the iterator closed, it failed with its last query. -/
def Step.Excused (step : Step ω δ) : Prop :=
  ∀ failure, step.failure = some failure → step.iterator.closed = true →
    FailsWithQuery step.events failure

theorem Step.Excused.after {step : Step ω δ} (excused : step.Excused) (events : List (Event δ)) :
    (step.after events).Excused :=
  fun failure failed closed => (excused failure failed closed).after events

theorem Step.excused_of_none {step : Step ω δ} (succeeds : step.failure = none) :
    step.Excused := fun failure failed => by simp [succeeds] at failed

/-- A wait that fails leaves the iterator open. -/
theorem Step.FailsInWait.excused {step : Step ω δ} (failsInWait : step.FailsInWait) :
    step.Excused := by
  intro failure failed closed
  have waited : waitFailed step.events = true := by
    rw [← failsInWait.failed, failed, Option.isSome_some]
  exact absurd closed (ne_true_of_eq_false (failsInWait.staysOpen waited))

section Excused

variable [WaitTime δ] {stop : Option Int} {windowStop : Int} {iterator : Iterator δ}

theorem excused_takeReply (mayWait : Bool) (notClosed : iterator.closed = false)
    (reply : (Except Failure Batch × Bool) × ω) :
    (takeReply env mayWait stop windowStop iterator reply).Excused := by
  obtain ⟨⟨result, closes⟩, later⟩ := reply
  cases result with
  | error failure =>
    rintro _ ⟨⟩ -
    exact ⟨_, rfl⟩
  | ok batch =>
    cases closes with
    | true => exact Step.excused_of_none rfl
    | false =>
      rw [takeReply_page]
      refine Step.Excused.after ?_ _
      rcases acceptance : acceptAll stop (Entry.sorted batch.entries) iterator
        with ⟨next, taken, _ | failure⟩
      case some =>
        -- an entry that breaks off a page leaves the iterator open
        have stillOpen := (sameBut_of_acceptance acceptance).closed.trans notClosed
        rw [takeIn_brokenOff mayWait acceptance]
        exact fun _ _ closed => absurd closed (ne_true_of_eq_false stillOpen)
      case none =>
        cases turned : batch.next with
        | some cursor =>
          rw [takeIn_turned mayWait acceptance turned, follow_eq]
          exact Step.excused_of_none rfl
        | none =>
          have stillOpen : (next.countTaken taken).closed = false :=
            (sameBut_of_acceptance acceptance).closed.trans notClosed
          rw [takeIn_last mayWait acceptance turned]
          exact (failsInWait_finishWindow mayWait stillOpen).excused.after _

theorem excused_advanceWindow (mayWait : Bool) (notClosed : iterator.closed = false) (world : ω) :
    (advanceWindow env mayWait stop windowStop iterator world).Excused := by
  unfold advanceWindow
  split
  · exact (failsInWait_finishWindow mayWait notClosed).excused
  · rw [load_eq]
    exact excused_takeReply mayWait notClosed _

theorem excused_fetchOpen (mayWait : Bool) (notClosed : iterator.closed = false) (world : ω) :
    (fetchOpen env mayWait stop iterator world).Excused := by
  unfold fetchOpen
  split
  · exact excused_advanceWindow mayWait notClosed world
  · have stillOpen (windowStop : Int) :
        ({ iterator with windowStop := some windowStop } : Iterator δ).closed = false := notClosed
    exact (excused_advanceWindow mayWait (stillOpen _) _).after _

theorem excused_fetch (mayWait : Bool) (notClosed : iterator.closed = false) (world : ω) :
    (fetch env mayWait iterator world).Excused := by
  unfold fetch
  split
  · exact fun _ _ closed => absurd closed (ne_true_of_eq_false notClosed)
  · unfold fetchWithin
    split
    · dsimp only
      split
      · have settledOpen : ({ iterator with waitDue := false } : Iterator δ).closed = false :=
          notClosed
        exact (failsInWait_waitThenOpen settledOpen).excused
      · rename_i goesOn
        have stillOpen := (Bool.or_eq_false_iff.mp (Bool.eq_false_iff.mpr goesOn)).1
        exact (excused_fetchOpen mayWait stillOpen _).after _
    · exact excused_fetchOpen mayWait notClosed world

/-- An iterator that hands out an entry is open. -/
theorem closed_of_entry {fuel : Nat} {world : ω} {entry : Entry}
    (found : (next env fuel iterator world).outcome = .ok (some entry)) :
    (next env fuel iterator world).iterator.closed = false := by
  fun_induction next env fuel iterator world with
  | case1 | case3 | case4 | case5 => simp at found
  | case2 _ _ _ isOpen => simpa using isOpen
  | case6 _ _ _ _ _ _ _ _ _ inductionHypothesis => exact inductionHypothesis found

/-- An iterator that is closed while it is asked for an entry ends, unless the query fails during
which it is closed. -/
theorem ends_of_closed {fuel : Nat} {world : ω}
    (closed : (next env fuel iterator world).iterator.closed = true) :
    (next env fuel iterator world).outcome = .ok none
      ∨ ∃ failure, (next env fuel iterator world).outcome = .error failure
        ∧ FailsWithQuery (next env fuel iterator world).events failure := by
  fun_induction next env fuel iterator world with
  | case1 | case3 => exact Or.inl rfl
  | case2 _ _ _ isOpen | case4 _ _ isOpen => exact absurd closed isOpen
  | case5 _ world isOpen _ _ _ step failure failed =>
    exact Or.inr ⟨failure, rfl,
      excused_fetch true (Bool.eq_false_iff.mpr isOpen) world failure failed closed⟩
  | case6 _ _ _ _ _ _ _ _ _ inductionHypothesis =>
    rcases inductionHypothesis closed with ends | ⟨failure, failed, withQuery⟩
    · exact Or.inl ends
    · exact Or.inr ⟨failure, failed, withQuery.after _⟩

end Excused

/-! ## Runs in a world that goes on -/

/-- What happens to an iterator and the world: a call, or the world goes on elsewhere. -/
inductive Deed (ω : Type)
  /-- A call. -/
  | call (call : Call)
  /-- The world goes on. -/
  | elsewhere (change : ω → ω)

variable [WaitTime δ]

omit [WaitTime δ] in
theorem close_eq {iterator : Iterator δ} (closed : iterator.closed = true)
    (nothingReady : iterator.ready = []) : iterator.close = iterator := by
  rw [close, ← closed, ← nothingReady]

namespace Run

/-- No call changes a run whose iterator is closed. -/
theorem call_of_closed {env : Surroundings ω δ} {run : Run ω δ}
    (closed : run.iterator.closed = true) (nothingReady : run.iterator.ready = []) (call : Call) :
    run.call env call = run := by
  cases call with
  | next fuel => simp [Run.call, closed, afterPull, Except.toOption]
  | prefetch => simp [Run.call, closed]
  | close => simp [Run.call, close_eq closed nothingReady]

theorem calls_of_closed {env : Surroundings ω δ} {run : Run ω δ}
    (closed : run.iterator.closed = true) (nothingReady : run.iterator.ready = [])
    (calls : List Call) : run.calls env calls = run := by
  induction calls with
  | nil => rfl
  | cons call rest inductionHypothesis =>
    rw [Run.calls, List.foldl_cons, call_of_closed closed nothingReady]
    exact inductionHypothesis

/-- A run after a deed.  The record is the iterator's own. -/
def deed (env : Surroundings (ω × List Bool) δ) (run : Run (ω × List Bool) δ) :
    Deed ω → Run (ω × List Bool) δ
  | .call call => run.call env call
  | .elsewhere change => { run with world := (change run.world.1, run.world.2) }

/-- A run after several deeds. -/
def deeds (env : Surroundings (ω × List Bool) δ) (run : Run (ω × List Bool) δ)
    (deeds : List (Deed ω)) : Run (ω × List Bool) δ :=
  deeds.foldl (deed env) run

variable {env : Surroundings (ω × List Bool) δ} {run : Run (ω × List Bool) δ} {base : List Bool}

theorem final_deeds (records : env.Records Prod.snd) (final : Final Prod.snd base run)
    (deeds : List (Deed ω)) : Final Prod.snd base (run.deeds env deeds) := by
  induction deeds generalizing run with
  | nil => exact final
  | cons deed rest inductionHypothesis =>
    refine inductionHypothesis ?_
    cases deed with
    | call call =>
      exact Path.invariant (fun _ => Final Prod.snd base) (Final.move records)
        (path_call env run call) final
    | elsewhere change => exact ⟨final.recorded, final.nothingReady⟩

/-- Nothing happens to an iterator that is closed, and nothing is asked or waited for. -/
theorem deeds_of_closed (closed : run.iterator.closed = true)
    (nothingReady : run.iterator.ready = []) (deeds : List (Deed ω)) :
    ∃ world, run.deeds env deeds = { run with world := (world, run.world.2) } := by
  induction deeds generalizing run with
  | nil => exact ⟨run.world.1, rfl⟩
  | cons deed rest inductionHypothesis =>
    obtain ⟨world, same⟩ :
        ∃ world, run.deed env deed = { run with world := (world, run.world.2) } := by
      cases deed with
      | elsewhere change => exact ⟨change run.world.1, rfl⟩
      | call call => exact ⟨run.world.1, call_of_closed closed nothingReady call⟩
    have onward : run.deeds env (deed :: rest)
        = deeds env { run with world := (world, run.world.2) } rest := by
      rw [← same]
      rfl
    rw [onward]
    exact inductionHypothesis closed nothingReady

/-- In a run closing the iterator is final: it was closed during the last query or wait at most,
which was then the last event; once it is closed nothing happens any more; and a call during which
it is closed hands out nothing. -/
structure ClosesForGood (env : Surroundings (ω × List Bool) δ) (run : Run (ω × List Bool) δ) :
    Prop where
  onlyLast : true ∉ run.world.2.dropLast
  isLast : true ∈ run.world.2 → run.iterator.closed = true
    ∧ ∃ event ∈ run.events.getLast?, event.isContact = true
  still : run.iterator.closed = true → ∀ deeds, ∃ world,
    run.deeds env deeds = { run with world := (world, run.world.2) }
  ends : ∀ fuel, let pull := next env fuel run.iterator run.world
    pull.iterator.closed = true → pull.outcome = .ok none
      ∨ ∃ failure, pull.outcome = .error failure ∧ FailsWithQuery pull.events failure

/-- Closing an iterator is final in every run. -/
theorem closesForGood_deeds (env : Surroundings ω δ) {scope : Scope} {policy : TailPolicy δ}
    {iterator : Iterator δ} (started : Iterator.start scope policy = .ok iterator) (world : ω)
    (deeds : List (Deed ω)) :
    ClosesForGood env.recording ((start iterator (world, [])).deeds env.recording deeds) := by
  have notClosed : iterator.closed = false := by
    obtain ⟨cursor, -, rfl⟩ := eq_of_start started
    rfl
  have begins : Final Prod.snd [] (start iterator (world, ([] : List Bool))) :=
    ⟨⟨[], rfl, by simp, by simp⟩, fun closed => absurd closed (ne_true_of_eq_false notClosed)⟩
  have final := final_deeds env.records_recording begins deeds
  obtain ⟨since, recorded, never, isClosed⟩ := final.recorded
  rw [List.nil_append] at recorded
  rw [← recorded] at never isClosed
  exact ⟨never, isClosed, fun closed => deeds_of_closed closed (final.nothingReady closed),
    fun _ => ends_of_closed⟩

end Run

end Iterator
end RunLog
