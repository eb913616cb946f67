import RunLog.Proofs.Discipline
import RunLog.Proofs.EmptyTail
import RunLog.Proofs.Normalising

/-!
# Discarded lines

The client drops the lines of a response that lie outside the window that was asked for, but all of
them count when it says where to go on after a full page.  A page that is not full does not move the
cursor past the end of its window, so a line behind the window is asked for again.  A full page
moves the cursor to its latest line, wherever that lies, and so past every line behind the window
but the latest ones; those lines are dropped and never asked for again.
-/

namespace RunLog

/-! ## The values of a response -/

namespace Batch

/-- The values of a stream. -/
def valuesOf (stream : Json) : Except Failure (List Json) :=
  member "values" stream >>= optionalItems

/-- The time that a value was stamped with. -/
def stamp (value : Json) : Except Failure Int :=
  item value 0 >>= timestamp

/-- The values of all streams of a response. -/
def allValues (response : Json) : Except Failure (List Json) := do
  let lists ← (← streams response).mapM valuesOf
  return lists.flatten

/-- These times are those of these values, one by one. -/
def Stamped (values : List Json) (times : List Int) : Prop :=
  List.Forall₂ (fun value time => stamp value = .ok time) values times

theorem Stamped.exists_of_mem {values : List Json} {times : List Int}
    (stamped : Stamped values times) {value : Json} (among : value ∈ values) :
    ∃ time ∈ times, stamp value = .ok time := by
  induction stamped with
  | nil => cases among
  | @cons _ time _ _ stampedFirst _ inductionHypothesis =>
    rcases List.mem_cons.mp among with rfl | later
    · exact ⟨time, List.mem_cons_self, stampedFirst⟩
    · obtain ⟨other, known, stampedOther⟩ := inductionHypothesis later
      exact ⟨other, List.mem_cons_of_mem _ known, stampedOther⟩

theorem Stamped.exists_value_of_mem {values : List Json} {times : List Int}
    (stamped : Stamped values times) {time : Int} (among : time ∈ times) :
    ∃ value ∈ values, stamp value = .ok time := by
  induction stamped with
  | nil => cases among
  | @cons value _ _ _ stampedFirst _ inductionHypothesis =>
    rcases List.mem_cons.mp among with rfl | later
    · exact ⟨value, List.mem_cons_self, stampedFirst⟩
    · obtain ⟨other, known, stampedOther⟩ := inductionHypothesis later
      exact ⟨other, List.mem_cons_of_mem _ known, stampedOther⟩

section Reading

variable {room : Int} {window : Window}

theorem stamp_of_readValue {labels : Labels} {earlier : List Int} {value : Json} {time : Int}
    {found : Option Entry} (read : readValue room window labels earlier value = .ok (time, found)) :
    stamp value = .ok time := by
  simp only [readValue, bind_eq_ok] at read
  obtain ⟨first, isFirst, stamped, isTime, written, -, read⟩ := read
  split at read
  · obtain ⟨line, -, read⟩ := bind_eq_ok.mp read
    cases read
    exact bind_eq_ok.mpr ⟨first, isFirst, isTime⟩
  · cases read
    exact bind_eq_ok.mpr ⟨first, isFirst, isTime⟩

/-- The times of all values of a stream are noted. -/
theorem timestamps_of_readValues {labels : Labels} {values : List Json} :
    ∀ {earlier : List Int} {before after : Reading},
      readValues room window labels earlier values before = .ok after →
      ∃ times, Stamped values times ∧ after.timestamps = times.reverse ++ before.timestamps := by
  induction values with
  | nil =>
    intro earlier before after read
    cases read
    exact ⟨[], .nil, rfl⟩
  | cons value rest inductionHypothesis =>
    intro earlier before after read
    rw [readValues, bind_eq_ok] at read
    obtain ⟨⟨time, found⟩, readFirst, readRest⟩ := read
    obtain ⟨times, stamped, noted⟩ := inductionHypothesis readRest
    exact ⟨time :: times, .cons (stamp_of_readValue readFirst) stamped, by simp [noted]⟩

theorem timestamps_of_readStream {before after : Reading} {stream : Json}
    (read : readStream room window before stream = .ok after) :
    ∃ values times, valuesOf stream = .ok values ∧ Stamped values times
      ∧ after.timestamps = times.reverse ++ before.timestamps := by
  simp only [readStream, bind_eq_ok] at read
  obtain ⟨-, -, labels, -, found, isMember, values, areItems, read⟩ := read
  obtain ⟨times, stamped, noted⟩ := timestamps_of_readValues read
  exact ⟨values, times, bind_eq_ok.mpr ⟨found, isMember, areItems⟩, stamped, noted⟩

theorem timestamps_of_foldlM {found : List Json} {before after : Reading}
    (read : found.foldlM (readStream room window) before = .ok after) :
    ∃ lists times, found.mapM valuesOf = .ok lists ∧ Stamped lists.flatten times
      ∧ after.timestamps = times.reverse ++ before.timestamps := by
  induction found generalizing before with
  | nil =>
    cases read
    exact ⟨[], [], rfl, .nil, rfl⟩
  | cons stream rest inductionHypothesis =>
    rw [List.foldlM_cons, bind_eq_ok] at read
    obtain ⟨middle, readFirst, readRest⟩ := read
    obtain ⟨values, times, areValues, stamped, noted⟩ := timestamps_of_readStream readFirst
    obtain ⟨lists, others, areLists, stampedRest, notedRest⟩ := inductionHypothesis readRest
    refine ⟨values :: lists, times ++ others, ?_, List.rel_append stamped stampedRest, ?_⟩
    · exact mapM_eq_ok.mpr (.cons areValues (mapM_eq_ok.mp areLists))
    · simp [noted, notedRest]

/-- A batch says to go on after a time if the values that it was read from make a page and one of
them is later. -/
theorem passes_iff_of_ofResponse {pageSize : Int} {response : Json} {batch : Batch}
    (read : ofResponse room pageSize window response = .ok batch) :
    ∃ values, allValues response = .ok values ∧ ∀ time,
      (∃ next, batch.next = some next ∧ time < next)
        ↔ pageSize ≤ values.length
          ∧ ∃ other ∈ values, ∃ later, stamp other = .ok later ∧ time < later := by
  obtain ⟨found, reading, isFound, folded, rfl⟩ := reading_of_ofResponse read
  obtain ⟨lists, times, areLists, stamped, noted⟩ := timestamps_of_foldlM folded
  have timestamps_eq : reading.timestamps = times.reverse := by simpa using noted
  have count : reading.timestamps.length = lists.flatten.length := by
    rw [timestamps_eq, List.length_reverse, stamped.length_eq]
  refine ⟨lists.flatten, bind_eq_ok.mpr ⟨found, isFound, bind_eq_ok.mpr ⟨lists, areLists, rfl⟩⟩,
    fun time => ?_⟩
  simp only [next_ofReading_eq_some, count]
  constructor
  · rintro ⟨next, ⟨full, among, -⟩, before⟩
    rw [timestamps_eq, List.mem_reverse] at among
    obtain ⟨other, known, stampedOther⟩ := stamped.exists_value_of_mem among
    exact ⟨full, other, known, next, stampedOther, before⟩
  · rintro ⟨full, other, known, later, stampedOther, before⟩
    obtain ⟨itsTime, among, stampedSame⟩ := stamped.exists_of_mem known
    cases stampedOther.symm.trans stampedSame
    rw [← List.mem_reverse, ← timestamps_eq] at among
    obtain ⟨largest, isLargest⟩ := Option.isSome_iff_exists.mp
      (List.isSome_max?_of_mem among)
    obtain ⟨largestAmong, bound⟩ := List.max?_eq_some_iff.mp isLargest
    exact ⟨largest, ⟨full, largestAmong, bound⟩, Int.lt_of_lt_of_le before (bound _ among)⟩

end Reading
end Batch

/-! ## Where the last entry lies -/

namespace Iterator

variable {ω δ : Type} {stop : Option Int} {windowStop : Int}

/-- The last accepted entry lies in the open window, unless the cursor has reached it. -/
def LastBehind (iterator : Iterator δ) : Prop :=
  ∀ last ∈ iterator.last, last.timestamp ≤ iterator.cursor
    ∨ ∃ windowStop ∈ iterator.windowStop, last.timestamp < windowStop

theorem last_le_cursor_catchUp (iterator : Iterator δ) :
    ∀ last ∈ iterator.last, last.timestamp ≤ iterator.catchUp.cursor := by
  intro last isLast
  rw [catchUp, Option.mem_def.mp isLast]
  simp only [cursor_advance]
  exact Int.le_max_right _ _

/-- Behind a catch-up is the last entry, which was in the window. -/
theorem LastBehind.cursor_catchUp_lt {iterator : Iterator δ} (behind : LastBehind iterator)
    (opened : iterator.windowStop = some windowStop) (inside : iterator.cursor < windowStop) :
    iterator.catchUp.cursor < windowStop := by
  unfold catchUp
  split
  · rename_i last isLast
    rw [cursor_advance]
    refine Int.max_lt.mpr ⟨inside, ?_⟩
    rcases behind last isLast with reached | ⟨itsStop, isStop, before⟩
    · exact Int.lt_of_le_of_lt reached inside
    · cases opened.symm.trans isStop
      exact before
  · exact inside

/-- The last entry is the one of before, or one of those that were accepted. -/
theorem last_of_acceptance {entries taken : List Entry} {iterator next : Iterator δ}
    {failure : Option Failure}
    (acceptance : acceptAll stop entries iterator = (next, taken, failure)) :
    ∀ last ∈ next.last, last ∈ iterator.last
      ∨ ∃ entry ∈ entries, last.timestamp = entry.timestamp := by
  have kept : ∀ last ∈ (acceptAll stop entries iterator).1.last, last ∈ iterator.last
      ∨ ∃ entry ∈ entries, last.timestamp = entry.timestamp := by
    refine acceptAll_induction stop
      (fun _ next => ∀ last ∈ next.last, last ∈ iterator.last
        ∨ ∃ entry ∈ entries, last.timestamp = entry.timestamp) ?_ [] iterator
      fun last isLast => Or.inl isLast
    intro _ _ entry _ present _ _ _ _ last isLast
    cases isLast
    exact Or.inr ⟨entry, present, rfl⟩
  rwa [acceptance] at kept

/-- Entries that are accepted from inside the window leave the last one where it has to be. -/
theorem LastBehind.of_acceptance {entries taken : List Entry} {iterator next : Iterator δ}
    {failure : Option Failure} (behind : LastBehind iterator)
    (opened : iterator.windowStop = some windowStop)
    (inside : ∀ entry ∈ entries, entry.timestamp < windowStop)
    (acceptance : acceptAll stop entries iterator = (next, taken, failure)) :
    LastBehind next := by
  have same := sameBut_of_acceptance acceptance
  intro last isLast
  rw [same.cursor, same.windowStop]
  rcases last_of_acceptance acceptance last isLast with before | ⟨entry, present, atOnce⟩
  · exact behind last before
  · exact Or.inr ⟨windowStop, opened, atOnce ▸ inside entry present⟩

/-- A later cursor does not matter. -/
theorem LastBehind.onward {iterator next : Iterator δ} (behind : LastBehind iterator)
    (last : next.last = iterator.last) (windowStop : next.windowStop = iterator.windowStop)
    (onward : iterator.cursor ≤ next.cursor) : LastBehind next := by
  intro position isLast
  rw [last] at isLast
  rw [windowStop]
  exact (behind position isLast).imp_left fun reached => Int.le_trans reached onward

/-- What comes from inside a window lies before its end. -/
theorem StaysInside.lt_of_mem_sorted {env : Surroundings ω δ} (staysInside : StaysInside env)
    {window : Window} {world later : ω} {batch : Batch} {closes : Bool}
    (answer : env.query window world = ((.ok batch, closes), later)) :
    ∀ entry ∈ Entry.sorted batch.entries, entry.timestamp < window.stop :=
  fun entry present => (of_decide_eq_true (staysInside _ _ _ _ _ answer entry
    ((Entry.sorted_perm batch.entries).subset present))).2

/-- Opening a window catches up with the last entry. -/
theorem lastBehind_openNext (env : Surroundings ω δ) (stop : Option Int) (iterator : Iterator δ)
    (world : ω) : LastBehind (openNext env stop iterator world).iterator := by
  rw [openNext_eq]
  exact fun last isLast => Or.inl (last_le_cursor_catchUp iterator last isLast)

variable [WaitTime δ] {env : Surroundings ω δ}

/-- Every move keeps this. -/
theorem LastBehind.move (staysInside : StaysInside env) {stage stage' : Stage} {run run' : Run ω δ}
    (move : Move env (stage, run) (stage', run')) (behind : LastBehind run.iterator) :
    LastBehind run'.iterator := by
  cases move with
  | resume | useUp | dropPage | finish | giveUp | postpone | beginWait | failWait | breakWait
  | handOut | close => exact behind.onward rfl rfl (Int.le_refl _)
  | openFirst _ unopened =>
    refine fun last isLast => (behind last isLast).imp_right ?_
    rw [unopened]
    rintro ⟨_, ⟨⟩, _⟩
  | @failQuery _ _ _ _ closes =>
    cases closes <;> exact behind.onward rfl rfl (Int.le_refl _)
  | breakOff hungry opened inside answer acceptance =>
    exact behind.of_acceptance opened (staysInside.lt_of_mem_sorted answer) acceptance
  | lastPage hungry opened inside answer acceptance =>
    have accepted := behind.of_acceptance opened (staysInside.lt_of_mem_sorted answer) acceptance
    exact accepted.onward rfl rfl (Int.le_refl _)
  | turnPage hungry opened inside answer acceptance =>
    have accepted := behind.of_acceptance opened (staysInside.lt_of_mem_sorted answer) acceptance
    simp only [Run.after, Run.advance, follow_eq]
    refine accepted.onward ?_ ?_ ?_
    · rw [advance_eq]
      rfl
    · rw [advance_eq]
      rfl
    · rw [cursor_advance]
      exact Int.le_max_left _ _
  | renew => exact lastBehind_openNext env _ _ _
  | endWait => exact lastBehind_openNext env _ _ _

/-! ## The one question of a fetch -/

omit [WaitTime δ] in
theorem windowsAsked_openNext (env : Surroundings ω δ) (stop : Option Int) (iterator : Iterator δ)
    (world : ω) : windowsAsked (openNext env stop iterator world).events = [] := by
  rw [openNext_eq]
  exact (quiet_of_opening rfl).1

theorem windowsAsked_waitThenOpen (env : Surroundings ω δ) (stop : Option Int)
    (iterator : Iterator δ) (world : ω) :
    windowsAsked (waitThenOpen env stop iterator world).events = [] := by
  obtain ⟨failure, later, eq⟩ | ⟨later, eq⟩ | ⟨later, eq⟩ :=
    waitThenOpen_cases env stop iterator world
  · rw [eq]
    rfl
  · rw [eq]
    rfl
  · rw [eq, Step.after, windowsAsked_append, windowsAsked_openNext]
    rfl

theorem windowsAsked_finishWindow (env : Surroundings ω δ) (mayWait : Bool) (stop : Option Int)
    (windowStop : Int) (iterator : Iterator δ) (world : ω) :
    windowsAsked (finishWindow env mayWait stop windowStop iterator world).events = [] := by
  unfold finishWindow
  dsimp only
  split
  · rfl
  · split
    · exact windowsAsked_openNext env stop _ world
    · split
      · rfl
      · split
        · exact windowsAsked_waitThenOpen env stop iterator world
        · rfl

theorem windowsAsked_takeIn (env : Surroundings ω δ) (mayWait : Bool) (stop : Option Int)
    (windowStop : Int) (batch : Batch) (iterator : Iterator δ) (world : ω) :
    windowsAsked (takeIn env mayWait stop windowStop batch iterator world).events = [] := by
  rcases acceptance : acceptAll stop (Entry.sorted batch.entries) iterator
    with ⟨next, taken, _ | failure⟩
  case some => rw [takeIn_brokenOff mayWait acceptance, windowsAsked_map_accepted]
  case none =>
    cases turned : batch.next with
    | some cursor =>
      rw [takeIn_turned mayWait acceptance turned, Step.after, windowsAsked_append,
        windowsAsked_map_accepted, windowsAsked_follow, List.append_nil]
    | none =>
      rw [takeIn_last mayWait acceptance turned, Step.after, windowsAsked_append,
        windowsAsked_map_accepted, windowsAsked_finishWindow, List.append_nil]

theorem windowsAsked_load (env : Surroundings ω δ) (mayWait : Bool) (stop : Option Int)
    (windowStop : Int) (iterator : Iterator δ) (world : ω) :
    windowsAsked (load env mayWait stop windowStop iterator world).events
      = [⟨iterator.cursor, windowStop⟩] := by
  rcases answer : env.query ⟨iterator.cursor, windowStop⟩ world
    with ⟨⟨failure | batch, closes⟩, later⟩
  case error => cases closes <;> simp [load_eq, answer, takeReply, Event.window?]
  case ok =>
    cases closes with
    | true => simp [load_eq, answer, takeReply, Event.window?]
    | false =>
      rw [load_eq, answer, takeReply_page, Step.after, windowsAsked_append, windowsAsked_takeIn]
      rfl

/-- A step that asks for nothing, or for one page of a window which is open at some time of a
run. -/
inductive AsksOnce (env : Surroundings ω δ) (mayWait : Bool) (run : Run ω δ) : Step ω δ → Prop
  | nothing {step : Step ω δ} (quiet : windowsAsked step.events = []) :
    AsksOnce env mayWait run step
  | page {asking : Run ω δ} {stop : Option Int} {windowStop : Int} {events : List (Event δ)}
      (path : Path env (.resting, run) (.resting, asking)) (hungry : Hungry asking.iterator stop)
      (opened : asking.iterator.windowStop = some windowStop)
      (inside : asking.iterator.cursor < windowStop) (quiet : windowsAsked events = []) :
      AsksOnce env mayWait run
        ((load env mayWait stop windowStop asking.iterator asking.world).after events)

variable {mayWait : Bool} {run : Run ω δ}

/-- What came before may be added if nothing was asked. -/
theorem AsksOnce.after {later : Run ω δ} {step : Step ω δ} (asks : AsksOnce env mayWait later step)
    (path : Path env (.resting, run) (.resting, later)) {events : List (Event δ)}
    (quiet : windowsAsked events = []) : AsksOnce env mayWait run (step.after events) := by
  cases asks with
  | nothing quietStep => exact .nothing (by simp [Step.after, quiet, quietStep])
  | @page asking stop windowStop before onward hungry opened inside quietBefore =>
    have whole : AsksOnce env mayWait run
        ((load env mayWait stop windowStop asking.iterator asking.world).after
          (events ++ before)) :=
      .page (Relation.ReflTransGen.trans path onward) hungry opened inside
        (by simp [quiet, quietBefore])
    simpa [Step.after] using whole

theorem asksOnce_advanceWindow (hungry : Hungry run.iterator stop)
    (opened : run.iterator.windowStop = some windowStop) :
    AsksOnce env mayWait run
      (advanceWindow env mayWait stop windowStop run.iterator run.world) := by
  unfold advanceWindow
  split
  · exact .nothing (windowsAsked_finishWindow env mayWait stop windowStop _ _)
  · rename_i inside
    exact .page Relation.ReflTransGen.refl hungry opened (Int.not_le.mp inside) windowsAsked_nil

theorem asksOnce_fetchOpen (hungry : Hungry run.iterator stop) :
    AsksOnce env mayWait run (fetchOpen env mayWait stop run.iterator run.world) := by
  cases opened : run.iterator.windowStop with
  | some windowStop =>
    rw [fetchOpen, opened]
    exact asksOnce_advanceWindow hungry opened
  | none =>
    rcases opening : newWindowStop env run.iterator.scope.complete stop run.world
      with ⟨windowStop, world, events⟩
    let later := run.advance { run.iterator with windowStop := some windowStop } world events
    have asks : AsksOnce env mayWait later
        (advanceWindow env mayWait stop windowStop later.iterator later.world) :=
      asksOnce_advanceWindow ⟨⟨hungry.notClosed, hungry.notExhausted, hungry.stopNanos⟩,
        hungry.nothingReady, hungry.notDue⟩ rfl
    simpa [fetchOpen, opened, opening, later, Run.advance] using
      asks.after (Path.single (Move.openFirst hungry opened opening)) (quiet_of_opening opening).1

/-- A fetch asks for one page at most, of the window that is open then. -/
theorem asksOnce_fetch (needsFetch : ¬NeedsNoFetch run.iterator) :
    AsksOnce env mayWait run (fetch env mayWait run.iterator run.world) := by
  obtain ⟨notClosed, nothingReady, notExhausted⟩ := not_needsNoFetch.mp needsFetch
  unfold fetch
  split
  · exact .nothing rfl
  · rename_i stop stopNanos
    have active : Active run.iterator stop := ⟨notClosed, notExhausted, stopNanos⟩
    unfold fetchWithin
    split
    · rename_i due
      let settled : Run ω δ := { run with iterator := { run.iterator with waitDue := false } }
      have settledActive : Active settled.iterator stop := ⟨notClosed, notExhausted, stopNanos⟩
      have quiet := windowsAsked_waitThenOpen env stop settled.iterator settled.world
      dsimp only
      split
      · exact .nothing quiet
      · rename_i goesOn
        have stillOpen := (Bool.or_eq_false_iff.mp (eq_false_of_ne_true goesOn)).1
        have waited : Path env (.resting, run) (.resting, run.after
            (waitThenOpen env stop settled.iterator settled.world)) :=
          Path.cons (Move.resume active nothingReady due)
            (path_waitThenOpen env settled settledActive)
        exact (asksOnce_fetchOpen (hungry_waitThenOpen env run.world settledActive nothingReady rfl
          stillOpen)).after waited quiet
    · rename_i notDue
      exact asksOnce_fetchOpen ⟨active, nothingReady, eq_false_of_ne_true notDue⟩

/-! ## Where the cursor goes -/

section Cursor

variable {iterator : Iterator δ} {world : ω}

omit [WaitTime δ] in
/-- Opening the next window does not lead past the end of this one. -/
theorem cursor_openNext_lt (behind : LastBehind iterator)
    (opened : iterator.windowStop = some windowStop) (inside : iterator.cursor < windowStop) :
    (openNext env stop iterator world).iterator.cursor < windowStop := by
  rw [openNext_eq]
  exact behind.cursor_catchUp_lt opened inside

theorem cursor_waitThenOpen_lt (behind : LastBehind iterator)
    (opened : iterator.windowStop = some windowStop) (inside : iterator.cursor < windowStop) :
    (waitThenOpen env stop iterator world).iterator.cursor < windowStop := by
  obtain ⟨failure, later, eq⟩ | ⟨later, eq⟩ | ⟨later, eq⟩ :=
    waitThenOpen_cases env stop iterator world
  · rw [eq]
    exact inside
  · rw [eq]
    exact inside
  · rw [eq, Step.iterator_after]
    refine cursor_openNext_lt ?_ opened inside
    exact behind.onward rfl rfl (Int.le_refl _)

/-- Going on after a window does not lead past its end. -/
theorem cursor_finishWindow_lt (behind : LastBehind iterator)
    (opened : iterator.windowStop = some windowStop) (inside : iterator.cursor < windowStop) :
    (finishWindow env mayWait stop windowStop iterator world).iterator.cursor < windowStop := by
  unfold finishWindow
  dsimp only
  split
  · exact inside
  · split
    · refine cursor_openNext_lt ?_ opened inside
      exact behind.onward rfl rfl (Int.le_refl _)
    · split
      · exact inside
      · split
        · exact cursor_waitThenOpen_lt behind opened inside
        · exact inside

/-- A query that fails makes the step fail. -/
theorem exists_batch_of_load
    (noFailure : (load env mayWait stop windowStop iterator world).failure = none) :
    ∃ batch, (env.query ⟨iterator.cursor, windowStop⟩ world).1.1 = .ok batch := by
  rcases answer : env.query ⟨iterator.cursor, windowStop⟩ world
    with ⟨⟨failure | batch, closes⟩, later⟩
  case error => cases closes <;> simp [load_eq, answer, takeReply] at noFailure
  case ok => exact ⟨batch, rfl⟩

/-- When a page from inside the window is taken in, the cursor passes a time behind the window if
the page says to go on after this time, and for nothing else. -/
theorem passes_takeIn_iff {batch : Batch} (behind : LastBehind iterator)
    (notClosed : iterator.closed = false) (opened : iterator.windowStop = some windowStop)
    (inside : iterator.cursor < windowStop)
    (entriesInside : ∀ entry ∈ Entry.sorted batch.entries, entry.timestamp < windowStop)
    {time : Int} (notBefore : windowStop ≤ time) {step : Step ω δ}
    (takenIn : takeIn env mayWait stop windowStop batch iterator world = step) :
    time < step.iterator.cursor
      ↔ step.failure = none ∧ step.iterator.closed = false
        ∧ ∃ next, batch.next = some next ∧ time < next := by
  subst takenIn
  rcases acceptance : acceptAll stop (Entry.sorted batch.entries) iterator
    with ⟨next, taken, _ | failure⟩
  all_goals have same := sameBut_of_acceptance acceptance
  case some =>
    rw [takeIn_brokenOff mayWait acceptance, same.cursor]
    exact iff_of_false (by omega) (by simp)
  case none =>
    cases turned : batch.next with
    | some cursor =>
      rw [takeIn_turned mayWait acceptance turned, follow_eq]
      have further : (next.countTaken taken).cursor = iterator.cursor := same.cursor
      have stillOpen : (next.countTaken taken).closed = false := same.closed.trans notClosed
      simp only [Step.failure_after, Step.iterator_after, cursor_advance, closed_advance,
        further, stillOpen, true_and]
      constructor
      · intro passed
        exact ⟨cursor, rfl, by omega⟩
      · rintro ⟨_, ⟨⟩, before⟩
        omega
    | none =>
      rw [takeIn_last mayWait acceptance turned, Step.iterator_after]
      have accepted := behind.of_acceptance opened entriesInside acceptance
      have before : (finishWindow env mayWait stop windowStop (next.countTaken taken)
          world).iterator.cursor < windowStop :=
        cursor_finishWindow_lt (accepted.onward rfl rfl (Int.le_refl _))
          (same.windowStop.trans opened) (same.cursor ▸ inside)
      exact iff_of_false (by omega) (by simp)

/-- The cursor passes a time behind the window if a page was taken in that says to go on after this
time, and for nothing else. -/
theorem passes_load_iff (staysInside : StaysInside env) (behind : LastBehind iterator)
    (notClosed : iterator.closed = false) (opened : iterator.windowStop = some windowStop)
    (inside : iterator.cursor < windowStop) {time : Int} (notBefore : windowStop ≤ time) :
    let step := load env mayWait stop windowStop iterator world
    time < step.iterator.cursor
      ↔ step.failure = none ∧ step.iterator.closed = false
        ∧ ∃ batch, (env.query ⟨iterator.cursor, windowStop⟩ world).1.1 = .ok batch
          ∧ ∃ next, batch.next = some next ∧ time < next := by
  intro step
  have stays : ¬time < iterator.cursor := by omega
  rcases answer : env.query ⟨iterator.cursor, windowStop⟩ world
    with ⟨⟨failure | batch, closes⟩, later⟩
  case error =>
    have failed : step.failure = some failure ∧ step.iterator.cursor = iterator.cursor := by
      cases closes <;> simp [step, load_eq, answer, takeReply, close]
    rw [failed.1, failed.2]
    exact iff_of_false stays (by simp)
  case ok =>
    cases closes with
    | true =>
      have dropped : step.iterator.closed = true ∧ step.iterator.cursor = iterator.cursor := by
        simp [step, load_eq, answer, takeReply, close]
      rw [dropped.1, dropped.2]
      exact iff_of_false stays (by simp)
    | false =>
      have page : step = (takeIn env mayWait stop windowStop batch iterator later).after
          [pageEvent iterator windowStop batch] := by
        simp only [step, load_eq, answer, takeReply_page]
      rw [page, Step.failure_after, Step.iterator_after, passes_takeIn_iff behind notClosed opened
        inside (staysInside.lt_of_mem_sorted answer) notBefore rfl]
      simp

end Cursor

/-- Of a fetch that asks for a window the same holds. -/
theorem passes_fetch_iff (staysInside : StaysInside env) (needsFetch : ¬NeedsNoFetch run.iterator)
    (behind : LastBehind run.iterator) :
    let step := fetch env mayWait run.iterator run.world
    ∀ window ∈ windowsAsked step.events,
      ∃ asking, Path env (.resting, run) (.resting, asking)
        ∧ (step.failure = none → ∃ batch, (env.query window asking.world).1.1 = .ok batch)
        ∧ ∀ time, window.stop ≤ time →
          (time < step.iterator.cursor
            ↔ step.failure = none ∧ step.iterator.closed = false
              ∧ ∃ batch, (env.query window asking.world).1.1 = .ok batch
                ∧ ∃ next, batch.next = some next ∧ time < next) := by
  intro step window asked
  have asks : AsksOnce env mayWait run step := asksOnce_fetch needsFetch
  clear_value step
  cases asks with
  | nothing quiet => simp [quiet] at asked
  | @page asking stop windowStop events path hungry opened inside quiet =>
    rw [Step.after, windowsAsked_append, quiet, List.nil_append, windowsAsked_load,
      List.mem_singleton] at asked
    subst asked
    have stillBehind : LastBehind asking.iterator :=
      path.invariant (fun _ run => LastBehind run.iterator) (LastBehind.move staysInside) behind
    exact ⟨asking, path, exists_batch_of_load, fun time notBefore =>
      passes_load_iff staysInside stillBehind hungry.notClosed opened inside notBefore⟩

/-! ## Behind a client -/

/-- What holds of the world and is kept by whatever is asked of the outside holds after any
moves. -/
theorem Path.keeps (Kept : ω → Prop) (clock : ∀ world, Kept world → Kept (env.clock world).2)
    (query : ∀ window world, Kept world → Kept (env.query window world).2)
    (wait : ∀ number interval world, Kept world → Kept (env.wait number interval world).2)
    {stage stage' : Stage} {run run' : Run ω δ} (path : Path env (stage, run) (stage', run'))
    (holds : Kept run.world) : Kept run'.world := by
  have opens {complete : Bool} {stop : Option Int} {world later : ω} {windowStop : Int}
      {events : List (Event δ)}
      (opening : newWindowStop env complete stop world = (windowStop, later, events))
      (kept : Kept world) : Kept later := by
    unfold newWindowStop at opening
    split at opening <;> cases opening
    · exact kept
    · exact clock world kept
    · exact clock world kept
  have asks {window : Window} {world later : ω} {reply : Except Failure Batch × Bool}
      (answer : env.query window world = (reply, later)) (kept : Kept world) : Kept later := by
    simpa [answer] using query window world kept
  have waits {number : Nat} {interval : δ} {world later : ω} {outcome : Except Failure Bool}
      (answer : env.wait number interval world = (outcome, later)) (kept : Kept world) :
      Kept later := by
    simpa [answer] using wait number interval world kept
  refine path.invariant (fun _ run => Kept run.world) (fun move kept => ?_) holds
  cases move with
  | resume | useUp | finish | giveUp | postpone | beginWait | handOut | close => exact kept
  | openFirst _ _ opening => exact opens opening kept
  | failQuery _ _ _ answer | dropPage _ _ _ answer | breakOff _ _ _ answer
  | lastPage _ _ _ answer => exact asks answer kept
  | turnPage _ _ _ answer =>
    simp only [Run.after, Run.advance, follow_eq]
    exact asks answer kept
  | renew =>
    simp only [Run.after, Run.advance, openNext_eq]
    exact opens rfl kept
  | failWait _ answer | breakWait _ answer => exact waits answer kept
  | endWait _ answer =>
    simp only [Run.after, Run.advance, openNext_eq]
    exact opens rfl (waits answer kept)

omit [WaitTime δ] in
/-- The page size of a client stays. -/
theorem pageSize_of_path {host : Host ω} {scope : Scope} {stage stage' : Stage}
    {run run' : Run (Session ω) Float}
    (path : Path (host.surroundings scope) (stage, run) (stage', run')) :
    run'.world.client.pageSize = run.world.client.pageSize :=
  path.keeps (fun session => session.client.pageSize = run.world.client.pageSize)
    (fun _ kept => kept) (fun _ _ kept => kept) (fun _ _ _ kept => kept) rfl

/-- A query that is answered with a response comes to the batch in it, or to a failure. -/
theorem ofResponse_of_query {next : Host ω} {response : Response} {payload : Json}
    (answers : ∀ request world, (next.sender.send request world).1.answer = .ok response)
    (read : response.json = .ok payload) {scope : Scope} {window : Window}
    {session : Session ω} {batch : Batch}
    (queried : ((next.surroundings scope).query window session).1.1 = .ok batch) :
    Batch.ofResponse next.sender.room session.client.pageSize window payload = .ok batch := by
  have isBatch : (session.client.query next.sender scope window session.world).batch = .ok batch :=
    queried
  rw [Client.batch_query] at isBatch
  obtain ⟨answered, value, isAnswer, isValue, ofResponse⟩ := ofResponse_of_readAnswer isBatch
  unfold Connection.execute at isAnswer
  split at isAnswer
  · cases isAnswer
  · split at isAnswer
    · cases isAnswer
    · cases (answers _ _).symm.trans isAnswer
      cases read.symm.trans isValue
      exact ofResponse

/-- When a fetch has asked for a window, the cursor is past a time behind this window exactly if the
response was taken in, its values make a page and one of them is later than this time.

This holds after any calls and for whatever response is sent, in particular for the time of every
value that is discarded because it lies behind the window.  So a discarded line is asked for again
unless it came on a full page with a later one. -/
theorem cursor_passes_iff (host next : Host ω) (client : Client) {scope : Scope}
    {policy : TailPolicy Float} {iterator : Iterator Float}
    (started : Iterator.start scope policy = .ok iterator) (world : ω) (calls : List Call)
    (mayWait : Bool) {response : Response} {payload : Json}
    (answers : ∀ request world, (next.sender.send request world).1.answer = .ok response)
    (read : response.json = .ok payload) :
    let run := (Run.start iterator ⟨client, world⟩).calls (host.surroundings scope) calls
    let step := fetch (next.surroundings scope) mayWait run.iterator run.world
    ¬NeedsNoFetch run.iterator → ∀ window ∈ windowsAsked step.events, ∀ time, window.stop ≤ time →
      (time < step.iterator.cursor
        ↔ step.failure = none ∧ step.iterator.closed = false
          ∧ ∃ values, Batch.allValues payload = .ok values ∧ client.pageSize ≤ values.length
            ∧ ∃ other ∈ values, ∃ later, Batch.stamp other = .ok later ∧ time < later) := by
  intro run step needsFetch window asked time notBefore
  have path := path_calls (host.surroundings scope) (Run.start iterator ⟨client, world⟩) calls
  have behind : LastBehind run.iterator := by
    refine path.invariant (fun _ run => LastBehind run.iterator)
      (LastBehind.move (staysInside_surroundings host scope)) ?_
    obtain ⟨cursor, -, rfl⟩ := eq_of_start started
    rintro last ⟨⟩
  obtain ⟨asking, onward, exists_batch, passes_iff⟩ :=
    passes_fetch_iff (staysInside_surroundings next scope) needsFetch behind window asked
  have samePage : asking.world.client.pageSize = client.pageSize :=
    (pageSize_of_path onward).trans (pageSize_of_path path)
  have says_iff {batch : Batch}
      (queried : ((next.surroundings scope).query window asking.world).1.1 = .ok batch) :=
    samePage ▸ Batch.passes_iff_of_ofResponse (ofResponse_of_query answers read queried)
  refine (passes_iff time notBefore).trans
    (and_congr_right fun noFailure => and_congr_right fun stillOpen => ⟨?_, ?_⟩)
  · rintro ⟨batch, queried, passes⟩
    obtain ⟨values, areValues, passes_iff⟩ := says_iff queried
    exact ⟨values, areValues, (passes_iff time).mp passes⟩
  · rintro ⟨values, areValues, makePage⟩
    obtain ⟨batch, queried⟩ := exists_batch noFailure
    obtain ⟨others, areOthers, passes_iff⟩ := says_iff queried
    cases areValues.symm.trans areOthers
    exact ⟨batch, queried, (passes_iff time).mpr makePage⟩

/-- A full page of two lines, both of them behind the window that ends at ten nanoseconds. -/
def farText : Text :=
  "\x7b\"data\":\x7b\"result\":[\x7b\"values\":[[\"12\",\"a\"],[\"20\",\"b\"]]\x7d]\x7d\x7d"

/-- What is read from this page. -/
def farPayload : Json :=
  .object [("data", .object [("result", .list [.object [("values",
    .list [.list [.text "12", .text "a"], .list [.text "20", .text "b"]])]])])]

theorem read_farText : (Response.ofBody 6 200 farText.utf8).json = .ok farPayload := by
  cbv

theorem allValues_farPayload : Batch.allValues farPayload
    = .ok [.list [.text "12", .text "a"], .list [.text "20", .text "b"]] := by
  rfl

theorem stamp_first : Batch.stamp (.list [.text "12", .text "a"]) = .ok 12 := by
  cbv

theorem stamp_second : Batch.stamp (.list [.text "20", .text "b"]) = .ok 20 := by
  cbv

/-- A backend that always answers with this page, and a clock that goes on with every answer. -/
def farAhead : Host Nat where
  sender := StandIn.sender 0x100000 fun _ count =>
    (⟨.ok (.ofBody 6 200 farText.utf8), .nothing, []⟩, count + 1)
  clock count := (10 + 20 * count, count)
  wait _ _ count := (.ok false, count)
  now count := (⟨0, none⟩, count)

/-- The cursor passes the first line of the page but not the second one. -/
theorem farAhead_cursor_passes_first :
    ∃ iterator, Iterator.start Scope.ongoing TailPolicy.standard = .ok iterator ∧
      let client : Client := ⟨⟨"http://loki:3100", none, none, true, 10, false⟩, ⟨"ci", none⟩, 2⟩
      let step := fetch (farAhead.surroundings Scope.ongoing) false iterator ⟨client, 0⟩
      windowsAsked step.events = [⟨0, 10⟩]
        ∧ 12 < step.iterator.cursor ∧ ¬20 < step.iterator.cursor := by
  have started : Iterator.start Scope.ongoing TailPolicy.standard = .ok _ := rfl
  refine ⟨_, started, ?_⟩
  intro client step
  have asked : windowsAsked step.events = [⟨0, 10⟩] := by decide +kernel
  have passes_iff := cursor_passes_iff farAhead farAhead client started 0 [] false
    (fun _ _ => rfl) read_farText (not_needsNoFetch.mpr (by decide +kernel)) ⟨0, 10⟩
    (asked ▸ List.mem_singleton_self _)
  refine ⟨asked, (passes_iff 12 (by decide)).mpr ⟨by decide +kernel, by decide +kernel, _,
    allValues_farPayload, by decide, _, List.mem_cons_of_mem _ (List.mem_singleton_self _), 20,
    stamp_second, by decide⟩, fun passed => ?_⟩
  obtain ⟨-, -, values, areValues, -, other, among, later, stamped, after⟩ :=
    (passes_iff 20 (by decide)).mp passed
  cases allValues_farPayload.symm.trans areValues
  rcases List.mem_cons.mp among with rfl | isSecond
  · cases stamp_first.symm.trans stamped
    cases after
  · cases List.mem_singleton.mp isSecond
    cases stamp_second.symm.trans stamped
    cases after

/-- The first line of the page lies behind the window that was asked for and so is discarded, but
the next window begins after it, and only the second line is ever handed out. -/
theorem farAhead_loses_first :
    ∃ iterator, Iterator.start Scope.ongoing TailPolicy.standard = .ok iterator ∧
      let client : Client := ⟨⟨"http://loki:3100", none, none, true, 10, false⟩, ⟨"ci", none⟩, 2⟩
      let step := fetch (farAhead.surroundings Scope.ongoing) false iterator ⟨client, 0⟩
      let run := (Run.start iterator ⟨client, 0⟩).calls (farAhead.surroundings Scope.ongoing)
        [.prefetch, .next 3]
      (∃ values, Batch.allValues farPayload = .ok values ∧ .list [.text "12", .text "a"] ∈ values)
        ∧ Batch.stamp (.list [.text "12", .text "a"]) = .ok 12
        ∧ windowsAsked step.events = [⟨0, 10⟩] ∧ ¬step.iterator.cursor ≤ 12
        ∧ windowsAsked run.events = [⟨0, 10⟩, ⟨20, 30⟩]
        ∧ run.delivered.map Entry.timestamp = [20] := by
  refine ⟨_, rfl, ⟨_, allValues_farPayload, List.mem_cons_self⟩, stamp_first, ?_⟩
  decide +kernel

end Iterator
end RunLog
