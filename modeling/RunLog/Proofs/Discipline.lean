import RunLog.Proofs.Deduplication
import RunLog.Proofs.Windows
import RunLog.StandIn.Http

/-!
# Windows in order

An iterator takes its windows from the pages and from the clock, which may say anything.  All the
same, every window that it asks for lies inside its scope, none of them begins before an earlier
one, and those of one window that are answered begin one after the other.  Behind a client an entry
is handed out only if it lies inside the window of the query that brought it.
-/

namespace RunLog

/-- The end of a scope, if there is one, is in range and no earlier than a time. -/
def Scope.Reaches (scope : Scope) (time : Int) : Prop :=
  ∃ stop, scope.stopNanos = .ok stop ∧ ∀ last ∈ stop, time ≤ last

namespace Entry

end Entry

/-! ## Payloads -/

namespace Iterator

variable {ω δ : Type}

/-- A query for a window was answered, and an entry of its page was accepted. -/
def Brought (events : List (Event δ)) (window : Window) (entry : Entry) : Prop :=
  ∃ before count, ∃ taken : List Entry, ∃ after,
    events = before ++ .queried window (.ok count) :: (taken.map .accepted ++ after)
      ∧ entry ∈ taken

theorem Brought.append {events : List (Event δ)} {window : Window} {entry : Entry}
    (brought : Brought events window entry) (more : List (Event δ)) :
    Brought (events ++ more) window entry := by
  obtain ⟨before, count, taken, after, rfl, among⟩ := brought
  exact ⟨before, count, taken, after ++ more, by simp, among⟩

/-- What is accepted of some entries are some of them. -/
theorem mem_of_acceptance {stop : Option Int} {entries taken : List Entry}
    {iterator next : Iterator δ} {failure : Option Failure}
    (acceptance : acceptAll stop entries iterator = (next, taken, failure)) :
    ∀ entry ∈ taken, entry ∈ entries := by
  have kept := acceptAll_induction stop
    (fun taken (_ : Iterator δ) => ∀ entry ∈ taken, entry ∈ entries)
    (fun taken _ entry _ present _ _ _ holds => by
      simpa [or_imp, forall_and] using ⟨holds, present⟩) [] iterator (by simp)
  simpa [acceptance] using kept

/-! ## Windows of a run -/

/-- No window that was asked for begins after the cursor or before an earlier one, none ends after
the scope, and every entry that was accepted lies inside the window of the query that brought it. -/
structure Disciplined (scope : Scope) (run : Run ω δ) : Prop where
  sameScope : run.iterator.scope = scope
  behind : ∀ window ∈ windowsAsked run.events, window.start ≤ run.iterator.cursor
  rising : (windowsAsked run.events).Pairwise fun earlier later => earlier.start ≤ later.start
  opened : ∀ windowStop, run.iterator.windowStop = some windowStop → scope.Reaches windowStop
  reached : ∀ window ∈ windowsAsked run.events, scope.Reaches window.stop
  brought : ∀ entry ∈ acceptedEntries run.events,
    ∃ window, Brought run.events window entry ∧ window.contains entry.timestamp = true

namespace Disciplined

variable {scope : Scope} {run run' : Run ω δ}

/-- Nothing was asked and accepted, and the cursor did not go back. -/
theorem quiet (disciplined : Disciplined scope run) {more : List (Event δ)}
    (noWindow : windowsAsked more = []) (noEntry : acceptedEntries more = [])
    (events : run'.events = run.events ++ more)
    (sameScope : run'.iterator.scope = run.iterator.scope)
    (onward : run.iterator.cursor ≤ run'.iterator.cursor)
    (opened : ∀ windowStop, run'.iterator.windowStop = some windowStop →
      scope.Reaches windowStop) : Disciplined scope run' := by
  have sameWindows : windowsAsked run'.events = windowsAsked run.events := by
    rw [events, windowsAsked_append, noWindow, List.append_nil]
  have sameEntries : acceptedEntries run'.events = acceptedEntries run.events := by
    rw [events, acceptedEntries_append, noEntry, List.append_nil]
  refine ⟨sameScope.trans disciplined.sameScope, ?_, sameWindows ▸ disciplined.rising, opened,
    sameWindows ▸ disciplined.reached, ?_⟩
  · rw [sameWindows]
    exact fun window among => Int.le_trans (disciplined.behind window among) onward
  · rw [sameEntries, events]
    intro entry among
    obtain ⟨window, brought, inside⟩ := disciplined.brought entry among
    exact ⟨window, brought.append more, inside⟩

/-- A page was asked for, and some of its entries were accepted. -/
theorem ask (disciplined : Disciplined scope run) {windowStop : Int}
    (opened : run.iterator.windowStop = some windowStop)
    (outcome : Except Failure Nat) (taken : List Entry) {rest : List (Event δ)}
    (noWindow : windowsAsked rest = []) (noEntry : acceptedEntries rest = [])
    (events : run'.events = run.events
      ++ .queried ⟨run.iterator.cursor, windowStop⟩ outcome :: (taken.map .accepted ++ rest))
    (sameScope : run'.iterator.scope = run.iterator.scope)
    (onward : run.iterator.cursor ≤ run'.iterator.cursor)
    (sameStop : run'.iterator.windowStop = run.iterator.windowStop)
    (inside : ∀ entry ∈ taken, (∃ count, outcome = .ok count)
      ∧ (Window.mk run.iterator.cursor windowStop).contains entry.timestamp = true) :
    Disciplined scope run' := by
  have windows : windowsAsked run'.events
      = windowsAsked run.events ++ [⟨run.iterator.cursor, windowStop⟩] := by
    rw [events, windowsAsked_append, windowsAsked_cons, windowsAsked_append, noWindow,
      windowsAsked_map_accepted]
    rfl
  have entries : acceptedEntries run'.events = acceptedEntries run.events ++ taken := by
    rw [events, acceptedEntries_append, acceptedEntries_cons, acceptedEntries_append, noEntry,
      acceptedEntries_map_accepted, List.append_nil]
    rfl
  refine ⟨sameScope.trans disciplined.sameScope, ?_, ?_, sameStop ▸ disciplined.opened, ?_, ?_⟩
  · rw [windows, List.forall_mem_append, List.forall_mem_singleton]
    exact ⟨fun window among => Int.le_trans (disciplined.behind window among) onward, onward⟩
  · rw [windows, List.pairwise_append]
    refine ⟨disciplined.rising, List.pairwise_singleton _ _, fun earlier among later isLater => ?_⟩
    cases List.mem_singleton.mp isLater
    exact disciplined.behind earlier among
  · rw [windows, List.forall_mem_append, List.forall_mem_singleton]
    exact ⟨disciplined.reached, disciplined.opened windowStop opened⟩
  · rw [entries, List.forall_mem_append, events]
    refine ⟨fun entry among => ?_, fun entry among => ?_⟩
    · obtain ⟨window, brought, within⟩ := disciplined.brought entry among
      exact ⟨window, brought.append _, within⟩
    · obtain ⟨⟨count, rfl⟩, within⟩ := inside entry among
      exact ⟨_, ⟨run.events, count, taken, rest, rfl, among⟩, within⟩

theorem start [WaitTime δ] {policy : TailPolicy δ} {iterator : Iterator δ} (world : ω)
    (started : Iterator.start scope policy = .ok iterator) :
    Disciplined scope (Run.start iterator world) := by
  obtain ⟨cursor, -, rfl⟩ := eq_of_start started
  exact ⟨rfl, by simp [Run.start], List.Pairwise.nil, by simp [Run.start], by simp [Run.start],
    by simp [Run.start]⟩

/-- The next window was opened. -/
theorem openNext {env : Surroundings ω δ} {stop : Option Int} (disciplined : Disciplined scope run)
    (iterator : Iterator δ) (world : ω) (stopNanos : scope.stopNanos = .ok stop)
    (sameScope : iterator.scope = run.iterator.scope)
    (sameCursor : iterator.cursor = run.iterator.cursor) {quiet : List (Event δ)}
    (noWindow : windowsAsked quiet = []) (noEntry : acceptedEntries quiet = []) :
    Disciplined scope (run.after ((Iterator.openNext env stop iterator world).after quiet)) := by
  rw [openNext_eq]
  rcases opening : newWindowStop env iterator.scope.complete stop world
    with ⟨windowStop, later, events⟩
  refine disciplined.quiet ?_ ?_ rfl sameScope ?_ fun _ opened => ?_
  · simp [Step.after, noWindow, (quiet_of_opening opening).1]
  · simp [Step.after, noEntry, acceptedEntries_of_opening opening]
  · exact sameCursor ▸ le_cursor_catchUp iterator
  · cases opened
    exact ⟨stop, stopNanos, le_of_opening opening⟩

/-- Every move keeps this. -/
theorem move [WaitTime δ] {env : Surroundings ω δ} (staysInside : StaysInside env)
    {stage stage' : Stage} (move : Move env (stage, run) (stage', run'))
    (disciplined : Disciplined scope run) : Disciplined scope run' := by
  have stopsAt {stop : Option Int} (active : Active run.iterator stop) :
      scope.stopNanos = .ok stop := disciplined.sameScope ▸ active.stopNanos
  have within {windowStop : Int} {stop : Option Int} {batch : Batch} {closes : Bool} {world : ω}
      {next : Iterator δ} {taken : List Entry} {failure : Option Failure}
      (answer : env.query ⟨run.iterator.cursor, windowStop⟩ run.world
        = ((.ok batch, closes), world))
      (acceptance : acceptAll stop (Entry.sorted batch.entries) run.iterator
        = (next, taken, failure)) :
      ∀ entry ∈ taken, (∃ count, Except.ok batch.entries.length = (.ok count : Except Failure Nat))
        ∧ (Window.mk run.iterator.cursor windowStop).contains entry.timestamp = true :=
    fun entry among => ⟨⟨_, rfl⟩, staysInside _ _ _ _ _ answer entry
      ((Entry.sorted_perm batch.entries).subset (mem_of_acceptance acceptance entry among))⟩
  cases move with
  | resume | useUp | finish | giveUp | postpone | beginWait | handOut | close =>
    exact disciplined.quiet rfl rfl (List.append_nil _).symm rfl (Int.le_refl _)
      disciplined.opened
  | openFirst hungry unopened opening =>
    refine disciplined.quiet (quiet_of_opening opening).1 (acceptedEntries_of_opening opening) rfl
      rfl (Int.le_refl _) fun _ opened => ?_
    cases opened
    exact ⟨_, stopsAt hungry.toActive, le_of_opening opening⟩
  | @failQuery _ _ windowStop failure closes world hungry opened =>
    cases closes <;>
      exact disciplined.ask opened (.error failure) [] rfl rfl rfl rfl (Int.le_refl _) rfl
        (by simp)
  | dropPage hungry opened =>
    exact disciplined.ask opened _ [] rfl rfl rfl rfl (Int.le_refl _) rfl (by simp)
  | breakOff hungry opened inside answer acceptance
  | lastPage hungry opened inside answer acceptance =>
    have same := sameBut_of_acceptance acceptance
    exact disciplined.ask opened (.ok _) _ windowsAsked_nil acceptedEntries_nil
      (by simp [Run.advance, pageEvent]) same.scope (Int.le_of_eq same.cursor.symm)
      same.windowStop (within answer acceptance)
  | @turnPage _ _ windowStop batch world next taken cursor hungry opened inside answer
      acceptance =>
    have same := sameBut_of_acceptance acceptance
    refine disciplined.ask opened (.ok batch.entries.length) taken
      (windowsAsked_follow cursor (next.countTaken taken) world)
      (acceptedEntries_follow cursor (next.countTaken taken) world)
      (by simp [Run.after, Run.advance, pageEvent]) ?_ ?_ ?_ (within answer acceptance)
    all_goals simp only [Run.after, Run.advance, follow_eq]
    · exact (scope_advance _ _).trans same.scope
    · rw [cursor_advance, countTaken, same.cursor]
      exact Int.le_max_left _ _
    · exact (windowStop_advance _ _).trans same.windowStop
  | renew active =>
    exact disciplined.openNext { run.iterator with elapsed := WaitTime.none } _ (stopsAt active) rfl
      rfl windowsAsked_nil acceptedEntries_nil
  | failWait | breakWait =>
    exact disciplined.quiet rfl rfl rfl rfl (Int.le_refl _)
      disciplined.opened
  | endWait active =>
    rw [Run.after_advance]
    exact disciplined.openNext run.iterator.countWait.passInterval _ (stopsAt active) rfl rfl rfl
      rfl

end Disciplined

/-- A page with a line at five nanoseconds, after one that lies outside. -/
def unorderedPage : Text :=
  "\x7b\"data\":\x7b\"result\":[\x7b\"values\":[[\"2000\",\"a\"],[\"5\",\"b\"]]\x7d]\x7d\x7d"

/-- A backend that always answers with this page, and a clock that goes back with every answer. -/
def sameAgain : Host Nat where
  sender := StandIn.sender 0x100000 fun _ count =>
    (⟨.ok (.ofBody 6 200 unorderedPage.utf8), .nothing, []⟩, count + 1)
  clock count := (900 - 400 * count, count)
  wait _ _ count := (.ok false, count)
  now count := (⟨0, none⟩, count)

end Iterator
end RunLog
