import RunLog.Proofs.Patience
import RunLog.Proofs.Retrying
import RunLog.Script

/-!
# Waits that are put off

Asking for the first page puts off the wait at the end of a window without new lines.  The wait is
made up for by whatever fetches next, and this may be another question for the first page, which
then waits.

A wait is owed exactly if the last thing that was done was to ask for the first page, where asking
for the next entry would have waited.  So the first page of a new iterator comes without a wait, and
so does a page that is asked for after an entry was.
-/

namespace RunLog
namespace Iterator

variable {ω δ : Type} [WaitTime δ] {env : Surroundings ω δ} {stop : Option Int} {windowStop : Int}
  {iterator : Iterator δ} {world : ω}

/-! ## Waits of a fetch -/

/-- A wait was put off and has to be made up for. -/
def Owes (iterator : Iterator δ) : Prop :=
  iterator.waitDue = true ∧ iterator.closed = false

/-- Asking for the first page puts off a wait at the end of a window, which a fetch for the next
entry would take. -/
def PutsOffWait (env : Surroundings ω δ) (iterator : Iterator δ) (world : ω) : Prop :=
  ¬NeedsNoFetch iterator
    ∧ waitCount (fetch env true iterator world).events
      = waitCount (fetch env false iterator world).events + 1

@[simp] theorem waitCount_waitThenOpen :
    waitCount (waitThenOpen env stop iterator world).events = 1 := by
  obtain ⟨failure, later, eq⟩ | ⟨later, eq⟩ | ⟨later, eq⟩ :=
    waitThenOpen_cases env stop iterator world
  · rw [eq]
    exact waitCount_waited _ _
  · rw [eq]
    exact waitCount_waited _ _
  · rw [eq, Step.after, waitCount_append, waitCount_openNext, waitCount_waited]

theorem waitCount_finishWindow_putOff :
    waitCount (finishWindow env false stop windowStop iterator world).events = 0 := by
  unfold finishWindow
  dsimp only
  split
  · rfl
  · split
    · exact waitCount_openNext env stop _ world
    · split <;> rfl

theorem waitCount_takeReply_putOff (reply : (Except Failure Batch × Bool) × ω) :
    waitCount (takeReply env false stop windowStop iterator reply).events = 0 := by
  obtain ⟨⟨_ | batch, closes⟩, later⟩ := reply
  case error failure => rfl
  case ok =>
    cases closes with
    | true => rfl
    | false =>
      rw [takeReply_page]
      rcases acceptance : acceptAll stop (Entry.sorted batch.entries) iterator
        with ⟨next, taken, _ | failure⟩
      case some =>
        rw [takeIn_brokenOff false acceptance]
        exact waitCount_page iterator windowStop batch taken
      case none =>
        have page := waitCount_page iterator windowStop batch taken
        cases turned : batch.next with
        | some cursor =>
          rw [takeIn_turned false acceptance turned, Step.after_after]
          exact (waitCount_append _ _).trans (by rw [waitCount_follow]; exact page)
        | none =>
          rw [takeIn_last false acceptance turned, Step.after_after]
          exact (waitCount_append _ _).trans (by rw [waitCount_finishWindow_putOff]; exact page)

theorem waitCount_fetchOpen_putOff :
    waitCount (fetchOpen env false stop iterator world).events = 0 := by
  have advancing (iterator : Iterator δ) (windowStop : Int) (world : ω) :
      waitCount (advanceWindow env false stop windowStop iterator world).events = 0 := by
    unfold advanceWindow
    split
    · exact waitCount_finishWindow_putOff
    · exact waitCount_takeReply_putOff _
  unfold fetchOpen
  split
  · exact advancing _ _ _
  · rcases opening : newWindowStop env iterator.scope.complete stop world
      with ⟨windowStop, later, events⟩
    simp only [Step.after, waitCount_append, advancing, waitCount_of_opening opening]

/-- A fetch that may not wait makes up for the wait that is owed, and does not wait again. -/
theorem waitCount_fetch_putOff (env : Surroundings ω δ) (world : ω)
    (active : Active iterator stop) :
    waitCount (fetch env false iterator world).events = if iterator.waitDue then 1 else 0 := by
  simp only [fetch, active.stopNanos, fetchWithin]
  cases iterator.waitDue with
  | false => exact waitCount_fetchOpen_putOff
  | true =>
    simp only [if_true]
    split
    · exact waitCount_waitThenOpen
    · rw [Step.after, waitCount_append, waitCount_waitThenOpen, waitCount_fetchOpen_putOff]

/-! ## Waits that a fetch leaves -/

omit [WaitTime δ] in
@[simp] theorem waitDue_openNext :
    (openNext env stop iterator world).iterator.waitDue = iterator.waitDue := by
  rw [openNext_eq]

@[simp] theorem waitDue_waitThenOpen :
    (waitThenOpen env stop iterator world).iterator.waitDue = iterator.waitDue := by
  obtain ⟨failure, later, eq⟩ | ⟨later, eq⟩ | ⟨later, eq⟩ :=
    waitThenOpen_cases env stop iterator world
  · rw [eq]
    rfl
  · rw [eq]
    rfl
  · rw [eq, Step.iterator_after, waitDue_openNext]
    rfl

theorem waitDue_finishWindow :
    (finishWindow env true stop windowStop iterator world).iterator.waitDue
      = iterator.waitDue := by
  unfold finishWindow
  dsimp only
  split
  · rfl
  · split
    · exact waitDue_openNext
    · split
      · rfl
      · exact waitDue_waitThenOpen

theorem waitDue_takeReply (reply : (Except Failure Batch × Bool) × ω) :
    (takeReply env true stop windowStop iterator reply).iterator.waitDue = iterator.waitDue := by
  obtain ⟨⟨_ | batch, closes⟩, later⟩ := reply
  case error failure => cases closes <;> rfl
  case ok =>
    cases closes with
    | true => rfl
    | false =>
      rw [takeReply_page, Step.iterator_after]
      rcases acceptance : acceptAll stop (Entry.sorted batch.entries) iterator
        with ⟨next, taken, _ | failure⟩
      all_goals have same := (sameBut_of_acceptance acceptance).waitDue
      case some => rwa [takeIn_brokenOff true acceptance]
      case none =>
        cases turned : batch.next with
        | some cursor =>
          rw [takeIn_turned true acceptance turned, Step.iterator_after, follow_eq,
            waitDue_advance]
          exact same
        | none =>
          rw [takeIn_last true acceptance turned, Step.iterator_after, waitDue_finishWindow]
          exact same

theorem waitDue_fetchOpen :
    (fetchOpen env true stop iterator world).iterator.waitDue = iterator.waitDue := by
  have advancing (iterator : Iterator δ) (windowStop : Int) (world : ω) :
      (advanceWindow env true stop windowStop iterator world).iterator.waitDue
        = iterator.waitDue := by
    unfold advanceWindow
    split
    · exact waitDue_finishWindow
    · exact waitDue_takeReply _
  unfold fetchOpen
  split
  · exact advancing _ _ _
  · exact advancing _ _ _

/-- A fetch that may wait leaves no wait that is owed, also if a wait fails in it. -/
theorem not_owes_fetch (env : Surroundings ω δ) (world : ω)
    (stopNanos : iterator.scope.stopNanos = .ok stop) :
    ¬Owes (fetch env true iterator world).iterator := by
  suffices notDue : (fetch env true iterator world).iterator.waitDue = false from
    fun owes => absurd owes.1 (ne_true_of_eq_false notDue)
  simp only [fetch, stopNanos, fetchWithin]
  cases due : iterator.waitDue with
  | false =>
    rw [if_neg (by simp), waitDue_fetchOpen]
    exact due
  | true =>
    have afterWait : (waitThenOpen env stop { iterator with waitDue := false }
        world).iterator.waitDue = false := waitDue_waitThenOpen
    rw [if_pos rfl]
    split
    · exact afterWait
    · rw [Step.iterator_after, waitDue_fetchOpen]
      exact afterWait

/-- A fetch that may not wait leaves a wait that is owed exactly if it puts one off. -/
theorem owes_fetch_iff (env : Surroundings ω δ) (world : ω)
    (stopNanos : iterator.scope.stopNanos = .ok stop) (hungry : ¬NeedsNoFetch iterator) :
    Owes (fetch env false iterator world).iterator ↔ PutsOffWait env iterator world := by
  have putOff := putOff_fetch env world stopNanos hungry
  have settled := not_owes_fetch env world stopNanos
  simp only [PutsOffWait, hungry, not_false_eq_true, true_and]
  generalize fetch env false iterator world = early at *
  generalize fetch env true iterator world = late at *
  cases putOff with
  | same => exact iff_of_false settled (by omega)
  | wait world events hungry =>
    refine iff_of_true ⟨rfl, hungry.notClosed⟩ ?_
    rw [Step.after, waitCount_append, waitCount_waitThenOpen]

/-- A wait that is put off is owed by an iterator that needs a fetch. -/
theorem hungry_of_owes_fetch (env : Surroundings ω δ) (world : ω)
    (stopNanos : iterator.scope.stopNanos = .ok stop) (hungry : ¬NeedsNoFetch iterator)
    (owes : Owes (fetch env false iterator world).iterator) :
    ¬NeedsNoFetch (fetch env false iterator world).iterator
      ∧ (fetch env false iterator world).iterator.scope.stopNanos = .ok stop := by
  have putOff := putOff_fetch env world stopNanos hungry
  have settled := not_owes_fetch env world stopNanos
  generalize fetch env false iterator world = early at *
  generalize fetch env true iterator world = late at *
  cases putOff with
  | same => exact absurd owes settled
  | wait world events hungry =>
    exact ⟨not_needsNoFetch.mpr ⟨hungry.notClosed, hungry.nothingReady, hungry.notExhausted⟩,
      hungry.stopNanos⟩

/-! ## Waits that calls leave -/

/-- A wait that is owed can be made up for: a fetch is needed, and the scope ends in range. -/
def Payable (iterator : Iterator δ) : Prop :=
  Owes iterator → ¬NeedsNoFetch iterator ∧ ∃ stop, iterator.scope.stopNanos = .ok stop

omit [WaitTime δ] in
theorem Payable.not_owes_of_needsNoFetch (payable : Payable iterator)
    (needsNoFetch : NeedsNoFetch iterator) : ¬Owes iterator :=
  fun owes => (payable owes).1 needsNoFetch

omit [WaitTime δ] in
theorem Payable.not_owes_of_outOfRange (payable : Payable iterator) {failure : Failure}
    (outOfRange : iterator.scope.stopNanos = .error failure) : ¬Owes iterator := by
  intro owes
  obtain ⟨-, stop, inRange⟩ := payable owes
  rw [outOfRange] at inRange
  cases inRange

theorem not_owes_next_of_needsNoFetch (fuel : Nat) (needsNoFetch : NeedsNoFetch iterator)
    (settled : ¬Owes iterator) : ¬Owes (next env fuel iterator world).iterator := by
  cases closed : iterator.closed with
  | true => rwa [next_closed env fuel iterator world closed]
  | false =>
    cases ready : iterator.ready with
    | cons entry rest => rwa [next_ready env fuel closed ready]
    | nil =>
      have exhausted : iterator.exhausted = true := by
        simpa [NeedsNoFetch, closed, ready] using needsNoFetch
      rwa [next_exhausted env fuel closed ready exhausted]

/-- Asking for the next entry leaves no wait that was not owed before. -/
theorem not_owes_next (fuel : Nat) (settled : ¬Owes iterator) :
    ¬Owes (next env fuel iterator world).iterator := by
  induction fuel generalizing iterator world with
  | zero =>
    by_cases needsNoFetch : NeedsNoFetch iterator
    · exact not_owes_next_of_needsNoFetch 0 needsNoFetch settled
    · obtain ⟨notClosed, nothingReady, notExhausted⟩ := not_needsNoFetch.mp needsNoFetch
      rwa [next_zero env notClosed nothingReady notExhausted]
  | succ fuel inductionHypothesis =>
    by_cases needsNoFetch : NeedsNoFetch iterator
    · exact not_owes_next_of_needsNoFetch (fuel + 1) needsNoFetch settled
    · obtain ⟨notClosed, nothingReady, notExhausted⟩ := not_needsNoFetch.mp needsNoFetch
      have settledStep : ¬Owes (fetch env true iterator world).iterator := by
        cases stopNanos : iterator.scope.stopNanos with
        | error failure => simpa [fetch, stopNanos] using settled
        | ok stop => exact not_owes_fetch env world stopNanos
      cases failed : (fetch env true iterator world).failure with
      | some failure => rwa [next_failed env fuel notClosed nothingReady notExhausted failed]
      | none =>
        rw [next_fetched env fuel notClosed nothingReady notExhausted failed]
        exact inductionHypothesis settledStep

/-- Asking for the next entry makes up for a wait that is owed. -/
theorem not_owes_next_succ (fuel : Nat) (payable : Payable iterator) :
    ¬Owes (next env (fuel + 1) iterator world).iterator := by
  by_cases owes : Owes iterator
  · obtain ⟨hungry, stop, stopNanos⟩ := payable owes
    obtain ⟨notClosed, nothingReady, notExhausted⟩ := not_needsNoFetch.mp hungry
    have settled := not_owes_fetch env world stopNanos
    cases failed : (fetch env true iterator world).failure with
    | some failure => rwa [next_failed env fuel notClosed nothingReady notExhausted failed]
    | none =>
      rw [next_fetched env fuel notClosed nothingReady notExhausted failed]
      exact not_owes_next fuel settled
  · exact not_owes_next (fuel + 1) owes

/-- Asking for the next entry without a fetch leaves a wait that is owed. -/
theorem next_zero_of_owes (payable : Payable iterator) (owes : Owes iterator) :
    (next env 0 iterator world).iterator = iterator := by
  obtain ⟨notClosed, nothingReady, notExhausted⟩ := not_needsNoFetch.mp (payable owes).1
  rw [next_zero env notClosed nothingReady notExhausted]

/-- Asking for the first page leaves a wait that is owed exactly if it puts one off. -/
theorem owes_prefetch_iff (payable : Payable iterator) :
    Owes (prefetch env iterator world).iterator ↔ PutsOffWait env iterator world := by
  by_cases needsNoFetch : NeedsNoFetch iterator
  · rw [Run.prefetch_of_needsNoFetch needsNoFetch]
    exact iff_of_false (payable.not_owes_of_needsNoFetch needsNoFetch)
      fun putsOff => putsOff.1 needsNoFetch
  · rw [Run.prefetch_of_hungry needsNoFetch]
    cases stopNanos : iterator.scope.stopNanos with
    | error failure =>
      simp only [PutsOffWait, fetch, stopNanos]
      exact iff_of_false (payable.not_owes_of_outOfRange stopNanos) (by simp)
    | ok stop => exact owes_fetch_iff env world stopNanos needsNoFetch

theorem payable_prefetch (payable : Payable iterator) :
    Payable (prefetch env iterator world).iterator := by
  by_cases needsNoFetch : NeedsNoFetch iterator
  · rwa [Run.prefetch_of_needsNoFetch needsNoFetch]
  · rw [Run.prefetch_of_hungry needsNoFetch]
    cases stopNanos : iterator.scope.stopNanos with
    | error failure => simpa [fetch, stopNanos] using payable
    | ok stop =>
      intro owes
      obtain ⟨hungry, stopNanosLater⟩ := hungry_of_owes_fetch env world stopNanos needsNoFetch owes
      exact ⟨hungry, stop, stopNanosLater⟩

/-- Asking for the first page waits once for a wait that is owed, and else not at all. -/
theorem waitCount_prefetch (env : Surroundings ω δ) (world : ω) (payable : Payable iterator) :
    waitCount (prefetch env iterator world).events ≤ 1
      ∧ (waitCount (prefetch env iterator world).events = 1 ↔ Owes iterator) := by
  by_cases needsNoFetch : NeedsNoFetch iterator
  · rw [Run.prefetch_of_needsNoFetch needsNoFetch]
    exact ⟨Nat.zero_le _,
      iff_of_false (by simp) (payable.not_owes_of_needsNoFetch needsNoFetch)⟩
  · rw [Run.prefetch_of_hungry needsNoFetch]
    obtain ⟨notClosed, nothingReady, notExhausted⟩ := not_needsNoFetch.mp needsNoFetch
    cases stopNanos : iterator.scope.stopNanos with
    | error failure =>
      simp only [fetch, stopNanos]
      exact ⟨Nat.zero_le _, iff_of_false (by simp) (payable.not_owes_of_outOfRange stopNanos)⟩
    | ok stop =>
      rw [waitCount_fetch_putOff env world ⟨notClosed, notExhausted, stopNanos⟩]
      cases due : iterator.waitDue <;> simp [Owes, due, notClosed]

/-! ## When asking for the first page waits -/

/-- The last call but for those that fetch nothing is a question for the first page, after some
other calls. -/
def EndsWithPrefetch (calls earlier : List Call) : Prop :=
  ∃ idle, calls = earlier ++ .prefetch :: List.replicate idle (.next 0)

theorem not_endsWithPrefetch_nil (earlier : List Call) : ¬EndsWithPrefetch [] earlier := by
  simp [EndsWithPrefetch]

theorem endsWithPrefetch_concat {calls earlier : List Call} {call : Call} :
    EndsWithPrefetch (calls ++ [call]) earlier
      ↔ call = .prefetch ∧ calls = earlier ∨ call = .next 0 ∧ EndsWithPrefetch calls earlier := by
  constructor
  · rintro ⟨_ | idle, split⟩
    · obtain ⟨rfl, same⟩ := List.append_inj' split rfl
      exact Or.inl ⟨List.head_eq_of_cons_eq same, rfl⟩
    · rw [List.replicate_succ', ← List.cons_append, ← List.append_assoc] at split
      obtain ⟨rfl, same⟩ := List.append_inj' split rfl
      exact Or.inr ⟨List.head_eq_of_cons_eq same, idle, rfl⟩
  · rintro (⟨rfl, rfl⟩ | ⟨rfl, idle, rfl⟩)
    · exact ⟨0, rfl⟩
    · exact ⟨idle + 1, by rw [List.replicate_succ', List.append_assoc, List.cons_append]⟩

/-- A wait is owed exactly if the last call was a question for the first page which put it off. -/
theorem owes_calls_iff (env : Surroundings ω δ) (run : Run ω δ)
    (notDue : run.iterator.waitDue = false) (calls : List Call) :
    Payable (run.calls env calls).iterator
      ∧ (Owes (run.calls env calls).iterator ↔ ∃ earlier, EndsWithPrefetch calls earlier
        ∧ PutsOffWait env (run.calls env earlier).iterator (run.calls env earlier).world) := by
  induction calls using List.reverseRecOn with
  | nil =>
    have settled : ¬Owes run.iterator := by simp [Owes, notDue]
    exact ⟨fun owes => absurd owes settled,
      iff_of_false settled fun ⟨earlier, ends, _⟩ => not_endsWithPrefetch_nil earlier ends⟩
  | append_singleton calls call inductionHypothesis =>
    obtain ⟨payable, owes_iff⟩ := inductionHypothesis
    simp only [endsWithPrefetch_concat]
    have whole : run.calls env (calls ++ [call]) = (run.calls env calls).call env call := by
      simp [Run.calls]
    rw [whole]
    generalize isRun : run.calls env calls = middle at *
    cases call with
    | prefetch =>
      refine ⟨payable_prefetch payable, (owes_prefetch_iff payable).trans ?_⟩
      simp [isRun]
    | close =>
      have settled : ¬Owes middle.iterator.close := by simp [Owes]
      exact ⟨fun owes => absurd owes settled, iff_of_false settled (by simp)⟩
    | next fuel =>
      cases fuel with
      | zero =>
        by_cases owes : Owes middle.iterator
        · have same : (middle.call env (.next 0)).iterator = middle.iterator :=
            next_zero_of_owes payable owes
          rw [same]
          exact ⟨payable, owes_iff.trans (by simp)⟩
        · have settled : ¬Owes (middle.call env (.next 0)).iterator := not_owes_next 0 owes
          exact ⟨fun owes => absurd owes settled,
            iff_of_false settled (by simpa [owes] using owes_iff)⟩
      | succ fuel =>
        have settled : ¬Owes (middle.call env (.next (fuel + 1))).iterator :=
          not_owes_next_succ fuel payable
        exact ⟨fun owes => absurd owes settled, iff_of_false settled (by simp)⟩

/-- Asking for the first page waits exactly if it was asked for right before and put a wait off, and
then it waits once.

This holds after any calls and whatever the surroundings answer, fail with or close.  So the first
page of an iterator is asked for without a wait, and so is a page after the next entry was asked
for; only asking for the first page again makes up for the wait. -/
theorem prefetch_waits_iff (env : Surroundings ω δ) {scope : Scope} {policy : TailPolicy δ}
    (started : Iterator.start scope policy = .ok iterator) (world : ω) (calls : List Call) :
    let after (calls : List Call) := (Run.start iterator world).calls env calls
    let waits := waitCount (prefetch env (after calls).iterator (after calls).world).events
    waits ≤ 1
      ∧ (waits = 1 ↔ ∃ earlier, EndsWithPrefetch calls earlier
        ∧ PutsOffWait env (after earlier).iterator (after earlier).world) := by
  intro after waits
  have notDue : iterator.waitDue = false := by
    obtain ⟨cursor, -, rfl⟩ := eq_of_start started
    rfl
  obtain ⟨payable, owes_iff⟩ := owes_calls_iff env (Run.start iterator world) notDue calls
  obtain ⟨once, waits_iff⟩ := waitCount_prefetch env (after calls).world payable
  exact ⟨once, waits_iff.trans owes_iff⟩

/-- A backend without lines, at a time that does not go on. -/
def standingStill : Script where
  readings := []
  deliveries := []
  batches := []
  closeAtWait := none
  now := ⟨0, none⟩
  sent := []

/-- After two waits for the next entry the wait that is put off is made up for when the first page
is asked for again. -/
theorem standingStill_prefetch_waits :
    ∃ iterator, Iterator.start (Scope.firstMicrosecond false) TailPolicy.standard = .ok iterator ∧
      let after := (Run.start iterator standingStill).calls Script.surroundings
      let before := after [.next 2]
      let last := after [.next 2, .prefetch, .next 0]
      waitCount before.events = 2
        ∧ PutsOffWait Script.surroundings before.iterator before.world
        ∧ waitCount (prefetch Script.surroundings last.iterator last.world).events = 1 := by
  have started : Iterator.start (Scope.firstMicrosecond false) TailPolicy.standard = .ok _ := rfl
  refine ⟨_, started, ?_⟩
  intro after before last
  have putsOff : PutsOffWait Script.surroundings before.iterator before.world :=
    ⟨not_needsNoFetch.mpr (by decide +kernel), by decide +kernel⟩
  exact ⟨by decide +kernel, putsOff,
    (prefetch_waits_iff Script.surroundings started standingStill _).2.mpr
      ⟨[.next 2], ⟨1, rfl⟩, putsOff⟩⟩

/-- Who asks for the first page twice waits. -/
theorem standingStill_second_prefetch_waits :
    ∃ iterator, Iterator.start (Scope.firstMicrosecond false) TailPolicy.standard = .ok iterator ∧
      let run := (Run.start iterator standingStill).calls Script.surroundings [.prefetch]
      waitCount run.events = 0
        ∧ waitCount (prefetch Script.surroundings run.iterator run.world).events = 1 := by
  refine ⟨_, rfl, ?_⟩
  decide +kernel

end Iterator
end RunLog
