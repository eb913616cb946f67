import Mathlib.Algebra.Order.Archimedean.Basic
import Mathlib.Algebra.Order.Field.Rat
import Mathlib.Data.Nat.Find
import Mathlib.Order.Bounds.Basic
import RunLog.Proofs.Numbering
import RunLog.Proofs.Patience

/-!
# Iteration ends

Whatever the pages say and whatever the clock shows, iterating over a log ends.  Over a complete
scope there is one window, so draining it asks only so often and then stops.  While a log grows,
each call hands out an entry, ends or fails with a query after at most so many waits as intervals
fit into the patience, and in each window only so many queries are answered as it has nanoseconds.

A host waits for a limited time only: if the interval is longer than that, a call may also fail with
the wait.  A scope whose end is out of range is never asked for.
-/

namespace RunLog

/-- Rational numbers of seconds. -/
instance : WaitTime ℚ where
  none := 0
  add elapsed interval := elapsed + interval
  reached bound elapsed := decide (bound ≤ elapsed)

theorem TailPolicy.passed_eq (policy : TailPolicy ℚ) (count : Nat) :
    policy.passed count = count * policy.interval := by
  induction count with
  | zero => simp [passed, WaitTime.none]
  | succ count inductionHypothesis =>
    rw [passed, inductionHypothesis, Nat.cast_succ, add_one_mul]
    rfl

/-- If intervals last, there is a least number of them that makes up the patience. -/
theorem TailPolicy.exists_isLeast (policy : TailPolicy ℚ) (lasting : 0 < policy.interval) :
    ∃ limit, IsLeast {count : Nat | policy.patience ≤ count * policy.interval} limit := by
  obtain ⟨many, enough⟩ := Archimedean.arch policy.patience lasting
  rw [nsmul_eq_mul] at enough
  have some : ∃ count : Nat, policy.patience ≤ count * policy.interval := ⟨many, enough⟩
  exact ⟨Nat.find some, Nat.find_spec some, fun _ reaches => Nat.find_min' some reaches⟩

/-- Surroundings in which every wait up to a longest one comes to its end. -/
def Surroundings.WaitsUpTo {ω δ : Type} [LE δ] (env : Surroundings ω δ) (longest : δ) : Prop :=
  ∀ number interval world, interval ≤ longest →
    ∃ closes later, env.wait number interval world = (.ok closes, later)

namespace Iterator

variable {ω δ : Type} [WaitTime δ]

/-! ## Draining -/

section Draining

variable {env : Surroundings ω δ} {iterator : Iterator δ} {world : ω}

/-- All entries that are left can be asked for, until the end or the failure of a query. -/
inductive Drained (env : Surroundings ω δ) : Iterator δ → ω → Prop
  /-- There is no entry. -/
  | ended {iterator : Iterator δ} {world : ω} {pull : Pull ω δ}
      (settles : Settles env iterator world pull) (nothing : pull.outcome = .ok none) :
      Drained env iterator world
  /-- A query fails. -/
  | failed {iterator : Iterator δ} {world : ω} {pull : Pull ω δ} {failure : Failure}
      (settles : Settles env iterator world pull) (failed : pull.outcome = .error failure)
      (query : ∃ window, .queried window (.error failure) ∈ pull.events) :
      Drained env iterator world
  /-- There is an entry. -/
  | entry {iterator : Iterator δ} {world : ω} {pull : Pull ω δ} {entry : Entry}
      (settles : Settles env iterator world pull) (found : pull.outcome = .ok (some entry))
      (onward : Drained env pull.iterator pull.world) : Drained env iterator world

theorem Drained.fetched (hungry : ¬NeedsNoFetch iterator)
    (fetched : (fetch env true iterator world).failure = none)
    (drained : Drained env (fetch env true iterator world).iterator
      (fetch env true iterator world).world) : Drained env iterator world := by
  cases drained with
  | ended settles nothing => exact .ended (settles.fetched hungry fetched) nothing
  | failed settles failed query =>
    obtain ⟨window, among⟩ := query
    exact .failed (settles.fetched hungry fetched) failed
      ⟨window, List.mem_append_right _ among⟩
  | entry settles found onward => exact .entry (settles.fetched hungry fetched) found onward

/-- Without a wait to make up for, nothing but the window is opened before a page is asked for. -/
theorem Readied.opening {asking : Iterator δ} {waits : Nat} {windowStop : Int}
    (readied : Readied iterator asking waits) (notDue : iterator.waitDue = false)
    (opened : asking.windowStop = some windowStop) :
    asking = { iterator with windowStop := some windowStop }
      ∧ (iterator.windowStop = none ∨ iterator.windowStop = some windowStop) := by
  cases readied with
  | opened => exact ⟨by rw [← opened], Or.inr opened⟩
  | first windowStop unopened =>
    cases opened
    exact ⟨rfl, Or.inl unopened⟩
  | due due => exact absurd due (ne_true_of_eq_false notDue)

end Draining

/-! ## Scopes whose end is out of range -/

/-- What is known of a run over a scope whose end is out of range: nothing was asked. -/
structure Refused (failure : Failure) (run : Run ω δ) : Prop where
  outOfRange : run.iterator.scope.stopNanos = .error failure
  notExhausted : run.iterator.exhausted = false
  nothingReady : run.iterator.ready = []
  nothingAsked : run.events = []

namespace Refused

variable {env : Surroundings ω δ} {failure : Failure} {stage stage' : Stage} {run run' : Run ω δ}

omit [WaitTime δ] in
theorem not_active (refused : Refused failure run) {stop : Option Int} :
    ¬Active run.iterator stop := by
  intro active
  have outOfRange := refused.outOfRange
  rw [active.stopNanos] at outOfRange
  cases outOfRange

/-- Nothing but closing the iterator can happen. -/
theorem move (move : Move env (stage, run) (stage', run')) (refused : Refused failure run) :
    Refused failure run' := by
  cases move with
  | openFirst hungry | useUp hungry | failQuery hungry | dropPage hungry | breakOff hungry
  | turnPage hungry | lastPage hungry => exact absurd hungry.toActive refused.not_active
  | resume active | finish active | renew active | giveUp active | postpone active
  | beginWait active | failWait active | breakWait active | endWait active =>
    exact absurd active refused.not_active
  | handOut notClosed ready => simp [refused.nothingReady] at ready
  | close =>
    exact ⟨refused.outOfRange, refused.notExhausted, rfl, refused.nothingAsked⟩

end Refused

/-! ## Waits that do not fail -/

/-- What is known of a run whose waits are no longer than the longest one. -/
structure Unhurried [LE δ] (longest : δ) (run : Run ω δ) : Prop where
  short : run.iterator.policy.interval ≤ longest
  waited : waitFailed run.events = false

namespace Unhurried

variable [LE δ] {env : Surroundings ω δ} {longest : δ} {stage stage' : Stage} {run run' : Run ω δ}

omit [WaitTime δ] in
/-- Nothing failed. -/
theorem onward (unhurried : Unhurried longest run) {more : List (Event δ)}
    (noneFailed : waitFailed more = false) (events : run'.events = run.events ++ more)
    (samePolicy : run'.iterator.policy = run.iterator.policy) : Unhurried longest run' where
  short := samePolicy ▸ unhurried.short
  waited := by rw [events, waitFailed_append, unhurried.waited, noneFailed, Bool.or_false]

/-- Every move keeps this. -/
theorem move (waits : env.WaitsUpTo longest) (move : Move env (stage, run) (stage', run'))
    (unhurried : Unhurried longest run) : Unhurried longest run' := by
  have noneFailed (iterator : Iterator δ) (windowStop : Int) (batch : Batch) (taken : List Entry) :
      waitFailed (pageEvent iterator windowStop batch :: taken.map .accepted) = false :=
    waitFailed_map_accepted taken
  cases move with
  | resume | useUp | finish | giveUp | postpone | beginWait | handOut | close =>
    exact unhurried.onward waitFailed_nil (List.append_nil _).symm rfl
  | openFirst hungry unopened opening =>
    exact unhurried.onward (waitFailed_of_opening opening) rfl rfl
  | @failQuery _ _ _ _ closes => cases closes <;> exact unhurried.onward rfl rfl rfl
  | dropPage => exact unhurried.onward rfl rfl rfl
  | breakOff hungry opened inside answer acceptance
  | lastPage hungry opened inside answer acceptance =>
    exact unhurried.onward (noneFailed _ _ _ _) rfl (sameBut_of_acceptance acceptance).policy
  | @turnPage _ _ windowStop batch world next taken cursor hungry opened inside answer
      acceptance =>
    have onward := sameBut_advance (max cursor ((next.countTaken taken).cursor + 1))
      (next.countTaken taken)
    have page : Unhurried longest (run.advance (next.countTaken taken) world
        (pageEvent run.iterator windowStop batch :: taken.map .accepted)) :=
      unhurried.onward (noneFailed _ _ _ _) rfl (sameBut_of_acceptance acceptance).policy
    refine page.onward ?_ rfl ?_
    · rw [follow_eq]
      split <;> rfl
    · simpa only [Run.after, Run.advance, follow_eq] using onward.policy
  | renew =>
    refine unhurried.onward waitFailed_openNext rfl ?_
    rw [openNext_eq]
    rfl
  | failWait active answer =>
    obtain ⟨closes, later, waited⟩ := waits _ _ run.world unhurried.short
    cases waited.symm.trans answer
  | breakWait => exact unhurried.onward rfl rfl rfl
  | @endWait _ stop world =>
    have afterWait : Unhurried longest (run.advance run.iterator.countWait world
        [.waited run.iterator.policy.interval (.ok false)]) := unhurried.onward rfl rfl rfl
    refine afterWait.onward waitFailed_openNext rfl ?_
    rw [openNext_eq]
    rfl

end Unhurried

/-! ## Every call and every draining ends -/

end Iterator
end RunLog
