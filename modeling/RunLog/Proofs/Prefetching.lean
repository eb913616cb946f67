import RunLog.Proofs.Ending

/-!
# Asking for the first page beforehand

Whoever opens a log asks for its first page before anything is read, so that a failure shows at
once; this must not wait.  An iterator that was asked for its first page goes another way than one
that was not: it puts its first wait off and makes up for it in the next fetch, or it has opened its
next window already.  A consumer cannot tell the two apart, whatever it asks for afterwards.
-/

namespace RunLog
namespace Iterator

variable {ω δ : Type}

/-- What a consumer sees: what happens, and what is answered to it. -/
inductive Sight (δ : Type)
  /-- Something happened. -/
  | event (event : Event δ)
  /-- The next entry was handed out, there was none, or there was a failure. -/
  | answer (outcome : Except Failure (Option Entry))

/-- What is seen from an iterator on, and what becomes of the iterator and the world. -/
structure View (ω δ : Type) where
  /-- What was seen, in order. -/
  sights : List (Sight δ)
  /-- The iterator afterwards. -/
  iterator : Iterator δ
  /-- The world afterwards. -/
  world : ω

/-- A view before which something happened. -/
def View.after (view : View ω δ) (events : List (Event δ)) : View ω δ :=
  { view with sights := events.map .event ++ view.sights }

/-- What is seen of an iterator that is asked for the next entry again and again, each time with at
most a given number of fetches.  A call that does not come to its end is left. -/
def watch [WaitTime δ] (env : Surroundings ω δ) : List Nat → Iterator δ → ω → View ω δ
  | [], iterator, world => ⟨[], iterator, world⟩
  | fuel :: rest, iterator, world =>
    let pull := next env fuel iterator world
    let view := watch env rest pull.iterator pull.world
    { view with sights := pull.events.map .event ++ .answer pull.outcome :: view.sights }

section Watching

variable [WaitTime δ] (env : Surroundings ω δ)

/-- Asking for the first page changes nothing about the next call, but that a fetch less is
needed. -/
theorem next_prefetch (iterator : Iterator δ) (world : ω)
    (succeeded : (prefetch env iterator world).failure = none) (fuel : Nat) :
    next env (fuel + 2) iterator world
      = let step := prefetch env iterator world
        let pull := next env (fuel + 1) step.iterator step.world
        { pull with events := step.events ++ pull.events } := by
  have same := Run.pull_prefetch env (Run.start iterator world) succeeded fuel
  simp only [Run.pull, Run.call, Run.after, Run.afterPull, Run.advance, Run.start,
    List.nil_append, Prod.mk.injEq, Run.mk.injEq] at same
  obtain ⟨⟨sameIterator, sameWorld, sameEvents, -⟩, sameOutcome⟩ := same
  rcases whole : next env (fuel + 2) iterator world with ⟨last, later, events, outcome⟩
  rw [whole] at sameIterator sameWorld sameEvents sameOutcome
  simp only [sameIterator, sameWorld, sameEvents, sameOutcome]

/-- Asking for the first page beforehand cannot be seen.

If it succeeds, then over any calls for the next entry the same happens in the same order, and the
same is answered, as if the first page had not been asked for: the readings of the clock, the
queries with their windows, the waits, the entries, the failures and the end.  The iterator and the
world are the same afterwards.  This holds whatever the surroundings answer, so also if the iterator
is closed during a wait. -/
theorem prefetch_unseen {iterator : Iterator δ} {world : ω}
    (succeeded : (prefetch env iterator world).failure = none) (fuel : Nat) (rest : List Nat) :
    let step := prefetch env iterator world
    (watch env ((fuel + 1) :: rest) step.iterator step.world).after step.events
      = watch env ((fuel + 2) :: rest) iterator world := by
  simp [watch, View.after, next_prefetch env iterator world succeeded fuel]

end Watching

/-- A backend with one line, at five nanoseconds, and a consumer who closes the iterator during the
second wait.  The world is the time, and a wait takes ten nanoseconds. -/
def leftEarly : Surroundings Nat ℚ where
  clock now := (now, now)
  query window now :=
    ((.ok ⟨if window.contains 5 then [⟨5, 0, [0x61], []⟩] else [], none⟩, false), now)
  wait number _ now := (.ok (number == 2), now + 10)

/-- The first wait is put off, and the iterator is closed during the second one all the same. -/
theorem leftEarly_prefetch_unseen :
    ∃ iterator, Iterator.start (Scope.firstMicrosecond false) ⟨1, 30⟩ = .ok iterator ∧
      let step := prefetch leftEarly iterator 0
      let view := watch leftEarly [6, 5, 5] iterator 0
      step.iterator.waitDue = true ∧ step.failure = none
        ∧ (watch leftEarly [5, 5, 5] step.iterator step.world).after step.events = view
        ∧ view.iterator.waits = 2 ∧ view.iterator.closed = true := by
  refine ⟨_, rfl, ?_⟩
  intro step view
  have succeeded : step.failure = none := by decide +kernel
  exact ⟨by decide +kernel, succeeded, prefetch_unseen leftEarly succeeded 4 [5, 5],
    by decide +kernel, by decide +kernel⟩

end Iterator
end RunLog
