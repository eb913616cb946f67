import RunLog.Batch
import RunLog.Scope
import RunLog.Tail

/-!
# Iterating over a log

The iterator hands out the lines of a scope one by one, in order and without repetition.  It asks
for pages inside a window of time.  Pages may overlap, so every entry is checked against the
fingerprints of those handed out and against the time of the last one; entries that pass are
numbered afresh, from zero at each new time.

A window ends at the end of the scope, or at the time it was opened when the scope is open or its
run not complete.  When a window is used up and more can come, the iterator waits and opens the next
one, until no line has come for as long as the policy says.

The clock, the queries and the waits are those of `Surroundings`.  Every call returns the iterator
and the world after it and the events on the way, also when it fails.
-/

namespace RunLog

/-- What an iterator asks of the outside. -/
structure Surroundings (ω δ : Type) where
  /-- The time, in nanoseconds. -/
  clock : ω → Int × ω
  /-- A page of the lines in a window, and whether the iterator was closed meanwhile. -/
  query : Window → ω → (Except Failure Batch × Bool) × ω
  /-- A wait, with its number among those of the iterator; whether the iterator was closed
  meanwhile, or why nobody waited. -/
  wait : Nat → δ → ω → Except Failure Bool × ω

/-- What happened on the way. -/
inductive Event (δ : Type)
  /-- The clock was read. -/
  | clockRead (reading : Int)
  /-- A page was asked for: its window and how many entries came. -/
  | queried (window : Window) (outcome : Except Failure Nat)
  /-- An entry of a page was accepted; it has the number that it came with. -/
  | accepted (entry : Entry)
  /-- There was to be a wait; whether the iterator was closed meanwhile, or why nobody waited. -/
  | waited (interval : δ) (outcome : Except Failure Bool)
  /-- A full page did not go past the place where it began. -/
  | stalled (cursor : Int)

/-- An iterator over the lines of a scope. -/
structure Iterator (δ : Type) where
  /-- Which lines are wanted. -/
  scope : Scope
  /-- How a growing log is followed. -/
  policy : TailPolicy δ
  /-- The entries that are ready to be handed out. -/
  ready : List Entry
  /-- The fingerprints of accepted entries that could come again. -/
  accepted : List Fingerprint
  /-- The position of the last accepted entry. -/
  last : Option SortKey
  /-- The time from which on lines are still to be asked for. -/
  cursor : Int
  /-- The end of the window, once it is open. -/
  windowStop : Option Int
  /-- How long no line has come. -/
  elapsed : δ
  /-- How many entries of the window were accepted. -/
  windowCount : Nat
  /-- How many waits there have been. -/
  waits : Nat
  /-- Whether a wait was put off. -/
  waitDue : Bool
  /-- Whether no more lines can come. -/
  exhausted : Bool
  /-- Whether the iterator is closed. -/
  closed : Bool

namespace Iterator

variable {ω δ : Type}

/-- A new iterator over the lines of a scope. -/
def start [WaitTime δ] (scope : Scope) (policy : TailPolicy δ) : Except Failure (Iterator δ) :=
  scope.startNanos.map fun cursor =>
    { scope, policy, ready := [], accepted := [], last := none, cursor, windowStop := none,
      elapsed := WaitTime.none, windowCount := 0, waits := 0, waitDue := false, exhausted := false,
      closed := false }

/-- An iterator after it is closed: nothing is ready any more. -/
def close (iterator : Iterator δ) : Iterator δ :=
  { iterator with closed := true, ready := [] }

@[simp] theorem closed_close (iterator : Iterator δ) : iterator.close.closed = true := rfl

@[simp] theorem ready_close (iterator : Iterator δ) : iterator.close.ready = [] := rfl

/-! ## Accepting entries -/

/-- The number of the next entry at a time. -/
def nextSequence (iterator : Iterator δ) (timestamp : Int) : Int :=
  match iterator.last with
  | some last => if timestamp = last.timestamp then last.sequence + 1 else 0
  | none => 0

/-- Whether an entry comes before the last accepted one. -/
def isLate (iterator : Iterator δ) (entry : Entry) : Bool :=
  match iterator.last with
  | some last => decide (entry.timestamp < last.timestamp)
  | none => false

/-- An iterator that has accepted an entry. -/
def push (iterator : Iterator δ) (entry : Entry) (fingerprint : Fingerprint) : Iterator δ :=
  let sequence := iterator.nextSequence entry.timestamp
  { iterator with
    accepted := fingerprint :: iterator.accepted
    last := some ⟨entry.timestamp, sequence⟩
    ready := iterator.ready ++ [{ entry with sequence }] }

/-- Accept an entry, unless it is past the end, was accepted before or comes late; whether it was
accepted. -/
def accept (stop : Option Int) (iterator : Iterator δ) (entry : Entry) :
    Except Failure (Iterator δ × Bool) :=
  if (stop.map fun stop => decide (stop ≤ entry.timestamp)).getD false then .ok (iterator, false)
  else
    match entry.fingerprint with
    | .error failure => .error failure
    | .ok fingerprint =>
      if fingerprint ∈ iterator.accepted ∨ iterator.isLate entry then .ok (iterator, false)
      else .ok (iterator.push entry fingerprint, true)

/-- Accept entries one after the other; those that were accepted, and the failure that ended it.  A
failure leaves those before it accepted. -/
def acceptAll (stop : Option Int) : List Entry → Iterator δ →
    Iterator δ × List Entry × Option Failure
  | [], iterator => (iterator, [], none)
  | entry :: rest, iterator =>
    match iterator.accept stop entry with
    | .error failure => (iterator, [], some failure)
    | .ok (next, wasAccepted) =>
      let (last, taken, failure) := acceptAll stop rest next
      (last, if wasAccepted then entry :: taken else taken, failure)

/-- An iterator that goes on from a later time: what is older cannot come again and is forgotten. -/
def advance (cursor : Int) (iterator : Iterator δ) : Iterator δ :=
  if cursor ≤ iterator.cursor then iterator
  else
    { iterator with
      cursor
      accepted := iterator.accepted.filter fun fingerprint =>
        decide (cursor ≤ fingerprint.timestamp) }

/-! ## Fetching -/

/-- An iterator and the world after something, what happened on the way, and whether it failed. -/
structure Step (ω δ : Type) where
  /-- The iterator afterwards. -/
  iterator : Iterator δ
  /-- The world afterwards. -/
  world : ω
  /-- What happened. -/
  events : List (Event δ)
  /-- The failure, if there was one. -/
  failure : Option Failure

/-- A step with events before it. -/
def Step.after (step : Step ω δ) (events : List (Event δ)) : Step ω δ :=
  { step with events := events ++ step.events }

/-- Where a window that is opened now ends. -/
def newWindowStop (env : Surroundings ω δ) (complete : Bool) (stop : Option Int) (world : ω) :
    Int × ω × List (Event δ) :=
  match stop, complete with
  | some stop, true => (stop, world, [])
  | some stop, false =>
    let (now, world) := env.clock world
    (min now stop, world, [.clockRead now])
  | none, _ =>
    let (now, world) := env.clock world
    (now, world, [.clockRead now])

/-- Open the next window, from the last accepted entry on. -/
def openNext (env : Surroundings ω δ) (stop : Option Int) (iterator : Iterator δ) (world : ω) :
    Step ω δ :=
  let iterator :=
    match iterator.last with
    | some last => iterator.advance last.timestamp
    | none => iterator
  let (windowStop, world, events) := newWindowStop env iterator.scope.complete stop world
  ⟨{ iterator with windowCount := 0, windowStop := some windowStop }, world, events, none⟩

/-- Wait, and open the next window unless the iterator was closed meanwhile or the wait failed. -/
def waitThenOpen [WaitTime δ] (env : Surroundings ω δ) (stop : Option Int) (iterator : Iterator δ)
    (world : ω) : Step ω δ :=
  let interval := iterator.policy.interval
  let (outcome, world) := env.wait (iterator.waits + 1) interval world
  let iterator := { iterator with waits := iterator.waits + 1 }
  match outcome with
  | .error failure => ⟨iterator, world, [.waited interval (.error failure)], some failure⟩
  | .ok true => ⟨iterator.close, world, [.waited interval (.ok true)], none⟩
  | .ok false =>
    let iterator := { iterator with elapsed := WaitTime.add iterator.elapsed interval }
    (openNext env stop iterator world).after [.waited interval (.ok false)]

/-- Go on after a window is used up: end, put the wait off, or wait and open the next window. -/
def finishWindow [WaitTime δ] (env : Surroundings ω δ) (mayWait : Bool) (stop : Option Int)
    (windowStop : Int) (iterator : Iterator δ) (world : ω) : Step ω δ :=
  let reachedStop := (stop.map fun stop => decide (stop ≤ windowStop)).getD false
  if reachedStop || iterator.scope.complete then
    ⟨{ iterator with exhausted := true }, world, [], none⟩
  else if iterator.windowCount ≠ 0 then
    openNext env stop { iterator with elapsed := WaitTime.none } world
  else if WaitTime.reached iterator.policy.patience iterator.elapsed then
    ⟨{ iterator with exhausted := true }, world, [], none⟩
  else if mayWait then waitThenOpen env stop iterator world
  else ⟨{ iterator with waitDue := true }, world, [], none⟩

/-- Go on from where a full page says, one nanosecond further if it does not go on. -/
def follow (next : Int) (iterator : Iterator δ) (world : ω) : Step ω δ :=
  if next ≤ iterator.cursor then
    ⟨iterator.advance (iterator.cursor + 1), world, [.stalled iterator.cursor], none⟩
  else ⟨iterator.advance next, world, [], none⟩

/-- Take in a batch and go on. -/
def takeIn [WaitTime δ] (env : Surroundings ω δ) (mayWait : Bool) (stop : Option Int)
    (windowStop : Int) (batch : Batch) (iterator : Iterator δ) (world : ω) : Step ω δ :=
  let (iterator, taken, failure) := acceptAll stop (Entry.sorted batch.entries) iterator
  let step : Step ω δ :=
    match failure with
    | some failure => ⟨iterator, world, [], some failure⟩
    | none =>
      let iterator := { iterator with windowCount := iterator.windowCount + taken.length }
      match batch.next with
      | some next => follow next iterator world
      | none => finishWindow env mayWait stop windowStop iterator world
  step.after (taken.map .accepted)

/-- Ask for a page of an open window and take it in. -/
def load [WaitTime δ] (env : Surroundings ω δ) (mayWait : Bool) (stop : Option Int)
    (windowStop : Int) (iterator : Iterator δ) (world : ω) : Step ω δ :=
  let window : Window := ⟨iterator.cursor, windowStop⟩
  let ((result, closes), world) := env.query window world
  let iterator := if closes then iterator.close else iterator
  match result with
  | .error failure => ⟨iterator, world, [.queried window (.error failure)], some failure⟩
  | .ok batch =>
    let event := Event.queried window (.ok batch.entries.length)
    if closes then ⟨iterator, world, [event], none⟩
    else (takeIn env mayWait stop windowStop batch iterator world).after [event]

/-- Ask for a page if the window has anything left. -/
def advanceWindow [WaitTime δ] (env : Surroundings ω δ) (mayWait : Bool) (stop : Option Int)
    (windowStop : Int) (iterator : Iterator δ) (world : ω) : Step ω δ :=
  if windowStop ≤ iterator.cursor then finishWindow env mayWait stop windowStop iterator world
  else load env mayWait stop windowStop iterator world

/-- Open the first window if no window is open, and ask for a page. -/
def fetchOpen [WaitTime δ] (env : Surroundings ω δ) (mayWait : Bool) (stop : Option Int)
    (iterator : Iterator δ) (world : ω) : Step ω δ :=
  match iterator.windowStop with
  | some windowStop => advanceWindow env mayWait stop windowStop iterator world
  | none =>
    let (windowStop, world, events) := newWindowStop env iterator.scope.complete stop world
    (advanceWindow env mayWait stop windowStop { iterator with windowStop := some windowStop }
      world).after events

/-- Make up for a wait that was put off, and ask for a page. -/
def fetchWithin [WaitTime δ] (env : Surroundings ω δ) (mayWait : Bool) (stop : Option Int)
    (iterator : Iterator δ) (world : ω) : Step ω δ :=
  if iterator.waitDue then
    let waited := waitThenOpen env stop { iterator with waitDue := false } world
    if waited.iterator.closed || waited.failure.isSome then waited
    else (fetchOpen env mayWait stop waited.iterator waited.world).after waited.events
  else fetchOpen env mayWait stop iterator world

/-- Ask for a page.  A scope whose end is out of range fails every time. -/
def fetch [WaitTime δ] (env : Surroundings ω δ) (mayWait : Bool) (iterator : Iterator δ)
    (world : ω) : Step ω δ :=
  match iterator.scope.stopNanos with
  | .error failure => ⟨iterator, world, [], some failure⟩
  | .ok stop => fetchWithin env mayWait stop iterator world

/-! ## Handing out -/

/-- What comes of asking for the next entry. -/
structure Pull (ω δ : Type) where
  /-- The iterator afterwards. -/
  iterator : Iterator δ
  /-- The world afterwards. -/
  world : ω
  /-- What happened. -/
  events : List (Event δ)
  /-- The entry, nothing at the end, or a failure. -/
  outcome : Except Failure (Option Entry)

/-- The next entry, with at most the given number of fetches. -/
def next [WaitTime δ] (env : Surroundings ω δ) (fuel : Nat) (iterator : Iterator δ) (world : ω) :
    Pull ω δ :=
  if iterator.closed then ⟨iterator, world, [], .ok none⟩
  else
    match iterator.ready with
    | entry :: rest => ⟨{ iterator with ready := rest }, world, [], .ok (some entry)⟩
    | [] =>
      if iterator.exhausted then ⟨iterator, world, [], .ok none⟩
      else
        match fuel with
        | 0 => ⟨iterator, world, [], .error .unfinished⟩
        | fuel + 1 =>
          let step := fetch env true iterator world
          match step.failure with
          | some failure => ⟨step.iterator, step.world, step.events, .error failure⟩
          | none =>
            let pull := next env fuel step.iterator step.world
            { pull with events := step.events ++ pull.events }

/-- Ask for the first page without waiting, so that a failure shows before anything is read. -/
def prefetch [WaitTime δ] (env : Surroundings ω δ) (iterator : Iterator δ) (world : ω) : Step ω δ :=
  if iterator.closed || iterator.exhausted || !iterator.ready.isEmpty then
    ⟨iterator, world, [], none⟩
  else fetch env false iterator world

/-- What comes of asking for all entries that are left. -/
structure Drain (ω δ : Type) where
  /-- The iterator afterwards. -/
  iterator : Iterator δ
  /-- The world afterwards. -/
  world : ω
  /-- What happened. -/
  events : List (Event δ)
  /-- The entries. -/
  entries : List Entry
  /-- The failure that ended it, if any. -/
  failure : Option Failure

/-- All entries that are left, up to the given number of them and of fetches for each. -/
def drain [WaitTime δ] (env : Surroundings ω δ) (fuel : Nat) : Nat → Iterator δ → ω → Drain ω δ
  | 0, iterator, world => ⟨iterator, world, [], [], some .unfinished⟩
  | count + 1, iterator, world =>
    let pull := next env fuel iterator world
    match pull.outcome with
    | .error failure => ⟨pull.iterator, pull.world, pull.events, [], some failure⟩
    | .ok none => ⟨pull.iterator, pull.world, pull.events, [], none⟩
    | .ok (some entry) =>
      let rest := drain env fuel count pull.iterator pull.world
      { rest with events := pull.events ++ rest.events, entries := entry :: rest.entries }

/-! ## First properties -/

@[simp] theorem next_closed [WaitTime δ] (env : Surroundings ω δ) (fuel : Nat)
    (iterator : Iterator δ) (world : ω) (isClosed : iterator.closed = true) :
    next env fuel iterator world = ⟨iterator, world, [], .ok none⟩ := by
  cases fuel <;> simp [next, isClosed]

@[simp] theorem prefetch_closed [WaitTime δ] (env : Surroundings ω δ) (iterator : Iterator δ)
    (world : ω) (isClosed : iterator.closed = true) :
    prefetch env iterator world = ⟨iterator, world, [], none⟩ := by
  simp [prefetch, isClosed]

@[simp] theorem Step.failure_after (step : Step ω δ) (events : List (Event δ)) :
    (step.after events).failure = step.failure := rfl

@[simp] theorem Step.iterator_after (step : Step ω δ) (events : List (Event δ)) :
    (step.after events).iterator = step.iterator := rfl

end Iterator
end RunLog
