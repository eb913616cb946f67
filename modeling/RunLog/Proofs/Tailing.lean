import Mathlib.Data.List.Permutation
import RunLog.Proofs.Backend

/-!
# Following a growing store

A log is followed while it grows: window after window, with waits between them, whatever the clock
says.  If new lines never come before old ones and no more lines share a time than a page holds,
nothing is lost: at every wait, and when the iterator has come to its end, exactly the lines were
accepted that the last query could have shown.
-/

namespace RunLog
namespace Store

/-- A store that has grown: values were appended to its streams, streams may have been added, and no
new line comes before a line that was there. -/
structure Grows (old new : Store) : Prop where
  /-- Streams stay, and values are appended to them. -/
  prolongs : ∀ stream ∈ old.streams, ∃ longer ∈ new.streams,
    longer.labels = stream.labels ∧ stream.values <+: longer.values
  /-- New lines are none of the past. -/
  later : ∀ line ∈ new.lines, line ∉ old.lines → ∀ seen ∈ old.lines,
    seen.timestamp ≤ line.timestamp

variable {limit : Nat} {old new : Store}

/-- The lines of a stream stay, and those that were appended come after them. -/
theorem lines_of_isPrefix {stream longer : StoredStream}
    (sameLabels : longer.labels = stream.labels) (isPrefix : stream.values <+: longer.values) :
    stream.lines <+: longer.lines := by
  obtain ⟨more, whole⟩ := isPrefix
  rw [StoredStream.lines, StoredStream.lines, sameLabels, ← whole,
    StoredStream.linesAfter_append]
  exact List.prefix_append _ _

namespace Grows

theorem mem_lines (grows : Grows old new) {line : StoredLine} (present : line ∈ old.lines) :
    line ∈ new.lines := by
  obtain ⟨stream, known, among⟩ := exists_stream_of_mem_lines present
  obtain ⟨longer, isStream, sameLabels, isPrefix⟩ := grows.prolongs stream known
  exact List.mem_flatMap.mpr
    ⟨longer, isStream, (lines_of_isPrefix sameLabels isPrefix).subset among⟩

/-- A line with the labels and the time of an old one, but a smaller occurrence, is old. -/
theorem mem_lines_of_before (grows : Grows old new) {line other : StoredLine}
    (isOld : line ∈ old.lines) (present : other ∈ new.lines)
    (sameLabels : other.labels = line.labels) (before : other.sortKey.Before line.sortKey) :
    other ∈ old.lines := by
  obtain ⟨stream, known, among⟩ := exists_stream_of_mem_lines isOld
  obtain ⟨longer, isStream, sameStream, isPrefix⟩ := grows.prolongs stream known
  have labels : other.labels = longer.labels := by
    rw [sameLabels, sameStream, StoredStream.labels_of_mem_lines among]
  have amongLonger := mem_lines_of_labels_eq isStream present labels
  have increasing := StoredStream.pairwise_before_lines (new.inOrder longer isStream)
  obtain ⟨more, whole⟩ := lines_of_isPrefix sameStream isPrefix
  rw [← whole] at amongLonger increasing
  rcases List.mem_append.mp amongLonger with first | appended
  · exact List.mem_flatMap.mpr ⟨stream, known, first⟩
  · have after := (List.pairwise_append.mp increasing).2.2 line among other appended
    exact absurd after (SortKey.not_before_of_before before)

/-- Where a new line comes to a time, there were fewer lines before. -/
theorem length_atTime_lt (grows : Grows old new) {line : StoredLine} (present : line ∈ new.lines)
    (isNew : line ∉ old.lines) :
    (old.atTime line.timestamp).length < (new.atTime line.timestamp).length := by
  have distinct : (line :: old.atTime line.timestamp).Nodup :=
    List.nodup_cons.mpr ⟨fun among => isNew (mem_atTime.mp among).1, old.nodup_byTime.filter _⟩
  refine (List.subperm_of_subset distinct fun other among => ?_).length_le
  rcases List.mem_cons.mp among with rfl | isOld
  · exact mem_atTime.mpr ⟨present, rfl⟩
  · obtain ⟨inOld, atOnce⟩ := mem_atTime.mp isOld
    exact mem_atTime.mpr ⟨grows.mem_lines inOld, atOnce⟩

theorem refl (store : Store) : store.Grows store where
  prolongs stream known := ⟨stream, known, rfl, List.prefix_rfl⟩
  later _ present isNew := absurd present isNew

/-- A store that grows while no more lines share a time than a page holds can be followed. -/
theorem evolves (grows : Grows old new) (few : ∀ time, (new.atTime time).length ≤ limit) :
    Evolves limit old new where
  grows _ := grows.mem_lines
  keeps line fits := fits_of_length_atTime_le (grows.mem_lines fits.mem_lines) (few _)
  fresh line fits isFresh := by
    have isNew : line ∉ old.lines := fun isOld => isFresh (fits_of_length_atTime_le isOld
      (Nat.le_trans (length_atTime_le_of_subset fun _ => grows.mem_lines) (few _)))
    exact ⟨grows.later line fits.mem_lines isNew,
      Nat.lt_of_lt_of_le (grows.length_atTime_lt fits.mem_lines isNew) (few _)⟩
  crowded time crowded := absurd crowded (Nat.not_lt.mpr (few time))
  appends line isOld other present sameLabels atOnce lower :=
    grows.mem_lines_of_before isOld present sameLabels (Or.inr ⟨atOnce, lower⟩)

end Grows

/-- At no time a query shows more lines than any store of a history holds. -/
theorem length_atTime_visible_le {history : Nat → Store}
    (few : ∀ count time, ((history count).atTime time).length ≤ limit) (count : Nat) (time : Int) :
    ((visible history count).atTime time).length ≤ limit := by
  cases count with
  | zero => simp [visible, atTime, byTime]
  | succ count => exact few count time

theorem evolves_of_grows {history : Nat → Store} (positive : 0 < limit)
    (grows : ∀ count, (history count).Grows (history (count + 1)))
    (few : ∀ count time, ((history count).atTime time).length ≤ limit) (count : Nat) :
    Evolves limit (visible history count) (history count) := by
  cases count with
  | zero => exact Evolves.of_empty limit positive (history 0)
  | succ count => exact (grows count).evolves (few (count + 1))

end Store

namespace Iterator

variable {ω δ : Type}

/-! ## Waits -/

/-- There is no wait among some events. -/
def WithoutWait (events : List (Event δ)) : Prop :=
  ∀ interval outcome, Event.waited interval outcome ∉ events

theorem withoutWait_of_opening {env : Surroundings ω δ} {complete : Bool} {stop : Option Int}
    {world later : ω} {windowStop : Int} {events : List (Event δ)}
    (opening : newWindowStop env complete stop world = (windowStop, later, events)) :
    WithoutWait events := by
  unfold newWindowStop at opening
  split at opening <;> cases opening <;> simp [WithoutWait]

theorem withoutWait_page (iterator : Iterator δ) (windowStop : Int) (batch : Batch)
    (taken : List Entry) :
    WithoutWait (pageEvent iterator windowStop batch :: taken.map .accepted) := by
  simp [WithoutWait, pageEvent]

theorem withoutWait_follow (next : Int) (iterator : Iterator δ) (world : ω) :
    WithoutWait (follow next iterator world).events := by
  rw [follow_eq]
  split <;> simp [WithoutWait]

theorem withoutWait_openNext (env : Surroundings ω δ) (stop : Option Int) (iterator : Iterator δ)
    (world : ω) : WithoutWait (openNext env stop iterator world).events := by
  rw [openNext_eq]
  exact withoutWait_of_opening rfl

variable {events more before after : List (Event δ)} {interval : δ}
  {outcome : Except Failure Bool}

/-- A wait among events in two parts is in the first part or in the second one. -/
theorem split_append (split : events ++ more = before ++ .waited interval outcome :: after) :
    (∃ rest, events = before ++ .waited interval outcome :: rest)
      ∨ ∃ first, before = events ++ first ∧ more = first ++ .waited interval outcome :: after := by
  rcases List.append_eq_append_iff.mp split with ⟨first, same, rest⟩ | ⟨rest, same, tail⟩
  · exact Or.inr ⟨first, same, rest⟩
  · cases rest with
    | nil => exact Or.inr ⟨[], by simpa using same.symm, by simpa using tail.symm⟩
    | cons wait rest =>
      obtain ⟨rfl, -⟩ := List.cons_eq_cons.mp tail
      exact Or.inl ⟨rest, same⟩

/-- A wait is not among events without one. -/
theorem split_of_withoutWait (none : WithoutWait more)
    (split : events ++ more = before ++ .waited interval outcome :: after) :
    ∃ rest, events = before ++ .waited interval outcome :: rest := by
  rcases split_append split with first | ⟨first, -, isWait⟩
  · exact first
  · exact absurd (isWait ▸ List.mem_append_right first List.mem_cons_self) (none interval outcome)

/-- A wait that was not there before a move is the first thing that happens in it. -/
theorem split_of_move [WaitTime δ] {env : Surroundings ω δ} {stage stage' : Stage}
    {run run' : Run ω δ} (move : Move env (stage, run) (stage', run'))
    (split : run'.events = before ++ .waited interval outcome :: after) :
    (∃ rest, run.events = before ++ .waited interval outcome :: rest)
      ∨ stage = .waiting ∧ before = run.events := by
  have atWait {other : δ} {result : Except Failure Bool} {rest : List (Event δ)}
      (none : WithoutWait rest) (isWaiting : stage = .waiting)
      (split : run.events ++ .waited other result :: rest
        = before ++ .waited interval outcome :: after) :
      (∃ rest, run.events = before ++ .waited interval outcome :: rest)
        ∨ stage = .waiting ∧ before = run.events := by
    rcases split_append split with first | ⟨first, same, second⟩
    · exact Or.inl first
    · cases first with
      | nil => exact Or.inr ⟨isWaiting, by simpa using same⟩
      | cons event first =>
        obtain ⟨-, isWait⟩ := List.cons_eq_cons.mp second
        exact absurd (isWait ▸ List.mem_append_right first List.mem_cons_self)
          (none interval outcome)
  cases move with
  | resume | useUp | finish | giveUp | postpone | beginWait | handOut | close =>
    exact Or.inl ⟨after, split⟩
  | openFirst hungry unopened opening =>
    exact Or.inl (split_of_withoutWait (withoutWait_of_opening opening) split)
  | failQuery => exact Or.inl (split_of_withoutWait (by simp [WithoutWait]) split)
  | dropPage => exact Or.inl (split_of_withoutWait (by simp [WithoutWait, pageEvent]) split)
  | breakOff | lastPage =>
    exact Or.inl (split_of_withoutWait (withoutWait_page _ _ _ _) split)
  | turnPage =>
    obtain ⟨rest, split⟩ := split_of_withoutWait (withoutWait_follow _ _ _) split
    exact Or.inl (split_of_withoutWait (withoutWait_page _ _ _ _) split)
  | renew => exact Or.inl (split_of_withoutWait (withoutWait_openNext _ _ _ _) split)
  | failWait | breakWait => exact atWait (by simp [WithoutWait]) rfl split
  | @endWait _ stop world =>
    have whole : run.events ++ .waited run.iterator.policy.interval (.ok false)
        :: (openNext env stop run.iterator.countWait.passInterval world).events
          = before ++ .waited interval outcome :: after := by
      simpa [Run.after, Run.advance] using split
    exact atWait (withoutWait_openNext env stop _ world) rfl whole

/-! ## Nothing is lost -/

section UpToDate

variable {history : Nat → Store} {start : Int} {limit : Nat} {Asked : ω → Nat → Prop}
  {lines : List StoredLine} {run : Run ω δ}

/-- After some events the accepted entries are, once each, those of the lines that the last query
could have shown: the lines of the store at that time, from a start up to the end of its window. -/
structure UpToDate (history : Nat → Store) (start : Int) (events : List (Event δ)) : Prop where
  /-- No entry was accepted twice. -/
  once : (acceptedEntries events).Nodup
  /-- An entry was accepted exactly if the last query could have shown its line. -/
  exact : ∀ entry, entry ∈ acceptedEntries events ↔
    ∃ window ∈ (windowsAsked events).getLast?,
      ∃ line ∈ (Store.visible history (windowsAsked events).length).lines,
        start ≤ line.timestamp ∧ line.timestamp < window.stop ∧ line.entry = entry

theorem Books.upToDate (books : Books history start limit Asked lines run)
    (few : ∀ count time, ((history count).atTime time).length ≤ limit)
    (settled : Settled history start limit lines run.events) :
    UpToDate history start run.events where
  once := by
    rw [books.entries]
    refine List.Nodup.map_on (fun line among other amongOther same => ?_) books.ledger.nodup
    exact Store.eq_of_entry_eq (books.ledger.mem_lines among) (books.ledger.mem_lines amongOther)
      same
  exact entry := by
    rw [books.entries, List.mem_map]
    constructor
    · rintro ⟨line, among, rfl⟩
      obtain ⟨window, isLast, before⟩ := books.bounded line among
      exact ⟨window, isLast, line, books.ledger.mem_lines among, (books.ledger.fits line among).2,
        before, rfl⟩
    · rintro ⟨window, isLast, line, present, fromStart, before, rfl⟩
      have room := Store.length_atTime_visible_le few (windowsAsked run.events).length
        line.timestamp
      have fits := Store.fits_of_length_atTime_le present room
      exact ⟨line, (settled window isLast line present fromStart before).1 fits, rfl⟩

end UpToDate

/-- Behind a client and a backend whose store only grows, in order and with no more lines at a time
than a page holds, nothing is lost and nothing comes twice: at every wait and when the iterator is
exhausted, the accepted entries are those of the lines that the last query could have shown.  What
was accepted is handed out or ready, unless the iterator was closed. -/
theorem up_to_date_at_waits_and_end {host : Host ω} {client : Client} {scope : Scope}
    {policy : TailPolicy Float} {iterator : Iterator Float}
    (started : Iterator.start scope policy = .ok iterator) {start : Int}
    (startNanos : scope.startNanos = .ok start) {limit : Nat} (positive : 0 < limit)
    {history : Nat → Store} {asked : ω → Nat}
    (serves : Serves host client scope limit history asked)
    (grows : ∀ count, (history count).Grows (history (count + 1)))
    (few : ∀ count time, ((history count).atTime time).length ≤ limit) (calls : List Call)
    {world : ω} (unasked : asked world = 0) :
    let run := (Run.start iterator ⟨client, world⟩).calls (host.surroundings scope) calls
    (∀ before interval outcome after, run.events = before ++ .waited interval outcome :: after →
        UpToDate history start before)
      ∧ (run.iterator.exhausted = true → UpToDate history start run.events)
      ∧ (run.iterator.closed = false →
        run.delivered ++ run.iterator.ready = Entry.numbered (acceptedEntries run.events)) := by
  intro run
  have pages := serves.pages positive
  have evolves := Store.evolves_of_grows positive grows few
  have path := path_calls (host.surroundings scope) (Run.start iterator ⟨client, world⟩) calls
  have first : Serves.Counts client asked (⟨client, world⟩ : Session ω) 0 := ⟨rfl, unasked⟩
  -- What is known between two moves, and that everything was there at the waits so far.
  have kept := path.invariant
    (fun stage run =>
      (∃ lines, Paged history start limit (Serves.Counts client asked) lines stage run)
      ∧ Tally (acceptedEntries run.events) run.delivered run.iterator
      ∧ ∀ before interval outcome after, run.events = before ++ .waited interval outcome :: after →
        UpToDate history start before) ?_ ?_
  · obtain ⟨⟨lines, paged⟩, tally, atWaits⟩ := kept
    exact ⟨atWaits, fun exhausted =>
      paged.upToDate few (paged.settled (Or.inr (Or.inl exhausted))), tally.ready⟩
  · rintro stage run stage' run' move ⟨⟨lines, paged⟩, tally, atWaits⟩
    refine ⟨paged.move pages evolves positive move tally, tally.move move, ?_⟩
    intro before interval outcome after split
    rcases split_of_move move split with ⟨rest, earlier⟩ | ⟨rfl, rfl⟩
    · exact atWaits before interval outcome rest earlier
    · exact paged.upToDate few (paged.settled (Or.inl (by simp)))
  · have resting : Path (host.surroundings scope) (.resting, Run.start iterator ⟨client, world⟩)
        (.resting, Run.start iterator ⟨client, world⟩) := Relation.ReflTransGen.refl
    exact ⟨exists_paged_of_path pages evolves positive started startNanos first resting,
      tally_of_path started resting, by simp [Run.start]⟩

/-- A store that shows one line at first and then three lines at the same time. -/
def growingStore (count : Nat) : Store :=
  if count = 0 then Store.oneLine else Store.threeLines

/-- The texts with which a backend answers from the growing store. -/
def growingText (count : Nat) (window : Window) : Text :=
  if window.contains 7 then
    if count = 0 then Store.answerText (Store.streamText "a" "[\"7\",\"x\"]")
    else Store.answerText (Store.streamText "a" "[\"7\",\"x\"],[\"7\",\"y\"]"
      ++ "," ++ Store.streamText "b" "[\"7\",\"z\"]")
  else Store.answerText []

theorem read_growingText (count : Nat) (window : Window) :
    Json.readWithin Host.answerDepth (Text.ofUtf8 (growingText count window).utf8)
      = .ok ((growingStore count).answer window 3) := by
  have oneAtOnce : ∀ line ∈ Store.oneLine.lines, line.timestamp = 7 := by decide
  have threeAtOnce : ∀ line ∈ Store.threeLines.lines, line.timestamp = 7 := by decide
  rw [growingText, growingStore]
  by_cases first : count = 0
  · rw [if_pos first, if_pos first, Store.answer_of_atOnce oneAtOnce]
    split
    all_goals
      rw [Store.answer, Store.groups, Store.page, Store.within, Store.byTime_oneLine]
      cbv
  · rw [if_neg first, if_neg first, Store.answer_of_atOnce threeAtOnce]
    split
    all_goals
      rw [Store.answer, Store.groups, Store.page, Store.within, Store.byTime_threeLines]
      cbv

/-- Nothing of the growing store is lost, although the clock goes backwards. -/
theorem growingStore_up_to_date :
    ∃ iterator, Iterator.start (Scope.firstMicrosecond false) TailPolicy.standard = .ok iterator ∧
      let client : Client := ⟨⟨"http://loki:3100", none, none, true, 10, false⟩, ⟨"ci", none⟩, 3⟩
      let host := Host.answering (fun count => 900 - 400 * count) growingText
      let run := (Run.start iterator ⟨client, 0⟩).calls
        (host.surroundings (Scope.firstMicrosecond false)) [.prefetch, .next 4, .next 4, .next 9]
      (∀ before interval outcome after, run.events = before ++ .waited interval outcome :: after →
          UpToDate growingStore 0 before)
        ∧ (run.iterator.exhausted = true → UpToDate growingStore 0 run.events)
        ∧ (run.iterator.closed = false →
          run.delivered ++ run.iterator.ready = Entry.numbered (acceptedEntries run.events)) := by
  have started : Iterator.start (Scope.firstMicrosecond false) TailPolicy.standard = .ok _ := rfl
  have grows (count : Nat) : (growingStore count).Grows (growingStore (count + 1)) := by
    cases count with
    | zero => exact ⟨by decide +kernel, by decide +kernel⟩
    | succ count => exact Store.Grows.refl Store.threeLines
  have few (count : Nat) (time : Int) : ((growingStore count).atTime time).length ≤ 3 := by
    apply Nat.le_trans (Store.length_atTime_le_lines _ time)
    cases count with
    | zero => decide
    | succ count => exact Nat.le_refl 3
  have serves : Serves (Host.answering (fun count => 900 - 400 * count) growingText)
      ⟨⟨"http://loki:3100", none, none, true, 10, false⟩, ⟨"ci", none⟩, 3⟩
      (Scope.firstMicrosecond false) 3 growingStore id :=
    Serves.answering rfl rfl rfl rfl rfl rfl _ read_growingText
  exact ⟨_, started,
    up_to_date_at_waits_and_end started rfl (by decide) serves grows few _ rfl⟩

end Iterator
end RunLog
