import Mathlib.Data.List.Induction
import RunLog.Proofs.Trace
import RunLog.Script

/-!
# The numbers of the entries at one time

The entries that an iterator accepts are handed out in the order in which they were accepted, each
with the number of those before it that have the same time.  Since no entry is accepted that comes
before the last accepted one, the positions of what is handed out increase, and the numbers at one
time have no gaps.
-/

namespace RunLog

/-- How many earlier times each of some times is equal to; the times before the first one come in
reverse. -/
def ranks : List Int → List Int → List Int
  | _, [] => []
  | earlier, time :: rest => earlier.count time :: ranks (time :: earlier) rest

@[simp] theorem length_ranks (earlier times : List Int) :
    (ranks earlier times).length = times.length := by
  induction times generalizing earlier with
  | nil => rfl
  | cons time rest inductionHypothesis => simp [ranks, inductionHypothesis]

theorem ranks_append (earlier first second : List Int) :
    ranks earlier (first ++ second)
      = ranks earlier first ++ ranks (first.reverse ++ earlier) second := by
  induction first generalizing earlier with
  | nil => rfl
  | cons time rest inductionHypothesis => simp [ranks, inductionHypothesis]

/-- One position comes before another one. -/
def SortKey.Before (left right : SortKey) : Prop :=
  left.timestamp < right.timestamp
    ∨ left.timestamp = right.timestamp ∧ left.sequence < right.sequence

namespace Entry

/-- Some entries, each with the number of those before it that have the same time. -/
def numbered (entries : List Entry) : List Entry :=
  List.zipWith (fun entry sequence => { entry with sequence }) entries
    (ranks [] (entries.map Entry.timestamp))

/-- How many entries have a given time. -/
def countAt (entries : List Entry) (time : Int) : Nat :=
  (entries.map Entry.timestamp).count time

@[simp] theorem numbered_nil : numbered [] = [] := rfl

@[simp] theorem length_numbered (entries : List Entry) :
    (numbered entries).length = entries.length := by
  simp [numbered]

theorem numbered_append_singleton (entries : List Entry) (entry : Entry) :
    numbered (entries ++ [entry])
      = numbered entries ++ [{ entry with sequence := countAt entries entry.timestamp }] := by
  have sameLength : entries.length = (ranks [] (entries.map Entry.timestamp)).length := by simp
  simp [numbered, ranks_append, ranks, List.zipWith_append sameLength, countAt]

@[simp] theorem countAt_append_singleton (entries : List Entry) (entry : Entry) (time : Int) :
    countAt (entries ++ [entry]) time
      = countAt entries time + if entry.timestamp = time then 1 else 0 := by
  simp [countAt, List.count_singleton]

/-- The beginning of numbered entries are numbered entries. -/
theorem exists_numbered_of_isPrefix {handed entries : List Entry}
    (isPrefix : handed <+: numbered entries) :
    ∃ first, first <+: entries ∧ handed = numbered first := by
  induction entries using List.reverseRecOn with
  | nil => exact ⟨[], List.nil_prefix, by simpa using isPrefix⟩
  | append_singleton entries entry inductionHypothesis =>
    rw [numbered_append_singleton, List.prefix_concat_iff] at isPrefix
    rcases isPrefix with whole | shorter
    · refine ⟨entries ++ [entry], List.prefix_rfl, ?_⟩
      rw [numbered_append_singleton, whole]
    · obtain ⟨first, isFirst, same⟩ := inductionHypothesis shorter
      exact ⟨first, isFirst.trans (List.prefix_append entries [entry]), same⟩

/-- What was handed out of numbered entries are the first of them, numbered. -/
theorem eq_numbered_take_of_isPrefix {handed entries : List Entry}
    (isPrefix : handed <+: numbered entries) :
    handed = numbered (entries.take handed.length) := by
  obtain ⟨first, isFirst, rfl⟩ := exists_numbered_of_isPrefix isPrefix
  rw [length_numbered, ← List.prefix_iff_eq_take.mp isFirst]

/-- A number is smaller than how many entries have its time. -/
theorem sequence_lt_countAt {entries : List Entry} {entry : Entry}
    (present : entry ∈ numbered entries) : entry.sequence < countAt entries entry.timestamp := by
  induction entries using List.reverseRecOn with
  | nil => simp at present
  | append_singleton entries last inductionHypothesis =>
    rw [numbered_append_singleton, List.mem_append, List.mem_singleton] at present
    rw [countAt_append_singleton]
    rcases present with earlier | rfl
    · have bound := inductionHypothesis earlier
      split <;> omega
    · rw [if_pos rfl]
      dsimp only
      omega

/-- Numbers do not change the times. -/
@[simp] theorem map_timestamp_numbered (entries : List Entry) :
    (numbered entries).map Entry.timestamp = entries.map Entry.timestamp := by
  induction entries using List.reverseRecOn with
  | nil => rfl
  | append_singleton entries last inductionHypothesis =>
    simp [numbered_append_singleton, inductionHypothesis]

@[simp] theorem countAt_numbered (entries : List Entry) (time : Int) :
    countAt (numbered entries) time = countAt entries time := by
  simp [countAt]

theorem timestamp_le_of_mem_numbered {entries : List Entry} {bound : Int}
    (bounded : ∀ entry ∈ entries, entry.timestamp ≤ bound) {entry : Entry}
    (present : entry ∈ numbered entries) : entry.timestamp ≤ bound := by
  have among := List.mem_map_of_mem (f := Entry.timestamp) present
  rw [map_timestamp_numbered] at among
  obtain ⟨original, known, same⟩ := List.mem_map.mp among
  exact same ▸ bounded original known

/-- Entries in the order of time have increasing positions once they are numbered. -/
theorem pairwise_before_numbered {entries : List Entry}
    (inOrder : entries.Pairwise fun left right => left.timestamp ≤ right.timestamp) :
    (numbered entries).Pairwise fun left right => left.sortKey.Before right.sortKey := by
  induction entries using List.reverseRecOn with
  | nil => simp
  | append_singleton entries last inductionHypothesis =>
    rw [List.pairwise_append] at inOrder
    obtain ⟨earlierInOrder, -, noneLater⟩ := inOrder
    rw [numbered_append_singleton, List.pairwise_append]
    refine ⟨inductionHypothesis earlierInOrder, by simp, ?_⟩
    intro entry present other isLast
    rw [List.mem_singleton] at isLast
    subst isLast
    have notLater : entry.timestamp ≤ last.timestamp :=
      timestamp_le_of_mem_numbered (fun earlier among => noneLater earlier among last (by simp))
        present
    rcases Int.lt_or_eq_of_le notLater with sooner | atOnce
    · exact Or.inl sooner
    · refine Or.inr ⟨atOnce, ?_⟩
      have bound := sequence_lt_countAt present
      rw [atOnce] at bound
      exact bound

/-- The numbers at one time are zero, one, two and so on. -/
theorem sequences_numbered (entries : List Entry) (time : Int) :
    ((numbered entries).filter fun entry => entry.timestamp = time).map Entry.sequence
      = (List.range (countAt entries time)).map Int.ofNat := by
  induction entries using List.reverseRecOn with
  | nil => rfl
  | append_singleton entries last inductionHypothesis =>
    rw [numbered_append_singleton, countAt_append_singleton, List.filter_append, List.map_append,
      inductionHypothesis]
    by_cases same : last.timestamp = time
    · simp [same, List.range_succ]
    · simp [same]

end Entry

/-- The scope of a run that wrote its lines in the first microsecond of all. -/
def Scope.firstMicrosecond (complete : Bool) : Scope :=
  ⟨"pipeline", 1, "trace", ⟨0, none⟩, some ⟨1, none⟩, complete, none⟩

namespace Iterator

variable {ω δ : Type}

open Entry (numbered countAt numbered_append_singleton countAt_append_singleton)

/-- An iterator that has accepted some entries, of which some were handed out, both in order. -/
structure Tally (accepted delivered : List Entry) (iterator : Iterator δ) : Prop where
  /-- No entry was accepted after a later one. -/
  inOrder : accepted.Pairwise fun left right => left.timestamp ≤ right.timestamp
  /-- The last position is that of the last accepted entry. -/
  last : iterator.last = (numbered accepted).getLast?.map Entry.sortKey
  /-- What was not handed out is ready, unless the iterator was closed. -/
  ready : iterator.closed = false → delivered ++ iterator.ready = numbered accepted
  /-- What was handed out came first. -/
  delivered : delivered <+: numbered accepted

namespace Tally

variable {accepted delivered : List Entry} {iterator : Iterator δ}

theorem start (iterator : Iterator δ) (noLast : iterator.last = none)
    (nothingReady : iterator.ready = []) : Tally [] [] iterator :=
  ⟨List.Pairwise.nil, by simpa using noLast, by simp [nothingReady], by simp⟩

/-- Nothing else of an iterator matters. -/
theorem congr {accepted' : List Entry} {next : Iterator δ}
    (tally : Tally accepted delivered iterator) (sameEntries : accepted' = accepted)
    (last : next.last = iterator.last) (ready : next.ready = iterator.ready)
    (closed : next.closed = iterator.closed) : Tally accepted' delivered next := by
  subst sameEntries
  exact ⟨tally.inOrder, last.trans tally.last,
    fun notClosed => ready ▸ tally.ready (closed ▸ notClosed), tally.delivered⟩

theorem close (tally : Tally accepted delivered iterator) :
    Tally accepted delivered iterator.close :=
  ⟨tally.inOrder, tally.last, by simp, tally.delivered⟩

theorem handOut {entry : Entry} {rest : List Entry} (tally : Tally accepted delivered iterator)
    (notClosed : iterator.closed = false) (ready : iterator.ready = entry :: rest) :
    Tally accepted (delivered ++ [entry]) { iterator with ready := rest } := by
  have whole := tally.ready notClosed
  rw [ready] at whole
  refine ⟨tally.inOrder, tally.last, fun _ => by simpa using whole, ?_⟩
  rw [← whole]
  exact ⟨rest, by simp⟩

/-- An entry is late when one with a later time was accepted. -/
theorem not_late (tally : Tally accepted delivered iterator) {entry : Entry}
    (onTime : iterator.isLate entry = false) :
    ∀ earlier ∈ accepted, earlier.timestamp ≤ entry.timestamp := by
  intro earlier among
  rcases List.eq_nil_or_concat accepted with rfl | ⟨front, latest, rfl⟩
  · simp at among
  · have last := tally.last
    have inOrder := tally.inOrder
    rw [List.concat_eq_append] at last inOrder among
    have bound : latest.timestamp ≤ entry.timestamp := by
      simpa [isLate, last, numbered_append_singleton] using onTime
    rw [List.mem_append, List.mem_singleton] at among
    rcases among with before | rfl
    · exact Int.le_trans ((List.pairwise_append.mp inOrder).2.2 earlier before latest (by simp))
        bound
    · exact bound

/-- An entry that is not late gets the number of the accepted entries that have its time. -/
theorem nextSequence_eq (tally : Tally accepted delivered iterator) {entry : Entry}
    (onTime : iterator.isLate entry = false) :
    iterator.nextSequence entry.timestamp = countAt accepted entry.timestamp := by
  rcases List.eq_nil_or_concat accepted with rfl | ⟨front, latest, rfl⟩
  · have last : iterator.last = none := by simpa using tally.last
    simp [nextSequence, last, countAt]
  · have noneLater := tally.not_late onTime
    have inOrder := tally.inOrder
    have last := tally.last
    rw [List.concat_eq_append] at last noneLater inOrder
    rw [List.concat_eq_append, countAt_append_singleton]
    by_cases same : entry.timestamp = latest.timestamp
    · simp [nextSequence, last, numbered_append_singleton, same]
    · have later : latest.timestamp < entry.timestamp :=
        Int.lt_iff_le_and_ne.mpr ⟨noneLater latest (by simp), Ne.symm same⟩
      have none : countAt front entry.timestamp = 0 := by
        apply List.count_eq_zero.mpr
        intro present
        obtain ⟨earlier, among, equal⟩ := List.mem_map.mp present
        have bound := (List.pairwise_append.mp inOrder).2.2 earlier among latest (by simp)
        omega
      simp [nextSequence, last, numbered_append_singleton, same, Ne.symm same, none]

theorem push (tally : Tally accepted delivered iterator) {entry : Entry}
    (fingerprint : Fingerprint) (onTime : iterator.isLate entry = false) :
    Tally (accepted ++ [entry]) delivered (iterator.push entry fingerprint) := by
  have sequence := tally.nextSequence_eq onTime
  refine ⟨?_, ?_, ?_, ?_⟩
  · rw [List.pairwise_append]
    refine ⟨tally.inOrder, by simp, ?_⟩
    intro earlier among other isLast
    rw [List.mem_singleton] at isLast
    exact isLast ▸ tally.not_late onTime earlier among
  · simp [Iterator.push, numbered_append_singleton, sequence, Entry.sortKey]
  · intro notClosed
    have whole := tally.ready notClosed
    simp [Iterator.push, numbered_append_singleton, sequence, ← whole]
  · rw [numbered_append_singleton]
    exact tally.delivered.trans (List.prefix_append _ _)

theorem acceptAll (tally : Tally accepted delivered iterator) (stop : Option Int)
    (entries : List Entry) {next : Iterator δ} {taken : List Entry} {failure : Option Failure}
    (acceptance : Iterator.acceptAll stop entries iterator = (next, taken, failure)) :
    Tally (accepted ++ taken) delivered next := by
  have kept : Tally (accepted ++ (Iterator.acceptAll stop entries iterator).2.1) delivered
      (Iterator.acceptAll stop entries iterator).1 :=
    acceptAll_induction stop (fun accepted iterator => Tally accepted delivered iterator)
      (fun _ _ _ fingerprint _ _ _ onTime before => before.push fingerprint onTime)
      accepted iterator tally
  simpa [acceptance] using kept

/-- Every move keeps the tally. -/
theorem move [WaitTime δ] {env : Surroundings ω δ} {stage stage' : Stage} {run run' : Run ω δ}
    (move : Move env (stage, run) (stage', run'))
    (tally : Tally (acceptedEntries run.events) run.delivered run.iterator) :
    Tally (acceptedEntries run'.events) run'.delivered run'.iterator := by
  cases move with
  | resume | finish | giveUp | postpone => exact tally.congr rfl rfl rfl rfl
  | useUp | beginWait => exact tally
  | openFirst hungry unopened opening =>
    exact tally.congr (by simp [Run.advance, acceptedEntries_of_opening opening]) rfl rfl rfl
  | @failQuery _ _ _ _ closes =>
    cases closes with
    | true => exact tally.close.congr (by simp [Run.advance, Event.entry?]) rfl rfl rfl
    | false => exact tally.congr (by simp [Run.advance, Event.entry?]) rfl rfl rfl
  | dropPage =>
    exact tally.close.congr (by simp [Run.advance, pageEvent, Event.entry?]) rfl rfl rfl
  | breakOff hungry opened inside answer acceptance =>
    exact (tally.acceptAll _ _ acceptance).congr
      (by simp [Run.advance, pageEvent, Event.entry?]) rfl rfl rfl
  | turnPage hungry opened inside answer acceptance full =>
    refine (tally.acceptAll _ _ acceptance).congr
      (by simp [Run.after, Run.advance, pageEvent, Event.entry?]) ?_ ?_ ?_
    all_goals
      rw [Run.after, follow_eq]
      simp only [Run.advance]
      rw [advance_eq]
      rfl
  | lastPage hungry opened inside answer acceptance notFull =>
    exact (tally.acceptAll _ _ acceptance).congr
      (by simp [Run.advance, pageEvent, Event.entry?]) rfl rfl rfl
  | renew =>
    refine tally.congr (by simp [Run.after, Run.advance]) ?_ ?_ ?_
    all_goals rw [openNext_eq]; rfl
  | failWait => exact tally.congr (by simp [Run.advance, Event.entry?]) rfl rfl rfl
  | breakWait =>
    exact tally.close.congr (by simp [Run.advance, Event.entry?]) rfl rfl rfl
  | endWait =>
    refine tally.congr (by simp [Run.after, Run.advance, Event.entry?]) ?_ ?_ ?_
    all_goals rw [openNext_eq]; rfl
  | handOut notClosed ready => exact tally.handOut notClosed ready
  | close => exact tally.close

end Tally

/-! ## What is handed out -/

/-- What was handed out, by whatever moves, are the first accepted entries with numbers of their
own. -/
theorem tally_of_path [WaitTime δ] {env : Surroundings ω δ} {stage : Stage} {run : Run ω δ}
    {scope : Scope} {policy : TailPolicy δ} {iterator : Iterator δ} {world : ω}
    (started : Iterator.start scope policy = .ok iterator)
    (path : Path env (.resting, Run.start iterator world) (stage, run)) :
    Tally (acceptedEntries run.events) run.delivered run.iterator := by
  obtain ⟨cursor, -, rfl⟩ := eq_of_start started
  exact path.invariant
    (fun _ run => Tally (acceptedEntries run.events) run.delivered run.iterator)
    (fun move => Tally.move move) (Tally.start _ rfl rfl)

/-- Whatever a consumer does and whatever the surroundings answer, the positions of the entries that
are handed out increase over the whole run, and those at one time are numbered from zero without a
gap. -/
theorem delivered_increasing_and_gapless [WaitTime δ] (env : Surroundings ω δ) {scope : Scope}
    {policy : TailPolicy δ} {iterator : Iterator δ}
    (started : Iterator.start scope policy = .ok iterator) (calls : List Call) (world : ω) :
    let delivered := ((Run.start iterator world).calls env calls).delivered
    (delivered.Pairwise fun left right => left.sortKey.Before right.sortKey)
      ∧ ∀ time, (delivered.filter fun entry => entry.timestamp = time).map Entry.sequence
          = (List.range (countAt delivered time)).map Int.ofNat := by
  intro delivered
  have tally := tally_of_path started (path_calls env (Run.start iterator world) calls)
  obtain ⟨first, isFirst, same⟩ := Entry.exists_numbered_of_isPrefix tally.delivered
  have inOrder := tally.inOrder.sublist isFirst.sublist
  rw [show delivered = numbered first from same]
  refine ⟨Entry.pairwise_before_numbered inOrder, fun time => ?_⟩
  rw [Entry.sequences_numbered, Entry.countAt_numbered]

/-- A page out of order, a query in vain, and a page that begins before the end of the first one. -/
def overlappingPages : Script :=
  let at7 : Entry := ⟨7, 0, [0x61], []⟩
  let at3 : Entry := ⟨3, 0, [0x62], []⟩
  { readings := [500, 400]
    deliveries := []
    batches := [(.ok ⟨[at7, at3], some 7⟩, false), (.error .unfinished, false),
      (.ok ⟨[{ at3 with sequence := 9 }, at7, { at7 with sequence := 4 }], none⟩, false)]
    closeAtWait := some 2
    now := ⟨0, none⟩
    sent := [] }

/-- Whatever is answered in the first microsecond is handed out in order. -/
theorem overlappingPages_increasing_and_gapless :
    ∃ iterator, Iterator.start (Scope.firstMicrosecond false) TailPolicy.standard = .ok iterator ∧
      let delivered := ((Run.start iterator overlappingPages).calls Script.surroundings
        [.prefetch, .next 4, .next 4, .next 4, .close, .next 4]).delivered
      (delivered.Pairwise fun left right => left.sortKey.Before right.sortKey)
        ∧ ∀ time, (delivered.filter fun entry => entry.timestamp = time).map Entry.sequence
            = (List.range (countAt delivered time)).map Int.ofNat :=
  have started : Iterator.start (Scope.firstMicrosecond false) TailPolicy.standard = .ok _ := rfl
  ⟨_, started, delivered_increasing_and_gapless Script.surroundings started _ overlappingPages⟩

end Iterator
end RunLog
