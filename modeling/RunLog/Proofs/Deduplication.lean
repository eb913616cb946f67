import RunLog.Proofs.Numbering
import RunLog.Proofs.Reading

/-!
# No entry is accepted twice

An iterator forgets the fingerprints that are older than its cursor.  What it forgets cannot come
again as long as no query answers with entries from before its window: the cursor never goes back,
and every query asks from the cursor on.  The client is such a source whatever the backend answers,
because it drops the lines outside the window itself.
-/

namespace RunLog

namespace Entry

/-- An entry has the time that its fingerprint says. -/
theorem timestamp_of_fingerprint {entry : Entry} {fingerprint : Fingerprint}
    (found : entry.fingerprint = .ok fingerprint) : fingerprint.timestamp = entry.timestamp := by
  unfold Entry.fingerprint at found
  split at found
  · exact Except.ok.inj found ▸ rfl
  · cases found

end Entry

namespace Iterator

variable {ω δ : Type}

/-- Every entry that a query answers with lies inside the window that was asked for. -/
def StaysInside (env : Surroundings ω δ) : Prop :=
  ∀ window world batch closes later, env.query window world = ((.ok batch, closes), later) →
    ∀ entry ∈ batch.entries, window.contains entry.timestamp = true

/-- Entries with pairwise different fingerprints, of which an iterator remembers those that are not
older than its cursor. -/
structure Remembered (accepted : List Entry) (iterator : Iterator δ) : Prop where
  /-- No fingerprint comes twice. -/
  distinct : (accepted.map Entry.fingerprint).Nodup
  /-- Every entry has a fingerprint, which is remembered unless it is old. -/
  known : ∀ entry ∈ accepted, ∃ fingerprint, entry.fingerprint = .ok fingerprint
    ∧ (iterator.cursor ≤ fingerprint.timestamp → fingerprint ∈ iterator.accepted)

namespace Remembered

variable {accepted : List Entry} {iterator : Iterator δ}

/-- A later cursor and the fingerprints from it on are enough. -/
theorem forget {accepted' : List Entry} {next : Iterator δ}
    (remembered : Remembered accepted iterator) (sameEntries : accepted' = accepted)
    (later : iterator.cursor ≤ next.cursor)
    (kept : ∀ fingerprint ∈ iterator.accepted, next.cursor ≤ fingerprint.timestamp →
      fingerprint ∈ next.accepted) :
    Remembered accepted' next := by
  subst sameEntries
  refine ⟨remembered.distinct, fun entry among => ?_⟩
  obtain ⟨fingerprint, found, recent⟩ := remembered.known entry among
  refine ⟨fingerprint, found, fun fromCursor => ?_⟩
  exact kept fingerprint (recent (Int.le_trans later fromCursor)) fromCursor

/-- Nothing else of an iterator matters. -/
theorem congr {accepted' : List Entry} {next : Iterator δ}
    (remembered : Remembered accepted iterator) (sameEntries : accepted' = accepted)
    (cursor : next.cursor = iterator.cursor) (known : next.accepted = iterator.accepted) :
    Remembered accepted' next :=
  remembered.forget sameEntries (Int.le_of_eq cursor.symm) fun _ present _ => known ▸ present

theorem advance (remembered : Remembered accepted iterator) (cursor : Int) :
    Remembered accepted (iterator.advance cursor) := by
  refine remembered.forget rfl ?_ ?_
  · rw [cursor_advance]
    exact Int.le_max_left _ _
  · intro fingerprint present recent
    rw [cursor_advance] at recent
    exact mem_accepted_advance.mpr
      ⟨present, Or.inr (Int.le_trans (Int.le_max_right _ _) recent)⟩

theorem catchUp (remembered : Remembered accepted iterator) :
    Remembered accepted iterator.catchUp := by
  unfold Iterator.catchUp
  split
  · exact remembered.advance _
  · exact remembered

/-- An entry from the cursor on that is not remembered was never accepted. -/
theorem push (remembered : Remembered accepted iterator) {entry : Entry}
    {fingerprint : Fingerprint} (found : entry.fingerprint = .ok fingerprint)
    (fresh : fingerprint ∉ iterator.accepted) (fromCursor : iterator.cursor ≤ entry.timestamp) :
    Remembered (accepted ++ [entry]) (iterator.push entry fingerprint) := by
  have recent : iterator.cursor ≤ fingerprint.timestamp := by
    rw [Entry.timestamp_of_fingerprint found]
    exact fromCursor
  refine ⟨?_, fun earlier among => ?_⟩
  · rw [List.map_append, List.nodup_append]
    refine ⟨remembered.distinct, by simp, ?_⟩
    rintro _ before _ isNew rfl
    obtain ⟨earlier, among, same⟩ := List.mem_map.mp before
    obtain ⟨known, isKnown, isRemembered⟩ := remembered.known earlier among
    rw [List.map_singleton, List.mem_singleton] at isNew
    rw [isKnown, isNew, found] at same
    cases Except.ok.inj same
    exact fresh (isRemembered recent)
  · rcases List.mem_append.mp among with before | isNew
    · obtain ⟨known, isKnown, isRemembered⟩ := remembered.known earlier before
      exact ⟨known, isKnown, fun old => List.mem_cons_of_mem _ (isRemembered old)⟩
    · cases List.mem_singleton.mp isNew
      exact ⟨fingerprint, found, fun _ => List.mem_cons_self⟩

theorem acceptAll (remembered : Remembered accepted iterator) (stop : Option Int)
    {entries : List Entry} (inside : ∀ entry ∈ entries, iterator.cursor ≤ entry.timestamp)
    {next : Iterator δ} {taken : List Entry} {failure : Option Failure}
    (acceptance : Iterator.acceptAll stop entries iterator = (next, taken, failure)) :
    Remembered (accepted ++ taken) next := by
  have kept := acceptAll_induction stop
    (fun accepted next => next.cursor = iterator.cursor ∧ Remembered accepted next)
    (fun _ next entry fingerprint present found fresh _ before =>
      ⟨before.1, before.2.push found fresh (before.1 ▸ inside entry present)⟩)
    accepted iterator ⟨rfl, remembered⟩
  simpa [acceptance] using kept.2

/-- Every move keeps what is remembered. -/
theorem move [WaitTime δ] {env : Surroundings ω δ} (staysInside : StaysInside env)
    {stage stage' : Stage} {run run' : Run ω δ} (move : Move env (stage, run) (stage', run'))
    (remembered : Remembered (acceptedEntries run.events) run.iterator) :
    Remembered (acceptedEntries run'.events) run'.iterator := by
  have fromCursor {windowStop : Int} {batch : Batch} {closes : Bool} {world : ω}
      (answer : env.query ⟨run.iterator.cursor, windowStop⟩ run.world
        = ((.ok batch, closes), world)) :
      ∀ entry ∈ Entry.sorted batch.entries, run.iterator.cursor ≤ entry.timestamp := by
    intro entry present
    have inWindow := staysInside _ _ _ _ _ answer entry
      ((Entry.sorted_perm batch.entries).mem_iff.mp present)
    exact (of_decide_eq_true inWindow).1
  cases move with
  | resume | finish | giveUp | postpone => exact remembered.congr rfl rfl rfl
  | useUp | beginWait => exact remembered
  | openFirst hungry unopened opening =>
    exact remembered.congr (by simp [Run.advance, acceptedEntries_of_opening opening]) rfl rfl
  | @failQuery _ _ _ _ closes =>
    cases closes <;> exact remembered.congr (by simp [Run.advance, Event.entry?]) rfl rfl
  | dropPage =>
    exact remembered.congr (by simp [Run.advance, pageEvent, Event.entry?]) rfl rfl
  | breakOff hungry opened inside answer acceptance =>
    exact (remembered.acceptAll _ (fromCursor answer) acceptance).congr
      (by simp [Run.advance, pageEvent, Event.entry?]) rfl rfl
  | @turnPage _ _ _ _ _ next taken cursor hungry opened inside answer acceptance full =>
    have afterPage := remembered.acceptAll _ (fromCursor answer) acceptance
    have counted : Remembered (acceptedEntries run.events ++ taken) (next.countTaken taken) :=
      afterPage.congr rfl rfl rfl
    refine (counted.advance (max cursor ((next.countTaken taken).cursor + 1))).congr
      (by simp [Run.after, Run.advance, pageEvent, Event.entry?]) ?_ ?_
    all_goals rw [Run.after, follow_eq]; rfl
  | lastPage hungry opened inside answer acceptance notFull =>
    exact (remembered.acceptAll _ (fromCursor answer) acceptance).congr
      (by simp [Run.advance, pageEvent, Event.entry?]) rfl rfl
  | renew =>
    have patient : Remembered (acceptedEntries run.events)
        { run.iterator with elapsed := WaitTime.none } := remembered.congr rfl rfl rfl
    refine patient.catchUp.congr (by simp [Run.after, Run.advance]) ?_ ?_
    all_goals rw [openNext_eq]; rfl
  | failWait | breakWait =>
    exact remembered.congr (by simp [Run.advance, Event.entry?]) rfl rfl
  | endWait =>
    have waited : Remembered (acceptedEntries run.events) run.iterator.countWait.passInterval :=
      remembered.congr rfl rfl rfl
    refine waited.catchUp.congr (by simp [Run.after, Run.advance, Event.entry?]) ?_ ?_
    all_goals rw [openNext_eq]; rfl
  | handOut | close => exact remembered.congr rfl rfl rfl

end Remembered

/-! ## Behind a client -/

/-- A client yields a batch only if a response was read. -/
theorem ofResponse_of_readAnswer {sender : Sender ω} {client : Client}
    {parameters : List Parameter} {window : Window} {answer : Except Failure Response}
    {batch : Batch} (read : client.readAnswer sender parameters window answer = .ok batch) :
    ∃ response value, answer = .ok response ∧ response.json = .ok value
      ∧ Batch.ofResponse sender.room client.pageSize window value = .ok batch := by
  unfold Client.readAnswer at read
  split at read
  · split at read
    · obtain ⟨_, _, read⟩ := bind_eq_ok.mp read
      cases read
    · cases read
  · split at read
    · split at read
      · exact ⟨_, _, rfl, ‹_›, read⟩
      · split at read <;> cases read
    · obtain ⟨_, _, read⟩ := bind_eq_ok.mp read
      cases read

/-- Whatever is answered to it, a client yields entries inside the window that was asked for. -/
theorem contains_of_readAnswer {sender : Sender ω} {client : Client}
    {parameters : List Parameter} {window : Window} {answer : Except Failure Response}
    {batch : Batch} (read : client.readAnswer sender parameters window answer = .ok batch) :
    ∀ entry ∈ batch.entries, window.contains entry.timestamp = true := by
  obtain ⟨_, _, -, -, ofResponse⟩ := ofResponse_of_readAnswer read
  exact Batch.contains_of_ofResponse ofResponse

theorem staysInside_surroundings (host : Host ω) (scope : Scope) :
    StaysInside (host.surroundings scope) := by
  intro window session batch closes later answer
  have read : (session.client.query host.sender scope window session.world).batch = .ok batch :=
    congrArg (fun answer => answer.1.1) answer
  exact contains_of_readAnswer read

/-- Whatever is sent back to the client and whatever a consumer does, the entries that are handed
out stem one by one from entries of the client with pairwise different fingerprints. -/
theorem delivered_from_distinct_fingerprints (host : Host ω) (client : Client) {scope : Scope}
    {policy : TailPolicy Float} {iterator : Iterator Float}
    (started : Iterator.start scope policy = .ok iterator) (calls : List Call) (world : ω) :
    let run := (Run.start iterator ⟨client, world⟩).calls (host.surroundings scope) calls
    let origins := (acceptedEntries run.events).take run.delivered.length
    run.delivered = Entry.numbered origins
      ∧ (∀ origin ∈ origins, ∃ fingerprint, origin.fingerprint = .ok fingerprint)
      ∧ (origins.map Entry.fingerprint).Nodup := by
  intro run origins
  have path := path_calls (host.surroundings scope) (Run.start iterator ⟨client, world⟩) calls
  have remembered : Remembered (acceptedEntries run.events) run.iterator := by
    refine path.invariant
      (fun _ run => Remembered (acceptedEntries run.events) run.iterator)
      (fun move => Remembered.move (staysInside_surroundings host scope) move) ?_
    exact ⟨List.nodup_nil, by simp [Run.start]⟩
  have isOrigin : origins.Sublist (acceptedEntries run.events) := List.take_sublist _ _
  refine ⟨?_, fun origin among => ?_, ?_⟩
  · exact Entry.eq_numbered_take_of_isPrefix (tally_of_path started path).delivered
  · obtain ⟨fingerprint, found, -⟩ := remembered.known origin (isOrigin.subset among)
    exact ⟨fingerprint, found⟩
  · exact remembered.distinct.sublist (isOrigin.map _)

/-- A full page with a line before its window and a line twice, and then the same page again. -/
def repeatedPage : Script :=
  let values : Text := "[[-1,\"a\"],[5,\"b\"],[5,\"b\"]]"
  let page :=
    Text.utf8 ("\x7b\"data\":\x7b\"result\":[\x7b\"values\":" ++ values ++ "\x7d]\x7d\x7d")
  let delivery : Delivery := ⟨.ok (Script.response 200 page), .nothing, []⟩
  { readings := [500]
    deliveries := [delivery, delivery]
    batches := []
    closeAtWait := some 1
    now := ⟨0, none⟩
    sent := [] }

/-- No line of the repeated page is handed out twice. -/
theorem repeatedPage_from_distinct_fingerprints :
    ∃ iterator, Iterator.start (Scope.firstMicrosecond false) TailPolicy.standard = .ok iterator ∧
      let client : Client := ⟨⟨"http://loki:3100", none, none, true, 10, false⟩, ⟨"ci", none⟩, 3⟩
      let run := (Run.start iterator ⟨client, repeatedPage⟩).calls
        (Script.host.surroundings (Scope.firstMicrosecond false))
        [.prefetch, .next 4, .next 4, .next 4, .close]
      let origins := (acceptedEntries run.events).take run.delivered.length
      run.delivered = Entry.numbered origins
        ∧ (∀ origin ∈ origins, ∃ fingerprint, origin.fingerprint = .ok fingerprint)
        ∧ (origins.map Entry.fingerprint).Nodup :=
  have started : Iterator.start (Scope.firstMicrosecond false) TailPolicy.standard = .ok _ := rfl
  ⟨_, started, delivered_from_distinct_fingerprints Script.host _ started _ repeatedPage⟩

end Iterator
end RunLog
