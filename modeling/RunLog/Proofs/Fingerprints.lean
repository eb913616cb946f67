import Mathlib.Data.List.Basic
import Mathlib.Data.List.Perm.Basic
import RunLog.Proofs.Discipline

/-!
# What fingerprints tell apart

A fingerprint holds digests, and the digest of a stream is taken over the text of its labels.  Where
no two texts share a digest, a fingerprint tells apart what the texts tell apart.  The text of the
labels does not show where a value ends: it tells labels apart as long as names hold neither commas
nor equals signs and no value holds an equals sign after a comma.
-/

namespace RunLog

/-! ## The text of labels -/

namespace Labels

/-- Whether a text holds no equals sign after a comma. -/
def isSettled (value : Text) : Bool :=
  (value.dropWhile fun point => !point.is ',').all fun point => !point.is '='

/-- Whether the text of a label shows where its name and its value end. -/
def isSeparable (label : Text × Text) : Bool :=
  (label.1.all fun point => !point.is ',' && !point.is '=') && isSettled label.2

/-- A label as it enters the text of its stream. -/
def written (label : Text × Text) : Text :=
  label.1 ++ "=" ++ label.2

/-- The text of labels that come after another one. -/
def continued (labels : List (Text × Text)) : Text :=
  labels.flatMap fun label => "," ++ written label

@[simp] theorem continued_nil : continued [] = [] := rfl

theorem continued_cons (label : Text × Text) (labels : List (Text × Text)) :
    continued (label :: labels)
      = CodePoint.ofChar ',' :: (written label ++ continued labels) := by
  simp [continued, Text.ofString]

theorem written_append (label : Text × Text) (rest : Text) :
    written label ++ rest = label.1 ++ CodePoint.ofChar '=' :: (label.2 ++ rest) := by
  simp [written, Text.ofString]

theorem not_equals_of_isSettled {before after : Text}
    (settled : isSettled (before ++ CodePoint.ofChar ',' :: after) = true) :
    ∀ point ∈ after, point.is '=' = false := by
  have isComma : (CodePoint.ofChar ',').is ',' = true := by decide
  induction before with
  | nil =>
    simp only [isSettled, List.nil_append, List.dropWhile_cons, isComma, Bool.not_true,
      Bool.false_eq_true, if_false, List.all_cons, Bool.and_eq_true, List.all_eq_true] at settled
    simpa using settled.2
  | cons point before inductionHypothesis =>
    rw [isSettled, List.cons_append, List.dropWhile_cons] at settled
    split at settled
    · exact inductionHypothesis settled
    · simp only [List.all_cons, List.all_append, Bool.and_eq_true, List.all_eq_true] at settled
      simpa using settled.2.2.2

/-- A name that is read up to an equals sign ends there. -/
theorem clean_of_isSeparable {label : Text × Text} (separable : isSeparable label = true) :
    (∀ point ∈ label.1, point.is ',' = false) ∧ (∀ point ∈ label.1, point.is '=' = false)
      ∧ isSettled label.2 = true := by
  simp only [isSeparable, List.all_eq_true, Bool.and_eq_true, Bool.not_eq_true'] at separable
  exact ⟨fun point present => (separable.1 point present).1,
    fun point present => (separable.1 point present).2, separable.2⟩

/-- Names without equals signs end at the first one. -/
theorem eq_of_equals {left right leftRest rightRest : Text}
    (cleanLeft : ∀ point ∈ left, point.is '=' = false)
    (cleanRight : ∀ point ∈ right, point.is '=' = false)
    (same : left ++ CodePoint.ofChar '=' :: leftRest = right ++ CodePoint.ofChar '=' :: rightRest) :
    left = right ∧ leftRest = rightRest := by
  have split := congrArg (Text.splitFirst? '=') same
  rw [Text.splitFirst?_of_clean cleanLeft, Text.splitFirst?_of_clean cleanRight] at split
  exact Prod.mk.inj (Option.some.inj split)

variable {labels others : List (Text × Text)}

/-- Before the labels that follow it, no settled value goes on where another one ends. -/
theorem continued_ne_of_isSettled {value more : Text} {point : CodePoint}
    (settled : isSettled (value ++ point :: more) = true)
    (separable : ∀ label ∈ labels, isSeparable label = true)
    (separableOthers : ∀ label ∈ others, isSeparable label = true) :
    continued labels ≠ point :: more ++ continued others := by
  intro same
  cases labels with
  | nil => cases same
  | cons label labels =>
    obtain ⟨noComma, noEquals, -⟩ := clean_of_isSeparable (separable label List.mem_cons_self)
    rw [continued_cons, written_append, List.cons_append, List.cons.injEq] at same
    obtain ⟨rfl, same⟩ := same
    have stillNone := not_equals_of_isSettled settled
    cases others with
    | nil =>
      rw [continued_nil, List.append_nil] at same
      have isEquals := stillNone (CodePoint.ofChar '=') (same ▸ by simp)
      exact absurd isEquals (by decide)
    | cons other others =>
      obtain ⟨-, otherNoEquals, -⟩ :=
        clean_of_isSeparable (separableOthers other List.mem_cons_self)
      have wholeNoEquals : ∀ point ∈ more ++ CodePoint.ofChar ',' :: other.1,
          point.is '=' = false := by
        simp only [List.forall_mem_append, List.forall_mem_cons]
        exact ⟨stillNone, by decide, otherNoEquals⟩
      have regrouped : label.1 ++ CodePoint.ofChar '=' :: (label.2 ++ continued labels)
          = (more ++ CodePoint.ofChar ',' :: other.1)
            ++ CodePoint.ofChar '=' :: (other.2 ++ continued others) := by
        rw [same, continued_cons, written_append, List.append_assoc, List.cons_append]
      have sameName := (eq_of_equals noEquals wholeNoEquals regrouped).1
      exact absurd (noComma (CodePoint.ofChar ',') (by simp [sameName])) (by decide)

/-- Settled values before the labels that follow them end at the same place. -/
theorem value_eq_of_isSettled {value other : Text}
    (settled : isSettled value = true) (settledOther : isSettled other = true)
    (separable : ∀ label ∈ labels, isSeparable label = true)
    (separableOthers : ∀ label ∈ others, isSeparable label = true)
    (same : value ++ continued labels = other ++ continued others) :
    value = other ∧ continued labels = continued others := by
  rcases List.append_eq_append_iff.mp same with ⟨more, rfl, rest⟩ | ⟨more, rfl, rest⟩
  · cases more with
    | nil => exact ⟨(List.append_nil _).symm, rest⟩
    | cons point more =>
      exact absurd rest (continued_ne_of_isSettled settledOther separable separableOthers)
  · cases more with
    | nil => exact ⟨List.append_nil _, rest.symm⟩
    | cons point more =>
      exact absurd rest (continued_ne_of_isSettled settled separableOthers separable)

theorem label_eq_of_isSeparable {label other : Text × Text} (isOne : isSeparable label = true)
    (isOther : isSeparable other = true) (separable : ∀ label ∈ labels, isSeparable label = true)
    (separableOthers : ∀ label ∈ others, isSeparable label = true)
    (same : written label ++ continued labels = written other ++ continued others) :
    label = other ∧ continued labels = continued others := by
  obtain ⟨-, noEquals, settled⟩ := clean_of_isSeparable isOne
  obtain ⟨-, otherNoEquals, otherSettled⟩ := clean_of_isSeparable isOther
  obtain ⟨sameName, same⟩ : label.1 = other.1
      ∧ label.2 ++ continued labels = other.2 ++ continued others := by
    rw [written_append, written_append] at same
    exact eq_of_equals noEquals otherNoEquals same
  obtain ⟨sameValue, same⟩ :=
    value_eq_of_isSettled settled otherSettled separable separableOthers same
  exact ⟨Prod.ext sameName sameValue, same⟩

theorem eq_of_continued_eq (separable : ∀ label ∈ labels, isSeparable label = true)
    (separableOthers : ∀ label ∈ others, isSeparable label = true)
    (same : continued labels = continued others) : labels = others := by
  induction labels generalizing others with
  | nil =>
    cases others with
    | nil => rfl
    | cons other others => cases same
  | cons label labels inductionHypothesis =>
    cases others with
    | nil => cases same
    | cons other others =>
      rw [List.forall_mem_cons] at separable separableOthers
      rw [continued_cons, continued_cons, List.cons.injEq] at same
      obtain ⟨rfl, sameRest⟩ := label_eq_of_isSeparable separable.1 separableOthers.1 separable.2
        separableOthers.2 same.2
      rw [inductionHypothesis separable.2 separableOthers.2 sameRest]

/-! ## Labels in the order of their names -/

/-- Labels in the order of their names. -/
def inOrder (texts : List (Text × Text)) : List (Text × Text) :=
  texts.mergeSort fun left right => left.1.le right.1

theorem text_ofTexts (texts : List (Text × Text)) :
    (ofTexts texts).text = Text.join "," ((inOrder texts).map written) := by
  have sorted : (ofTexts texts).sorted = ofTexts (inOrder texts) := by
    simp only [Labels.sorted, ofTexts, ofMembers, inOrder, List.map_map]
    refine (List.map_mergeSort ?_).symm
    intro left _ right _
    rfl
  rw [text, sorted]
  simp only [ofTexts, ofMembers, List.map_map]
  rfl

/-- The text of labels that stand in the order of their names. -/
theorem text_of_ordered {texts : List (Text × Text)}
    (ordered : texts.Pairwise fun left right => left.1.le right.1 = true) :
    (ofTexts texts).text = Text.join "," (texts.map written) := by
  rw [text_ofTexts, inOrder, List.mergeSort_of_pairwise ordered]

/-- The order of labels shows which labels they are and nothing else. -/
theorem inOrder_eq_iff {left right : List (Text × Text)} (once : (left.map Prod.fst).Nodup) :
    inOrder left = inOrder right ↔ left.Perm right := by
  have ordered (texts : List (Text × Text)) :
      (inOrder texts).Pairwise fun left right => left.1.le right.1 = true := by
    refine List.pairwise_mergeSort (fun first second third before after => ?_)
      (fun first second => ?_) texts
    · exact Text.le_trans before after
    · rw [Bool.or_eq_true]
      exact Text.le_total first.1 second.1
  have leftPerm : (inOrder left).Perm left := List.mergeSort_perm left _
  have rightPerm : (inOrder right).Perm right := List.mergeSort_perm right _
  constructor
  · intro same
    exact leftPerm.symm.trans (same ▸ rightPerm)
  · intro perm
    refine List.Perm.eq_of_pairwise ?_ (ordered left) (ordered right)
      (leftPerm.trans (perm.trans rightPerm.symm))
    intro first second inLeft inRight before after
    have sameName : first.1 = second.1 := Text.le_antisymm before after
    have firstPresent := leftPerm.mem_iff.mp inLeft
    have secondPresent := perm.mem_iff.mpr (rightPerm.mem_iff.mp inRight)
    exact List.inj_on_of_nodup_map once firstPresent secondPresent sameName

/-- Labels that are texts, with every name once. -/
def Textual (labels : Labels) : Prop :=
  ∃ texts : List (Text × Text), labels = ofTexts texts ∧ (texts.map Prod.fst).Nodup

/-- Labels that are texts, with every name once, and that show where names and values end. -/
def Clear (labels : Labels) : Prop :=
  ∃ texts : List (Text × Text), labels = ofTexts texts ∧ (texts.map Prod.fst).Nodup
    ∧ ∀ label ∈ texts, isSeparable label = true

theorem Clear.textual {labels : Labels} (clear : labels.Clear) : labels.Textual := by
  obtain ⟨texts, same, once, -⟩ := clear
  exact ⟨texts, same, once⟩

theorem eq_of_join_eq {left right : List (Text × Text)}
    (separable : ∀ label ∈ left, isSeparable label = true)
    (separableOthers : ∀ label ∈ right, isSeparable label = true)
    (same : Text.join "," (left.map written) = Text.join "," (right.map written)) :
    left = right := by
  have join_written (label : Text × Text) (labels : List (Text × Text)) :
      Text.join "," ((label :: labels).map written) = written label ++ continued labels := by
    rw [List.map_cons, Text.join_cons, List.flatMap_map]
    rfl
  have written_ne_nil (label : Text × Text) (rest : Text) : written label ++ rest ≠ [] := by
    simp [written_append]
  apply eq_of_continued_eq separable separableOthers
  cases left with
  | nil =>
    cases right with
    | nil => rfl
    | cons other others =>
      rw [join_written] at same
      exact absurd same.symm (written_ne_nil _ _)
  | cons label labels =>
    cases right with
    | nil =>
      rw [join_written] at same
      exact absurd same (written_ne_nil _ _)
    | cons other others =>
      rw [join_written, join_written] at same
      rw [continued_cons, continued_cons, same]

/-- The text of clear labels shows which labels they are and nothing else. -/
theorem text_eq_iff_perm {left right : Labels} (clearLeft : left.Clear) (clearRight : right.Clear) :
    left.text = right.text ↔ left.Perm right := by
  obtain ⟨left, rfl, once, separable⟩ := clearLeft
  obtain ⟨right, rfl, -, separableRight⟩ := clearRight
  have inOrder_perm (texts : List (Text × Text)) : (inOrder texts).Perm texts :=
    List.mergeSort_perm texts _
  have ofTexts_perm : (ofTexts left).Perm (ofTexts right) ↔ left.Perm right := by
    rw [ofTexts, ofTexts, ofMembers, ofMembers, List.map_map, List.map_map]
    apply List.map_perm_map_iff
    rintro ⟨name, value⟩ ⟨otherName, otherValue⟩ same
    cases same
    rfl
  rw [text_ofTexts, text_ofTexts, ofTexts_perm, ← inOrder_eq_iff once]
  constructor
  · apply eq_of_join_eq
    · exact fun label present => separable label ((inOrder_perm left).mem_iff.mp present)
    · exact fun label present => separableRight label ((inOrder_perm right).mem_iff.mp present)
  · intro same
    rw [same]

end Labels

/-! ## Fingerprints -/

/-- Two sequences of bytes with one digest are the same. -/
def Sha1.Distinguishes (left right : Bytes) : Prop :=
  Sha1.digest left = Sha1.digest right → left = right

namespace Entry

/-- Neither the lines of two entries nor their labels share a digest by accident. -/
structure NoCollision (left right : Entry) : Prop where
  lines : Sha1.Distinguishes left.line right.line
  streams : Sha1.Distinguishes left.labels.text.utf8 right.labels.text.utf8

/-- Two entries with the same position, the same bytes and the same text for their labels. -/
structure LooksLike (left right : Entry) : Prop where
  timestamp : left.timestamp = right.timestamp
  sequence : left.sequence = right.sequence
  line : left.line = right.line
  text : left.labels.text = right.labels.text

/-- Two entries for one line of one stream. -/
structure SameLine (left right : Entry) : Prop where
  timestamp : left.timestamp = right.timestamp
  sequence : left.sequence = right.sequence
  line : left.line = right.line
  labels : left.labels.Perm right.labels

/-- An entry with texts as labels has a fingerprint if the text of its labels can be written. -/
theorem fingerprint_eq_ok_iff {entry : Entry} (textual : entry.labels.Textual)
    {fingerprint : Fingerprint} :
    entry.fingerprint = .ok fingerprint ↔
      entry.labels.text.hasSurrogate = false
        ∧ fingerprint = ⟨entry.timestamp, entry.sequence, Sha1.digest entry.labels.text.utf8,
          Sha1.digest entry.line⟩ := by
  have comparable : entry.labels.comparable = true := by
    obtain ⟨texts, labels, -⟩ := textual
    simp [labels, Labels.comparable, Labels.ofTexts, Labels.ofMembers, Label.named]
  cases plain : entry.labels.text.hasSurrogate with
  | true => simp [Entry.fingerprint, Labels.encoded?, comparable, Text.utf8?, plain]
  | false => simp [Entry.fingerprint, Labels.encoded?, comparable, Text.utf8?, plain, eq_comm]

variable {left right : Entry}

/-- Where digests do not collide, two entries share a fingerprint exactly if they look alike. -/
theorem fingerprint_eq_iff (textual : left.labels.Textual) (textualRight : right.labels.Textual)
    (noCollision : left.NoCollision right) {fingerprint : Fingerprint}
    (found : left.fingerprint = .ok fingerprint) :
    right.fingerprint = .ok fingerprint ↔ left.LooksLike right := by
  obtain ⟨plain, rfl⟩ := (fingerprint_eq_ok_iff textual).mp found
  rw [fingerprint_eq_ok_iff textualRight, Fingerprint.mk.injEq]
  constructor
  · rintro ⟨-, timestamp, sequence, stream, line⟩
    exact ⟨timestamp, sequence, noCollision.lines line,
      Text.utf8_injective (noCollision.streams stream)⟩
  · rintro ⟨timestamp, sequence, line, text⟩
    rw [← text, ← line]
    exact ⟨plain, timestamp, sequence, rfl, rfl⟩

/-- Entries with clear labels look alike only if they are for one line of one stream. -/
theorem looksLike_iff_sameLine (clear : left.labels.Clear) (clearRight : right.labels.Clear) :
    left.LooksLike right ↔ left.SameLine right := by
  have labels := Labels.text_eq_iff_perm clear clearRight
  constructor
  · intro alike
    exact ⟨alike.timestamp, alike.sequence, alike.line, labels.mp alike.text⟩
  · intro same
    exact ⟨same.timestamp, same.sequence, same.line, labels.mpr same.labels⟩

end Entry

/-! ## What an iterator refuses -/

/-- An entry that a query can answer with. -/
def Surroundings.Answers {ω δ : Type} (env : Surroundings ω δ) (entry : Entry) : Prop :=
  ∃ window world batch closes later,
    env.query window world = ((.ok batch, closes), later) ∧ entry ∈ batch.entries

namespace Iterator

variable {ω δ : Type}

/-- A run takes a page in and refuses an entry of it, after it has accepted some entries, those of
the page before this one among them. -/
def Refuses (env : Surroundings ω δ) (stop : Option Int) (run : Run ω δ) (earlier : List Entry)
    (entry : Entry) : Prop :=
  ∃ windowStop batch later before after current taken,
    env.query ⟨run.iterator.cursor, windowStop⟩ run.world = ((.ok batch, false), later)
      ∧ Entry.sorted batch.entries = before ++ entry :: after
      ∧ acceptAll stop before run.iterator = (current, taken, none)
      ∧ earlier = acceptedEntries run.events ++ taken
      ∧ current.accept stop entry = .ok (current, false)

/-- What an iterator knows about the past stems from entries that were accepted. -/
structure Grounded (env : Surroundings ω δ) (accepted : List Entry) (iterator : Iterator δ) :
    Prop where
  known : ∀ fingerprint ∈ iterator.accepted, ∃ entry ∈ accepted, entry.fingerprint = .ok fingerprint
  last : ∀ key, iterator.last = some key → ∃ entry ∈ accepted, entry.timestamp = key.timestamp
  answered : ∀ entry ∈ accepted, env.Answers entry

namespace Grounded

variable {env : Surroundings ω δ} {accepted : List Entry} {iterator : Iterator δ}

/-- Nothing is known that was not known before. -/
theorem forget {accepted' : List Entry} {next : Iterator δ}
    (grounded : Grounded env accepted iterator) (sameEntries : accepted' = accepted)
    (fewer : next.accepted ⊆ iterator.accepted) (sameLast : next.last = iterator.last) :
    Grounded env accepted' next := by
  subst sameEntries
  refine ⟨fun fingerprint present => grounded.known fingerprint (fewer present), ?_,
    grounded.answered⟩
  rw [sameLast]
  exact grounded.last

theorem push (grounded : Grounded env accepted iterator) {entry : Entry}
    {fingerprint : Fingerprint} (found : entry.fingerprint = .ok fingerprint)
    (answered : env.Answers entry) :
    Grounded env (accepted ++ [entry]) (iterator.push entry fingerprint) := by
  have isLast : entry ∈ accepted ++ [entry] := List.mem_append_right _ (List.mem_singleton.mpr rfl)
  refine ⟨fun other present => ?_, fun key isKey => ?_, fun other present => ?_⟩
  · rcases List.mem_cons.mp present with rfl | before
    · exact ⟨entry, isLast, found⟩
    · obtain ⟨origin, among, same⟩ := grounded.known other before
      exact ⟨origin, List.mem_append_left _ among, same⟩
  · cases isKey
    exact ⟨entry, isLast, rfl⟩
  · rcases List.mem_append.mp present with before | isEntry
    · exact grounded.answered other before
    · exact List.mem_singleton.mp isEntry ▸ answered

theorem acceptAll (grounded : Grounded env accepted iterator) {stop : Option Int}
    {entries : List Entry} (answered : ∀ entry ∈ entries, env.Answers entry)
    {next : Iterator δ} {taken : List Entry} {failure : Option Failure}
    (acceptance : Iterator.acceptAll stop entries iterator = (next, taken, failure)) :
    Grounded env (accepted ++ taken) next := by
  have kept := acceptAll_induction stop (Grounded env)
    (fun _ _ entry _ present found _ _ grounded => grounded.push found (answered entry present))
    accepted iterator grounded
  simpa [acceptance] using kept

theorem advance (grounded : Grounded env accepted iterator) (cursor : Int) :
    Grounded env accepted (iterator.advance cursor) := by
  refine grounded.forget rfl (fun _ present => (mem_accepted_advance.mp present).1) ?_
  rw [advance_eq]

theorem catchUp (grounded : Grounded env accepted iterator) :
    Grounded env accepted iterator.catchUp := by
  unfold Iterator.catchUp
  split
  · exact grounded.advance _
  · exact grounded

/-- Nothing else of an iterator matters. -/
theorem congr {accepted' : List Entry} {next : Iterator δ}
    (grounded : Grounded env accepted iterator) (sameEntries : accepted' = accepted)
    (known : next.accepted = iterator.accepted) (sameLast : next.last = iterator.last) :
    Grounded env accepted' next :=
  grounded.forget sameEntries (fun _ present => known ▸ present) sameLast

/-- Every move keeps this. -/
theorem move [WaitTime δ] {stage stage' : Stage} {run run' : Run ω δ}
    (move : Move env (stage, run) (stage', run'))
    (grounded : Grounded env (acceptedEntries run.events) run.iterator) :
    Grounded env (acceptedEntries run'.events) run'.iterator := by
  have answers {windowStop : Int} {batch : Batch} {closes : Bool} {world : ω}
      (answer : env.query ⟨run.iterator.cursor, windowStop⟩ run.world
        = ((.ok batch, closes), world)) :
      ∀ entry ∈ Entry.sorted batch.entries, env.Answers entry := by
    intro entry present
    exact ⟨_, _, batch, closes, world, answer,
      (Entry.sorted_perm batch.entries).mem_iff.mp present⟩
  cases move with
  | resume | finish | giveUp | postpone | useUp | beginWait | handOut | close =>
    exact grounded.congr rfl rfl rfl
  | openFirst hungry unopened opening =>
    exact grounded.congr (by simp [Run.advance, acceptedEntries_of_opening opening]) rfl rfl
  | @failQuery _ _ _ _ closes =>
    cases closes <;> exact grounded.congr (by simp [Run.advance, Event.entry?]) rfl rfl
  | dropPage =>
    exact grounded.congr (by simp [Run.advance, pageEvent, Event.entry?]) rfl rfl
  | breakOff hungry opened inside answer acceptance
  | lastPage hungry opened inside answer acceptance =>
    exact (grounded.acceptAll (answers answer) acceptance).congr
      (by simp [Run.advance, pageEvent, Event.entry?]) rfl rfl
  | @turnPage _ _ _ _ _ next taken cursor hungry opened inside answer acceptance full =>
    have counted : Grounded env (acceptedEntries run.events ++ taken) (next.countTaken taken) :=
      (grounded.acceptAll (answers answer) acceptance).congr rfl rfl rfl
    refine (counted.advance (max cursor ((next.countTaken taken).cursor + 1))).congr
      (by simp [Run.after, Run.advance, pageEvent, Event.entry?]) ?_ ?_
    all_goals rw [Run.after, follow_eq]; rfl
  | renew =>
    have patient : Grounded env (acceptedEntries run.events)
        { run.iterator with elapsed := WaitTime.none } := grounded.congr rfl rfl rfl
    refine patient.catchUp.congr (by simp [Run.after, Run.advance]) ?_ ?_
    · rw [openNext_eq]
      rfl
    · rw [openNext_eq, catchUp_eq]
      rfl
  | failWait | breakWait =>
    exact grounded.congr (by simp [Run.advance, Event.entry?]) rfl rfl
  | endWait =>
    have waited : Grounded env (acceptedEntries run.events) run.iterator.countWait.passInterval :=
      grounded.congr rfl rfl rfl
    refine waited.catchUp.congr (by simp [Run.after, Run.advance, Event.entry?]) ?_ ?_
    · rw [openNext_eq]
      rfl
    · rw [openNext_eq, catchUp_eq]
      rfl

end Grounded

/-- An entry is refused because it is past the end, because it comes late or because it is
known. -/
theorem cases_of_refusal {stop : Option Int} {iterator : Iterator δ} {entry : Entry}
    (refused : iterator.accept stop entry = .ok (iterator, false)) :
    (∃ last ∈ stop, last ≤ entry.timestamp)
      ∨ (∃ key, iterator.last = some key ∧ entry.timestamp < key.timestamp)
      ∨ ∃ fingerprint ∈ iterator.accepted, entry.fingerprint = .ok fingerprint := by
  rw [accept] at refused
  split at refused
  · rename_i past
    left
    cases stop with
    | none => cases past
    | some last => exact ⟨last, rfl, of_decide_eq_true past⟩
  · right
    cases found : entry.fingerprint with
    | error failure =>
      rw [found] at refused
      cases refused
    | ok fingerprint =>
      simp only [found] at refused
      split at refused
      · rename_i unwanted
        rcases unwanted with known | late
        · exact Or.inr ⟨fingerprint, known, rfl⟩
        · left
          rw [isLate] at late
          split at late
          · exact ⟨_, ‹_›, of_decide_eq_true late⟩
          · cases late
      · exact absurd (congrArg Prod.snd (Except.ok.inj refused)) Bool.true_eq_false.mp

/-- What an iterator refuses inside its scope comes late or looks like an entry that was
accepted. -/
theorem earlier_of_refuses {env : Surroundings ω δ}
    (textual : ∀ entry, env.Answers entry → entry.labels.Textual)
    (noCollision : ∀ left right, env.Answers left → env.Answers right → left.NoCollision right)
    {run : Run ω δ} (grounded : Grounded env (acceptedEntries run.events) run.iterator)
    {stop : Option Int} {earlier : List Entry} {entry : Entry}
    (refuses : Refuses env stop run earlier entry) :
    (∃ last ∈ stop, last ≤ entry.timestamp)
      ∨ (∃ before ∈ earlier, entry.timestamp < before.timestamp)
      ∨ ∃ before ∈ earlier, before.LooksLike entry := by
  obtain ⟨windowStop, batch, later, before, after, current, taken, answer, split, acceptance, rfl,
    refused⟩ := refuses
  have answers : ∀ other ∈ before ++ entry :: after, env.Answers other := by
    intro other present
    rw [← split] at present
    exact ⟨_, _, batch, false, later, answer,
      (Entry.sorted_perm batch.entries).mem_iff.mp present⟩
  rw [List.forall_mem_append, List.forall_mem_cons] at answers
  obtain ⟨beforeAnswered, entryAnswered, -⟩ := answers
  have atEntry := grounded.acceptAll beforeAnswered acceptance
  rcases cases_of_refusal refused with past | ⟨key, isKey, late⟩ | ⟨fingerprint, known, found⟩
  · exact Or.inl past
  · obtain ⟨last, among, sameTime⟩ := atEntry.last key isKey
    exact Or.inr (Or.inl ⟨last, among, sameTime ▸ late⟩)
  · obtain ⟨origin, among, isOrigin⟩ := atEntry.known fingerprint known
    have originAnswered := atEntry.answered origin among
    refine Or.inr (Or.inr ⟨origin, among, ?_⟩)
    exact (Entry.fingerprint_eq_iff (textual origin originAnswered) (textual entry entryAnswered)
      (noCollision origin entry originAnswered entryAnswered) isOrigin).mp found

/-- Where digests do not collide, two entries share a fingerprint exactly if they look alike, and
where their labels are clear, exactly if they are for one line of one stream.  An iterator refuses
an entry of its scope only if it comes late or looks like one that was accepted. -/
theorem fingerprints_tell_lines_apart [WaitTime δ] :
    (∀ left right : Entry, left.labels.Textual → right.labels.Textual → left.NoCollision right →
        ∀ fingerprint, left.fingerprint = .ok fingerprint →
          (right.fingerprint = .ok fingerprint ↔ left.LooksLike right))
      ∧ (∀ left right : Entry, left.labels.Clear → right.labels.Clear →
        (left.LooksLike right ↔ left.SameLine right))
      ∧ ∀ env : Surroundings ω δ, (∀ entry, env.Answers entry → entry.labels.Textual) →
        (∀ left right, env.Answers left → env.Answers right → left.NoCollision right) →
        ∀ scope policy iterator, Iterator.start scope policy = .ok iterator →
        ∀ world stage run, Path env (.resting, Run.start iterator world) (stage, run) →
        ∀ stop earlier entry, Refuses env stop run earlier entry →
          (∃ last ∈ stop, last ≤ entry.timestamp)
            ∨ (∃ before ∈ earlier, entry.timestamp < before.timestamp)
            ∨ ∃ before ∈ earlier, before.LooksLike entry := by
  refine ⟨?_, ?_, ?_⟩
  · intro left right textual textualRight noCollision fingerprint found
    exact Entry.fingerprint_eq_iff textual textualRight noCollision found
  · intro left right clear clearRight
    exact Entry.looksLike_iff_sameLine clear clearRight
  · intro env textual noCollision scope policy iterator started world stage run path stop earlier
      entry refuses
    have grounded : Grounded env (acceptedEntries run.events) run.iterator := by
      refine path.invariant (fun _ run => Grounded env (acceptedEntries run.events) run.iterator)
        Grounded.move ?_
      obtain ⟨cursor, -, rfl⟩ := eq_of_start started
      exact ⟨by simp [Run.start], by simp [Run.start], by simp [Run.start]⟩
    exact earlier_of_refuses textual noCollision grounded refuses

/-- Surroundings that answer every query with the same last page. -/
def onePage (entries : List Entry) : Surroundings Unit Float where
  clock world := (0, world)
  query _ world := ((.ok ⟨entries, none⟩, false), world)
  wait _ _ world := (.ok true, world)

/-- The entry for a line of five nanoseconds. -/
def lineOf (labels : List (Text × Text)) : Entry :=
  ⟨5, 0, Text.utf8 "x", Labels.ofTexts labels⟩

theorem answers_onePage {entries : List Entry} {entry : Entry} :
    (onePage entries).Answers entry ↔ entry ∈ entries := by
  constructor
  · rintro ⟨window, world, batch, closes, later, answer, present⟩
    cases answer
    exact present
  · intro present
    exact ⟨⟨0, 0⟩, (), ⟨entries, none⟩, false, (), rfl, present⟩

theorem sorted_map_lineOf (labels : List (List (Text × Text))) :
    Entry.sorted (labels.map lineOf) = labels.map lineOf := by
  apply List.mergeSort_of_pairwise
  rw [List.pairwise_map]
  apply List.pairwise_of_forall
  intro left right
  rfl

/-- Where the first two entries of the page share a fingerprint, the second one is refused. -/
theorem refuses_second {first second : List (Text × Text)} (rest : List (List (Text × Text)))
    {fingerprint : Fingerprint} (found : (lineOf first).fingerprint = .ok fingerprint)
    (foundSecond : (lineOf second).fingerprint = .ok fingerprint) {scope : Scope}
    {policy : TailPolicy Float} {iterator : Iterator Float}
    (started : Iterator.start scope policy = .ok iterator) :
    Refuses (onePage ((first :: second :: rest).map lineOf)) none (Run.start iterator ())
      [lineOf first] (lineOf second) := by
  have fresh : iterator.accept none (lineOf first)
      = .ok (iterator.push (lineOf first) fingerprint, true) := by
    obtain ⟨cursor, -, rfl⟩ := eq_of_start started
    simp [accept, found, isLate]
  have known : (iterator.push (lineOf first) fingerprint).accept none (lineOf second)
      = .ok (iterator.push (lineOf first) fingerprint, false) := by
    simp [accept, foundSecond, push]
  refine ⟨0, _, (), [lineOf first], rest.map lineOf, iterator.push (lineOf first) fingerprint,
    [lineOf first], rfl, sorted_map_lineOf _, ?_, rfl, known⟩
  simp only [acceptAll, Run.start, fresh, if_true]

/-- The second entry of the line is refused, and that of the other stream has its own
fingerprint. -/
theorem oneLine_told_apart :
    let line := lineOf [("a", "1")]
    let other := lineOf [("a", "1"), ("b", "2")]
    ∃ iterator, Iterator.start (Scope.firstMicrosecond true) TailPolicy.standard = .ok iterator
      ∧ Refuses (onePage [line, line, other]) none (Run.start iterator ()) [line] line
      ∧ (∃ before ∈ [line], before.LooksLike line)
      ∧ ∃ fingerprint, line.fingerprint = .ok fingerprint
        ∧ other.fingerprint ≠ .ok fingerprint := by
  intro line other
  have clear : line.labels.Clear := ⟨[("a", "1")], rfl, by decide, by decide⟩
  have clearOther : other.labels.Clear := ⟨[("a", "1"), ("b", "2")], rfl, by decide, by decide⟩
  have cases_answers (entry : Entry) (answers : (onePage [line, line, other]).Answers entry) :
      entry = line ∨ entry = other := by
    simpa using answers_onePage.mp answers
  have textual : ∀ entry, (onePage [line, line, other]).Answers entry → entry.labels.Textual := by
    intro entry answers
    obtain rfl | rfl := cases_answers entry answers
    · exact clear.textual
    · exact clearOther.textual
  have differ : Sha1.digest line.labels.text.utf8 ≠ Sha1.digest other.labels.text.utf8 := by
    have text : line.labels.text = "a=1" := Labels.text_of_ordered (by decide)
    have otherText : other.labels.text = "a=1,b=2" := Labels.text_of_ordered (by decide)
    rw [text, otherText]
    decide +kernel
  have noCollision : ∀ left right, (onePage [line, line, other]).Answers left →
      (onePage [line, line, other]).Answers right → left.NoCollision right := by
    intro left right answers answersRight
    obtain rfl | rfl := cases_answers left answers <;>
      obtain rfl | rfl := cases_answers right answersRight
    · exact ⟨fun _ => rfl, fun _ => rfl⟩
    · exact ⟨fun _ => rfl, fun same => absurd same differ⟩
    · exact ⟨fun _ => rfl, fun same => absurd same.symm differ⟩
    · exact ⟨fun _ => rfl, fun _ => rfl⟩
  obtain ⟨tellsApart, tellsStreams, refusesKnown⟩ := @fingerprints_tell_lines_apart Unit Float _
  have found : line.fingerprint = .ok _ :=
    (Entry.fingerprint_eq_ok_iff clear.textual).mpr ⟨by decide +kernel, rfl⟩
  have started : Iterator.start (Scope.firstMicrosecond true) TailPolicy.standard = .ok _ := rfl
  have refused := refuses_second [[("a", "1"), ("b", "2")]] found found started
  refine ⟨_, started, refused, ?_, _, found, ?_⟩
  · rcases refusesKnown _ textual noCollision _ _ _ started () _ _ Relation.ReflTransGen.refl none
      [line] line refused with ⟨last, none, -⟩ | ⟨before, among, late⟩ | known
    · cases none
    · cases List.mem_singleton.mp among
      exact absurd late (by decide)
    · exact known
  · intro foundOther
    have collides := noCollision line other (answers_onePage.mpr (by simp))
      (answers_onePage.mpr (by simp))
    have alike := (tellsApart line other clear.textual clearOther.textual collides _ found).mp
      foundOther
    have same := (tellsStreams line other clear clearOther).mp alike
    exact absurd same.labels.length_eq (by decide)

/-- A stream whose one value looks like two labels, and the stream with these labels, share their
fingerprints, and of one line in both the second one is refused. -/
theorem lookalike_labels_lose_line :
    let first := lineOf [("a", "1,b=2")]
    let second := lineOf [("a", "1"), ("b", "2")]
    first.labels.Textual ∧ second.labels.Textual ∧ first.NoCollision second
      ∧ ¬first.SameLine second
      ∧ (∃ fingerprint, first.fingerprint = .ok fingerprint ∧ second.fingerprint = .ok fingerprint)
      ∧ ∃ iterator, Iterator.start (Scope.firstMicrosecond true) TailPolicy.standard = .ok iterator
        ∧ Refuses (onePage [first, second]) none (Run.start iterator ()) [first] second := by
  intro first second
  have textual : first.labels.Textual := ⟨[("a", "1,b=2")], rfl, by decide⟩
  have textualSecond : second.labels.Textual := ⟨[("a", "1"), ("b", "2")], rfl, by decide⟩
  have text : first.labels.text = "a=1,b=2" := Labels.text_of_ordered (by decide)
  have textSecond : second.labels.text = "a=1,b=2" := Labels.text_of_ordered (by decide)
  have sameText : first.labels.text = second.labels.text := text.trans textSecond.symm
  have plain : first.labels.text.hasSurrogate = false := by
    rw [text]
    decide
  have noCollision : first.NoCollision second :=
    ⟨fun _ => rfl, fun _ => congrArg Text.utf8 sameText⟩
  have found := (Entry.fingerprint_eq_ok_iff textual).mpr ⟨plain, rfl⟩
  have foundSecond := (Entry.fingerprint_eq_iff textual textualSecond noCollision found).mpr
    ⟨rfl, rfl, rfl, sameText⟩
  have started : Iterator.start (Scope.firstMicrosecond true) TailPolicy.standard = .ok _ := rfl
  refine ⟨textual, textualSecond, noCollision, fun same => ?_, ⟨_, found, foundSecond⟩, _, started,
    refuses_second [] found foundSecond started⟩
  exact absurd same.labels.length_eq (by decide)

end Iterator
end RunLog
