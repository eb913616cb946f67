import RunLog.Proofs.Pieces

/-!
# Locating the bytes of a log

A viewer that has read some bytes of a log asks the offset map which line a byte belongs to and
where a line begins.  At every moment, whatever was read and whether or not it succeeded, the map
knows the lines that were taken from the iterator, no more and no less: each of them is found at its
place in the log, and each byte of the log belongs to the line that is found for it.

A line is entered into the map when it is taken, not when its bytes are handed out, so the map
covers the bytes that are pending as well.
-/

namespace RunLog
namespace ByteStream

open Iterator

variable {ω δ : Type} [WaitTime δ] (env : Surroundings ω δ) (fuel : Nat) {extractor : Extractor}
  {run : Run ω δ} {gone : Bytes} {stream : ByteStream δ}

/-- What was handed out stays handed out. -/
theorem delivered_prefix_pulls (count : Nat) (run : Run ω δ) :
    run.delivered <+: (run.pulls env fuel count).delivered := by
  induction count with
  | zero => exact List.prefix_rfl
  | succ count inductionHypothesis =>
    rw [Run.pulls_add, Run.pulls_one]
    exact inductionHypothesis.trans (List.prefix_append _ _)

/-- The answer to a demand leads to a later run. -/
theorem reading_answer (demand : Demand) (follows : Follows extractor run gone stream)
    (begun : gone = [] → stream.pending = []) :
    ∃ count goneLater,
      Reading env fuel extractor run gone (answer env fuel demand stream run.world) count
        goneLater := by
  cases demand with
  | upTo wanted =>
    obtain ⟨count, goneLater, reading, -⟩ := reading_read env fuel wanted follows begun
    exact ⟨count, goneLater, reading⟩
  | all =>
    obtain ⟨count, goneLater, reading, -⟩ := reading_readChunks env fuel fuel follows begun
    exact ⟨count, goneLater, reading⟩

/-- The bytes of a piece stand in the log at the place where the piece was asked for. -/
def Piece.InPlace (log : Bytes) (piece : Piece) : Prop :=
  ∀ bytes, piece.outcome = .ok bytes →
    ∃ place : Nat, piece.position = place ∧ bytes <+: log.drop place

/-- The answers to some demands lead to a later run, and what they hand out is in its place. -/
theorem follows_answers (demands : List Demand) (follows : Follows extractor run gone stream)
    (begun : gone = [] → stream.pending = []) :
    ∃ count goneLater,
      (answers env fuel demands stream run.world).world = (run.pulls env fuel count).world
        ∧ Follows extractor (run.pulls env fuel count) goneLater
          (answers env fuel demands stream run.world).stream
        ∧ ∀ piece ∈ (answers env fuel demands stream run.world).pieces,
          piece.InPlace (extractor.log (run.pulls env fuel count).delivered) := by
  induction demands generalizing run stream gone with
  | nil => exact ⟨0, gone, rfl, follows, by simp [answers]⟩
  | cons demand rest inductionHypothesis =>
    obtain ⟨count, goneNext, reading⟩ := reading_answer env fuel demand follows begun
    obtain ⟨more, goneLater, world_eq, followsOn, inPlace⟩ :=
      inductionHypothesis reading.follows reading.begun
    rw [← reading.world_eq] at world_eq followsOn inPlace
    simp only [answers]
    refine ⟨count + more, goneLater, ?_⟩
    rw [Run.pulls_add, List.forall_mem_cons]
    refine ⟨world_eq, followsOn, fun bytes isBytes => ⟨gone.length, follows.bytesRead_eq, ?_⟩,
      inPlace⟩
    obtain rfl := reading.returned bytes isBytes
    obtain ⟨rest, whole⟩ : gone ++ bytes
        <+: extractor.log ((run.pulls env fuel count).pulls env fuel more).delivered := by
      refine List.IsPrefix.trans ?_ (Extractor.log_prefix (delivered_prefix_pulls env fuel more _))
      rw [reading.follows.log_eq]
      exact List.prefix_append _ _
    rw [← whole, List.append_assoc, List.drop_left]
    exact List.prefix_append _ _

/-! ## Rendered lines -/

omit [WaitTime δ] in
/-- Lines that can be rendered are their renderings with an end. -/
theorem exists_renderings {entries : List Entry}
    (renders : ∀ entry ∈ entries, ∃ rendered, extractor.render entry = .ok rendered) :
    ∃ texts : List Bytes, entries.map extractor.render = texts.map .ok
      ∧ extractor.lines entries = texts.map (· ++ [lineEnd]) := by
  induction entries with
  | nil => exact ⟨[], rfl, rfl⟩
  | cons entry rest inductionHypothesis =>
    rw [List.forall_mem_cons] at renders
    obtain ⟨⟨text, rendering⟩, rendersRest⟩ := renders
    obtain ⟨texts, rendered, lines_eq⟩ := inductionHypothesis rendersRest
    refine ⟨text :: texts, by simp [rendering, rendered], ?_⟩
    rw [List.map_cons, ← lines_eq]
    simp [Extractor.lines, Extractor.lineBytes, rendering]

/-- The bytes of some texts, each with its end. -/
def written (texts : List Bytes) : Bytes :=
  (texts.map (· ++ [lineEnd])).flatten

/-- A text that is found at its place in the log, and whose end is where the next one is found. -/
structure Located (map : OffsetMap) (texts : List Bytes) (number : Nat) (text : Bytes)
    (first : Nat) : Prop where
  /-- It is the text with this number. -/
  isText : texts[number]? = some text
  /-- It is found at its start. -/
  found : map.offsetOf? number = some (first : Int)
  /-- The bytes from there on are the text and its end. -/
  begins : text ++ [lineEnd] <+: (written texts).drop first
  /-- They end where the next text is found, or with the log. -/
  ends : (if number + 1 < texts.length then map.offsetOf? ((number + 1 : Nat) : Int)
    else some ((written texts).length : Int))
      = some ((first + (text ++ [lineEnd]).length : Nat) : Int)

/-- The bytes of the text with a number cover a place. -/
def Covers (map : OffsetMap) (texts : List Bytes) (number place : Nat) : Prop :=
  ∃ text first, Located map texts number text first
    ∧ first ≤ place ∧ place < first + (text ++ [lineEnd]).length

section OfLines

variable {texts : List Bytes} {number place : Nat} {text : Bytes} {first : Nat}

/-- The map of some texts. -/
abbrev mapOf (texts : List Bytes) : OffsetMap :=
  OffsetMap.ofLines (texts.map (· ++ [lineEnd]))

/-- Where a text starts. -/
abbrev startIn (texts : List Bytes) (number : Nat) : Nat :=
  OffsetMap.startOf (texts.map (· ++ [lineEnd])) number

theorem startIn_succ (isText : texts[number]? = some text) :
    startIn texts (number + 1) = startIn texts number + (text ++ [lineEnd]).length := by
  obtain ⟨within, rfl⟩ := List.getElem?_eq_some_iff.mp isText
  rw [startIn, OffsetMap.startOf_succ (by simpa using within), List.getElem_map]

/-- Every text is found at its place. -/
theorem located_startIn (isText : texts[number]? = some text) :
    Located (mapOf texts) texts number text (startIn texts number) := by
  obtain ⟨within, isText'⟩ := List.getElem?_eq_some_iff.mp isText
  have withinLines : number < (texts.map (· ++ [lineEnd])).length := by simpa using within
  refine ⟨isText, OffsetMap.offsetOf?_ofLines withinLines, ?_, ?_⟩
  · have begins := OffsetMap.take_drop_startOf withinLines
    rw [List.getElem_map, isText'] at begins
    rw [← begins, written]
    exact List.take_prefix _ _
  · rw [← startIn_succ isText]
    split
    · rename_i more
      exact OffsetMap.offsetOf?_ofLines (by simpa using more)
    · rename_i isLast
      have count : number + 1 = (texts.map (· ++ [lineEnd])).length := by
        rw [List.length_map]
        omega
      rw [startIn, count, OffsetMap.startOf_length]
      rfl

/-- A text is found at one place only. -/
theorem Located.first_eq (located : Located (mapOf texts) texts number text first) :
    first = startIn texts number := by
  have found := located.found.symm.trans (located_startIn located.isText).found
  exact Int.ofNat_inj.mp (Option.some.inj found)

/-- Every byte of the log belongs to the text that is found for it, and to no other. -/
theorem covers_lineAt? (inside : place < (written texts).length) :
    ∃ number : Nat, (mapOf texts).lineAt? place = some (number : Int)
      ∧ Covers (mapOf texts) texts number place
      ∧ ∀ other, Covers (mapOf texts) texts other place → other = number := by
  obtain ⟨number, within, started, notEnded⟩ := OffsetMap.exists_line inside
  obtain ⟨text, isText⟩ : ∃ text, texts[number]? = some text :=
    ⟨_, List.getElem?_eq_getElem (by simpa using within)⟩
  refine ⟨number, OffsetMap.lineAt?_ofLines within started notEnded,
    ⟨text, startIn texts number, located_startIn isText, started, ?_⟩, ?_⟩
  · rwa [← startIn_succ isText]
  · rintro other ⟨otherText, first, located, otherStarted, otherNotEnded⟩
    obtain rfl := located.first_eq
    rw [← startIn_succ located.isText] at otherNotEnded
    exact OffsetMap.eq_of_started otherStarted otherNotEnded started notEnded

end OfLines

/-- At every moment the map locates the lines that were taken, no more and no less: it takes in the
next one, it has one entry for each of them, each of them is found at its place among the bytes of
the log, and each byte belongs to the line that is found for it. -/
theorem map_locates_bytes (iterator : Iterator δ) (world : ω)
    (extractor : Extractor) (demands : List Demand)
    (renders : ∀ count, ∀ entry ∈ ((Run.start iterator world).pulls env fuel count).delivered,
      ∃ rendered, extractor.render entry = .ok rendered) :
    let made := answers env fuel demands (ByteStream.start iterator extractor) world
    let map := made.stream.map
    ∃ (count : Nat) (texts : List Bytes),
      let run := (Run.start iterator world).pulls env fuel count
      made.stream.iterator = run.iterator ∧ made.world = run.world
        ∧ run.delivered.map extractor.render = texts.map .ok
        ∧ (∀ piece ∈ made.pieces, piece.InPlace (written texts))
        ∧ (∃ read : Nat, made.stream.bytesRead = read ∧ read ≤ (written texts).length
          ∧ made.stream.pending = (written texts).drop read)
        ∧ made.stream.offset = (written texts).length
        ∧ (∃ next, map.put ⟨made.stream.offset, made.stream.lines⟩ = .ok next)
        ∧ map.length = texts.length ∧ made.stream.lines = map.length
        ∧ (∀ number text, texts[number]? = some text →
          ∃ first, Located map texts number text first)
        ∧ ∀ place < (written texts).length, ∃ number : Nat, map.lineAt? place = some (number : Int)
          ∧ Covers map texts number place
          ∧ ∀ other, Covers map texts other place → other = number := by
  intro made map
  have atFirst : Follows extractor (Run.start iterator world) []
      (ByteStream.start iterator extractor) :=
    follows_start iterator world
  obtain ⟨count, gone, world_eq, follows, inPlace⟩ :=
    follows_answers env fuel demands atFirst fun _ => rfl
  obtain ⟨texts, rendered, lines_eq⟩ := exists_renderings (renders count)
  have log_eq : written texts
      = extractor.log ((Run.start iterator world).pulls env fuel count).delivered := by
    rw [written, ← lines_eq, Extractor.flatten_lines]
  have map_eq : map = mapOf texts := by
    rw [mapOf, ← lines_eq]
    exact follows.map_eq
  have lines : made.stream.lines = texts.length := by
    rw [← List.length_map (· ++ [lineEnd]), ← lines_eq]
    exact follows.lines_eq
  refine ⟨count, texts, follows.iterator_eq, world_eq, rendered, ?_, ⟨gone.length,
    follows.bytesRead_eq, ?_, ?_⟩, ?_, ⟨_, follows.put_eq []⟩, ?_, ?_, ?_, ?_⟩
  · rwa [log_eq]
  · rw [log_eq, follows.log_eq, List.length_append]
    exact Nat.le_add_right _ _
  · rw [log_eq, follows.log_eq, List.drop_left]
    rfl
  · rw [log_eq]
    exact follows.offset_eq
  · rw [map_eq, OffsetMap.length_ofLines, List.length_map]
  · rw [map_eq, OffsetMap.length_ofLines, List.length_map, lines]
  · intro number text isText
    rw [map_eq]
    exact ⟨_, located_startIn isText⟩
  · intro place inside
    rw [map_eq]
    exact covers_lineAt? inside

/-- After a byte of the first line its whole place is known, and after four bytes that of the empty
line as well. -/
theorem map_locates_bytes_of_twoPages :
    ∃ iterator, Iterator.start (Scope.firstMicrosecond true) TailPolicy.standard = .ok iterator ∧
      let made := answers Script.surroundings 4 [.upTo 1, .upTo 3]
        (ByteStream.start iterator .plain) twoPages
      made.stream.map.toList = [⟨0, 0⟩, ⟨3, 1⟩]
        ∧ ∃ texts : List Bytes, made.stream.lines = texts.length
          ∧ ∀ place < (written texts).length, ∃ number : Nat,
            made.stream.map.lineAt? place = some (number : Int)
              ∧ Covers made.stream.map texts number place
              ∧ ∀ other, Covers made.stream.map texts other place → other = number := by
  refine ⟨_, rfl, ?_⟩
  intro made
  obtain ⟨_, texts, -, -, -, -, -, -, -, length_eq, lines_eq, -, covered⟩ :=
    map_locates_bytes Script.surroundings 4 _ twoPages .plain [.upTo 1, .upTo 3]
      fun _ entry _ => ⟨entry.line, rfl⟩
  exact ⟨by decide +kernel, texts, lines_eq.trans length_eq, covered⟩

end ByteStream
end RunLog
