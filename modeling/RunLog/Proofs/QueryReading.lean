import Mathlib.Data.List.Basic
import Mathlib.Data.List.TakeDrop
import Mathlib.Data.List.TakeWhile
import RunLog.LabelQuery
import RunLog.Proofs.Decimals
import RunLog.Proofs.Texts

/-!
# Reading queries

The text of a query is read back as the backend reads it.  Between double quotes a backslash makes
the next code point literal, and the first quote that is not literal ends the value.  What a value
holds never ends it, so a query is read as the matchers that it was written for, and as nothing
else.
-/

namespace RunLog
namespace LabelQuery

/-! ## The reader -/

/-- The value that ends at the first quote that is not literal, and what stands after the quote. -/
def readValue? (literal : Bool) : Text → Option (Text × Text)
  | [] => none
  | point :: rest =>
    if !literal && point.is '"' then some ([], rest)
    else if !literal && point.is '\\' then readValue? true rest
    else (readValue? false rest).map fun (value, after) => (point :: value, after)

/-- Whether a code point can stand in the name of a label. -/
def isLabelPoint (point : CodePoint) : Bool :=
  point.isAsciiLetter || point.isAsciiDigit || point.is '_'

/-- The matcher that a text starts with, and what stands after it. -/
def readMatcher? (text : Text) : Option (Matcher × Text) :=
  match text.span isLabelPoint with
  | ([], _) => none
  | (label, rest) => do
    let rest ← List.isPrefixOf? "=\"" rest
    let (value, after) ← readValue? false rest
    some (⟨label, value⟩, after)

theorem length_lt_of_readValue? {literal : Bool} {text value after : Text}
    (read : readValue? literal text = some (value, after)) : after.length < text.length := by
  induction text generalizing literal value with
  | nil => simp [readValue?] at read
  | cons point rest inductionHypothesis =>
    rw [readValue?] at read
    rw [List.length_cons]
    split at read
    · cases read
      exact Nat.lt_succ_self _
    · split at read
      · exact Nat.lt_succ_of_lt (inductionHypothesis read)
      · obtain ⟨⟨value, after⟩, onward, same⟩ := Option.map_eq_some_iff.mp read
        cases same
        exact Nat.lt_succ_of_lt (inductionHypothesis onward)

theorem length_lt_of_readMatcher? {text after : Text} {matcher : Matcher}
    (read : readMatcher? text = some (matcher, after)) : after.length < text.length := by
  rw [readMatcher?, List.span_eq_takeWhile_dropWhile] at read
  split at read
  · cases read
  · rename_i label rest _ run
    obtain ⟨-, rfl⟩ := Prod.mk.inj run
    obtain ⟨opened, opens, read⟩ := Option.bind_eq_some_iff.mp read
    obtain ⟨⟨value, closed⟩, readsValue, same⟩ := Option.bind_eq_some_iff.mp read
    cases same
    have ofValue := length_lt_of_readValue? readsValue
    have split := congrArg List.length (List.isPrefixOf?_eq_some_iff_append_eq.mp opens)
    have ofLabel := (List.dropWhile_suffix (l := text) isLabelPoint).length_le
    rw [List.length_append] at split
    omega

/-- The matcher that a text starts with after a mark, and what stands after it. -/
def readMarked? (mark text : Text) : Option (Matcher × Text) :=
  (List.isPrefixOf? mark text).bind readMatcher?

theorem length_lt_of_readMarked? {mark text after : Text} {matcher : Matcher}
    (read : readMarked? mark text = some (matcher, after)) : after.length < text.length := by
  obtain ⟨marked, starts, read⟩ := Option.bind_eq_some_iff.mp read
  have ofMatcher := length_lt_of_readMatcher? read
  have split := congrArg List.length (List.isPrefixOf?_eq_some_iff_append_eq.mp starts)
  rw [List.length_append] at split
  omega

/-- The matchers that a text starts with, each of them after a mark, and what stands after them. -/
def readMatchers (mark text : Text) : List Matcher × Text :=
  match _ : readMarked? mark text with
  | none => ([], text)
  | some (matcher, rest) =>
    let (matchers, after) := readMatchers mark rest
    (matcher :: matchers, after)
termination_by text.length
decreasing_by exact length_lt_of_readMarked? ‹_›

theorem readMatchers_of_none {mark text : Text} (read : readMarked? mark text = none) :
    readMatchers mark text = ([], text) := by
  rw [readMatchers]
  split
  · rfl
  · rename_i started
    rw [read] at started
    cases started

theorem readMatchers_of_some {mark text rest : Text} {matcher : Matcher}
    (read : readMarked? mark text = some (matcher, rest)) :
    readMatchers mark text = (readMatchers mark rest).map (matcher :: ·) id := by
  rw [readMatchers]
  split
  · rename_i ended
    rw [read] at ended
    cases ended
  · rename_i started
    rw [read] at started
    cases started
    rfl

/-- The selector and the filters of a query; nothing may be left of its text. -/
def read? (text : Text) : Option (List Matcher × List Matcher) := do
  let text ← List.isPrefixOf? "\x7b" text
  let (first, text) ← readMatcher? text
  let (others, text) := readMatchers ", " text
  let text ← List.isPrefixOf? "\x7d" text
  match readMatchers " | " text with
  | (filters, []) => some (first :: others, filters)
  | (_, _ :: _) => none

/-! ## What is written is read -/

theorem isPrefixOf?_append (mark rest : Text) : List.isPrefixOf? mark (mark ++ rest) = some rest :=
  List.isPrefixOf?_eq_some_iff_append_eq.mpr rfl

/-- Whatever its code points are, a value is read up to the quote that closes it. -/
theorem readValue?_escape (value rest : Text) :
    readValue? false (escape value ++ CodePoint.ofChar '"' :: rest) = some (value, rest) := by
  have notQuote : (CodePoint.ofChar '\\').is '"' = false := by decide
  have isBackslash : (CodePoint.ofChar '\\').is '\\' = true := by decide
  induction value with
  | nil => rfl
  | cons point value inductionHypothesis =>
    rw [escape_cons, List.append_assoc, escapedPoint]
    split
    · simp [readValue?, notQuote, isBackslash, inductionHypothesis]
    · rename_i plain
      obtain ⟨notBackslash, notQuote⟩ := Bool.or_eq_false_iff.mp (Bool.eq_false_iff.mpr plain)
      simp [readValue?, notBackslash, notQuote, inductionHypothesis]

/-- Whether a text can be the name of a label. -/
def isLabel (label : Text) : Bool :=
  !label.isEmpty && label.all isLabelPoint

theorem readMatcher?_text {matcher : Matcher} (named : isLabel matcher.label = true) (rest : Text) :
    readMatcher? (matcher.text ++ rest) = some (matcher, rest) := by
  obtain ⟨nonempty, points⟩ := Bool.and_eq_true_iff.mp named
  rw [List.all_eq_true] at points
  let closing : Text := escape matcher.value ++ CodePoint.ofChar '"' :: rest
  have whole : matcher.text ++ rest = matcher.label ++ (("=\"" : Text) ++ closing) := by
    simp only [Matcher.text, List.append_assoc]
    rfl
  have run : (matcher.text ++ rest).span isLabelPoint
      = (matcher.label, ("=\"" : Text) ++ closing) := by
    have ends : isLabelPoint (CodePoint.ofChar '=') = false := by decide
    rw [whole, List.span_eq_takeWhile_dropWhile, List.takeWhile_append_of_pos points,
      List.dropWhile_append_of_pos points]
    simp [Text.ofString, ends]
  rw [readMatcher?, run]
  split
  · rename_i emptyLabel
    rw [(Prod.mk.inj emptyLabel).1] at nonempty
    cases nonempty
  · rename_i split
    obtain ⟨rfl, rfl⟩ := Prod.mk.inj split
    simp [isPrefixOf?_append, closing, readValue?_escape]

/-- The text of some matchers, each of them after a mark. -/
def marked (mark : Text) (matchers : List Matcher) : Text :=
  matchers.flatMap fun matcher => mark ++ matcher.text

@[simp] theorem marked_nil (mark : Text) : marked mark [] = [] := rfl

@[simp] theorem marked_cons (mark : Text) (matcher : Matcher) (matchers : List Matcher) :
    marked mark (matcher :: matchers) = mark ++ matcher.text ++ marked mark matchers := rfl

theorem readMarked?_text {matcher : Matcher} (named : isLabel matcher.label = true)
    (mark rest : Text) :
    readMarked? mark (mark ++ matcher.text ++ rest) = some (matcher, rest) := by
  rw [readMarked?, List.append_assoc, isPrefixOf?_append]
  exact readMatcher?_text named rest

/-- All matchers after marks are read, up to where no other mark stands. -/
theorem readMatchers_marked {mark rest : Text} {matchers : List Matcher}
    (named : ∀ matcher ∈ matchers, isLabel matcher.label = true)
    (ends : List.isPrefixOf? mark rest = none) :
    readMatchers mark (marked mark matchers ++ rest) = (matchers, rest) := by
  induction matchers with
  | nil =>
    apply readMatchers_of_none
    rw [readMarked?, marked_nil, List.nil_append, ends]
    rfl
  | cons matcher matchers inductionHypothesis =>
    have onward := inductionHypothesis fun other present =>
      named other (List.mem_cons_of_mem _ present)
    have first := readMarked?_text (named matcher List.mem_cons_self) mark
      (marked mark matchers ++ rest)
    rw [marked_cons, List.append_assoc _ _ rest, readMatchers_of_some first, onward]
    rfl

theorem render_cons (first : Matcher) (others filters : List Matcher) :
    render (first :: others) filters
      = ("\x7b" : Text) ++ (first.text ++ (marked ", " others
        ++ (("\x7d" : Text) ++ (marked " | " filters ++ [])))) := by
  simp only [render, marked, List.map_cons, Text.join_cons, List.flatMap_map, List.append_assoc,
    List.append_nil]

/-- A query is read as the matchers that it was written for. -/
theorem read?_render {first : Matcher} {others filters : List Matcher}
    (namedSelector : ∀ matcher ∈ first :: others, isLabel matcher.label = true)
    (namedFilters : ∀ matcher ∈ filters, isLabel matcher.label = true) :
    read? (render (first :: others) filters) = some (first :: others, filters) := by
  have readsFirst := readMatcher?_text (namedSelector first List.mem_cons_self)
  have readsOthers (rest : Text) :
      readMatchers ", " (marked ", " others ++ (("\x7d" : Text) ++ rest))
        = (others, ("\x7d" : Text) ++ rest) :=
    readMatchers_marked (fun matcher present =>
      namedSelector matcher (List.mem_cons_of_mem _ present)) rfl
  have readsFilters : readMatchers " | " (marked " | " filters ++ []) = (filters, []) :=
    readMatchers_marked namedFilters rfl
  simp only [render_cons, read?, isPrefixOf?_append, readsFirst, readsOthers, readsFilters,
    Option.bind_eq_bind, Option.bind_some]

/-! ## The query of a scope -/

section
variable (service : Service) (scope : Scope)

/-- The namespace that a query asks for; an empty one is not asked for. -/
def askedSpace : Option Text :=
  service.space.filter fun space => !space.isEmpty

theorem selector_eq : selector service
    = ⟨"service_name", service.name⟩ ::
        ((askedSpace service).map fun space => ⟨"service_namespace", space⟩).toList := by
  rw [selector, askedSpace]
  cases service.space with
  | none => rfl
  | some space => cases space <;> rfl

theorem isLabel_selector : ∀ matcher ∈ selector service, isLabel matcher.label = true := by
  intro matcher present
  rw [selector_eq, List.mem_cons, Option.mem_toList, Option.map_eq_some_iff] at present
  obtain rfl | ⟨space, -, rfl⟩ := present
  · exact (by decide : isLabel "service_name" = true)
  · exact (by decide : isLabel "service_namespace" = true)

theorem isLabel_filters : ∀ matcher ∈ filters scope, isLabel matcher.label = true := by
  intro matcher present
  rw [filters, List.mem_append, Option.mem_toList, Option.map_eq_some_iff] at present
  simp only [List.mem_cons, List.not_mem_nil, or_false] at present
  obtain (rfl | rfl | rfl) | ⟨step, -, rfl⟩ := present
  · exact (by decide : isLabel "ci_pipeline_id" = true)
  · exact (by decide : isLabel "ci_pipeline_run_number" = true)
  · exact (by decide : isLabel "trace_id" = true)
  · exact (by decide : isLabel "jenkins_step_id" = true)

theorem read?_text_eq : read? (text service scope) = some (selector service, filters scope) := by
  have namedSelector := isLabel_selector service
  rw [selector_eq] at namedSelector
  rw [text, selector_eq]
  exact read?_render namedSelector (isLabel_filters scope)

theorem eq_of_toList_matcher {label : Text} {left right : Option Text}
    (same : (left.map fun value => Matcher.mk label value).toList
      = (right.map fun value => Matcher.mk label value).toList) : left = right := by
  cases left <;> cases right <;> simp_all

/-- Every query is read back as what it asks for, with every value as it is, so queries for
different things have different texts. -/
theorem text_unambiguous :
    read? (text service scope)
        = some (⟨"service_name", service.name⟩ ::
              ((askedSpace service).map fun space => ⟨"service_namespace", space⟩).toList,
            [⟨"ci_pipeline_id", scope.pipeline⟩,
              ⟨"ci_pipeline_run_number", Text.ofInt scope.run⟩, ⟨"trace_id", scope.trace⟩]
              ++ (scope.step.map fun step => ⟨"jenkins_step_id", step⟩).toList)
      ∧ ∀ (otherService : Service) (otherScope : Scope),
          text otherService otherScope = text service scope ↔
            otherService.name = service.name ∧ askedSpace otherService = askedSpace service
              ∧ otherScope.pipeline = scope.pipeline ∧ otherScope.run = scope.run
              ∧ otherScope.trace = scope.trace ∧ otherScope.step = scope.step := by
  refine ⟨?_, fun otherService otherScope => ?_⟩
  · rw [read?_text_eq, selector_eq]
    rfl
  · constructor
    · intro same
      have read := congrArg read? same
      simp only [read?_text_eq, selector_eq, filters, Option.some.injEq, Prod.mk.injEq,
        List.cons_append, List.nil_append, List.cons.injEq, Matcher.mk.injEq, true_and] at read
      obtain ⟨⟨name, space⟩, pipeline, run, trace, step⟩ := read
      exact ⟨name, eq_of_toList_matcher space, pipeline,
        Function.LeftInverse.injective Numeral.ofText_ofInt run, trace, eq_of_toList_matcher step⟩
    · rintro ⟨name, space, pipeline, run, trace, step⟩
      rw [text, text, selector_eq, selector_eq, filters, filters, name, space, pipeline, run, trace,
        step]

end

end LabelQuery
end RunLog
