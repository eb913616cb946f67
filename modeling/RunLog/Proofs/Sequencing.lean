import Mathlib.Data.List.Forall2

/-!
# Computations in a row

A computation that can fail is made of smaller ones, one after the other.  It succeeds when all of
them do and otherwise fails as the first one that fails, and nothing after that one matters.
-/

namespace RunLog

/-! ## One after another -/

/-- Two computations in a row succeed when both of them do. -/
theorem bind_eq_ok {ε α β : Type} {first : Except ε α} {next : α → Except ε β}
    {result : β} :
    (first >>= next) = .ok result ↔ ∃ value, first = .ok value ∧ next value = .ok result := by
  cases first <;> simp [bind, Except.bind]

/-- A computation that is followed by a function succeeds when it does. -/
theorem map_eq_ok {ε α β : Type} {turn : α → β} {result : Except ε α} {value : β} :
    result.map turn = .ok value ↔ ∃ found, result = .ok found ∧ turn found = value := by
  cases result <;> simp [Except.map]

/-- Two computations in a row fail when the first one does, or else the second one. -/
theorem bind_eq_error {ε α β : Type} {first : Except ε α} {next : α → Except ε β}
    {failure : ε} :
    (first >>= next) = .error failure
      ↔ first = .error failure ∨ ∃ value, first = .ok value ∧ next value = .error failure := by
  cases first <;> simp [bind, Except.bind]

/-- A computation that is followed by a function fails as it does. -/
theorem map_eq_error {ε α β : Type} {turn : α → β} {result : Except ε α} {failure : ε} :
    result.map turn = .error failure ↔ result = .error failure := by
  cases result <;> simp [Except.map]

@[simp] theorem mapError_ok {ε φ α : Type} (turn : ε → φ) (value : α) :
    (Except.ok value : Except ε α).mapError turn = .ok value := rfl

@[simp] theorem mapError_error {ε φ α : Type} (turn : ε → φ) (failure : ε) :
    (Except.error failure : Except ε α).mapError turn = .error (turn failure) := rfl

/-- What holds of the first value of a fold and is kept by its steps holds of the last one. -/
theorem foldlM_invariant {ε α β : Type} {step : β → α → Except ε β} (Kept : β → Prop)
    {items : List α}
    (kept : ∀ before item after, item ∈ items → step before item = .ok after → Kept before →
      Kept after)
    {first last : β} (folded : items.foldlM step first = .ok last) (holds : Kept first) :
    Kept last := by
  induction items generalizing first with
  | nil =>
    rw [List.foldlM_nil] at folded
    exact Except.ok.inj folded ▸ holds
  | cons item rest inductionHypothesis =>
    rw [List.foldlM_cons, bind_eq_ok] at folded
    obtain ⟨middle, stepped, folded⟩ := folded
    refine inductionHypothesis (fun before other after among => kept before other after
      (List.mem_cons_of_mem item among)) folded ?_
    exact kept first item middle List.mem_cons_self stepped holds

/-! ## One for each item of a list -/

section Items

variable {ε α β : Type} {compute : α → Except ε β}

/-- The items of a list have results when every one of them has. -/
theorem mapM_eq_ok {items : List α} {results : List β} :
    items.mapM compute = .ok results
      ↔ List.Forall₂ (fun item result => compute item = .ok result) items results := by
  induction items generalizing results with
  | nil => cases results <;> simp [pure, Except.pure]
  | cons item rest inductionHypothesis =>
    rw [List.mapM_cons, bind_eq_ok]
    constructor
    · rintro ⟨result, computed, onward⟩
      obtain ⟨others, computedOthers, same⟩ := bind_eq_ok.mp onward
      cases Except.ok.inj same
      exact .cons computed (inductionHypothesis.mp computedOthers)
    · rintro (_ | ⟨computed, others⟩)
      exact ⟨_, computed, bind_eq_ok.mpr ⟨_, inductionHypothesis.mpr others, rfl⟩⟩

/-- The items of a list fail as the first one does that fails. -/
theorem mapM_eq_error {items : List α} {fault : ε} :
    items.mapM compute = .error fault
      ↔ ∃ before item after, items = before ++ item :: after
        ∧ (∀ other ∈ before, ∃ result, compute other = .ok result)
        ∧ compute item = .error fault := by
  induction items with
  | nil => simp [pure, Except.pure]
  | cons item rest inductionHypothesis =>
    rw [List.mapM_cons, bind_eq_error]
    constructor
    · rintro (failed | ⟨result, computed, onward⟩)
      · exact ⟨[], item, rest, rfl, List.forall_mem_nil _, failed⟩
      · rcases bind_eq_error.mp onward with failed | ⟨_, _, nothing⟩
        · obtain ⟨before, other, after, rfl, computedBefore, failed⟩ :=
            inductionHypothesis.mp failed
          exact ⟨item :: before, other, after, rfl,
            List.forall_mem_cons.mpr ⟨⟨result, computed⟩, computedBefore⟩, failed⟩
        · cases nothing
    · rintro ⟨before, other, after, split, computedBefore, failed⟩
      cases before with
      | nil =>
        obtain ⟨rfl, rfl⟩ := List.cons.inj split
        exact Or.inl failed
      | cons first before =>
        obtain ⟨rfl, rfl⟩ := List.cons.inj split
        obtain ⟨⟨result, computed⟩, computedRest⟩ := List.forall_mem_cons.mp computedBefore
        refine Or.inr ⟨result, computed, bind_eq_error.mpr (Or.inl ?_)⟩
        exact inductionHypothesis.mpr ⟨before, other, after, rfl, computedRest, failed⟩

/-- The items of a list have results if and only if each of them has one. -/
theorem exists_mapM_eq_ok {items : List α} :
    (∃ results, items.mapM compute = .ok results)
      ↔ ∀ item ∈ items, ∃ result, compute item = .ok result := by
  induction items with
  | nil => simp [pure, Except.pure]
  | cons item rest inductionHypothesis =>
    rw [List.forall_mem_cons, ← inductionHypothesis]
    constructor
    · rintro ⟨results, computed⟩
      rcases mapM_eq_ok.mp computed with _ | ⟨first, others⟩
      exact ⟨⟨_, first⟩, _, mapM_eq_ok.mpr others⟩
    · rintro ⟨⟨result, first⟩, results, others⟩
      exact ⟨result :: results, mapM_eq_ok.mpr (.cons first (mapM_eq_ok.mp others))⟩

/-- A fold whose steps succeed or fail because of the items alone succeeds if each of them does. -/
theorem exists_foldlM_eq_ok {step : β → α → Except ε β} {Passes : α → Prop}
    (passes : ∀ before item, (∃ after, step before item = .ok after) ↔ Passes item)
    {items : List α} (first : β) :
    (∃ last, items.foldlM step first = .ok last) ↔ ∀ item ∈ items, Passes item := by
  induction items generalizing first with
  | nil => simp [pure, Except.pure]
  | cons item rest inductionHypothesis =>
    rw [List.forall_mem_cons, ← passes first item]
    simp only [List.foldlM_cons, bind_eq_ok]
    constructor
    · rintro ⟨last, middle, stepped, folded⟩
      exact ⟨⟨middle, stepped⟩, (inductionHypothesis middle).mp ⟨last, folded⟩⟩
    · rintro ⟨⟨middle, stepped⟩, others⟩
      obtain ⟨last, folded⟩ := (inductionHypothesis middle).mpr others
      exact ⟨last, middle, stepped, folded⟩

end Items

end RunLog
