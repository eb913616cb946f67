import Mathlib.Data.List.Basic
import Mathlib.Data.List.Pairwise

/-!
# Stable sorting

A list in the order of some key is known from its parts with equal keys.  To sort a list is to put
it in the order of a key and to keep these parts as they are, and there is only one list like that.
-/

namespace RunLog

section Keys

variable {α κ : Type} [DecidableEq κ] (le : κ → κ → Bool) (key : α → κ)

theorem mem_iff_of_filter_key_eq {left right : List α}
    (same : ∀ value, (left.filter fun member => key member = value)
      = right.filter fun member => key member = value) (member : α) :
    member ∈ left ↔ member ∈ right := by
  have sameMembers := congrArg (member ∈ ·) (same (key member))
  simpa using sameMembers

/-- Lists in the order of a key are the same if for every key they have the same members in the same
order. -/
theorem eq_of_filter_key_eq
    (antisymm : ∀ first second, le first second = true → le second first = true → first = second)
    (total : ∀ first second, (le first second || le second first) = true) {left right : List α}
    (leftSorted : left.Pairwise fun first second => le (key first) (key second) = true)
    (rightSorted : right.Pairwise fun first second => le (key first) (key second) = true)
    (same : ∀ value, (left.filter fun member => key member = value)
      = right.filter fun member => key member = value) : left = right := by
  have mem_iff := mem_iff_of_filter_key_eq key same
  induction left generalizing right with
  | nil =>
    cases right with
    | nil => rfl
    | cons other others => cases (mem_iff other).mpr List.mem_cons_self
  | cons first rest inductionHypothesis =>
    cases right with
    | nil => cases (mem_iff first).mp List.mem_cons_self
    | cons other others =>
      have least {head member : α} {tail : List α}
          (sorted : (head :: tail).Pairwise fun first second => le (key first) (key second) = true)
          (present : member ∈ head :: tail) : le (key head) (key member) = true := by
        rcases List.mem_cons.mp present with rfl | later
        · simpa using total (key member) (key member)
        · exact List.rel_of_pairwise_cons sorted later
      have sameKey : key other = key first :=
        antisymm _ _ (least rightSorted ((mem_iff first).mp List.mem_cons_self))
          (least leftSorted ((mem_iff other).mpr List.mem_cons_self))
      have heads := same (key first)
      simp only [List.filter_cons, sameKey, decide_true, if_true, List.cons.injEq] at heads
      obtain ⟨rfl, -⟩ := heads
      have sameRest (value : κ) : (rest.filter fun member => key member = value)
          = others.filter fun member => key member = value := by
        have whole := same value
        by_cases isKey : key first = value <;> simpa [List.filter_cons, isKey] using whole
      rw [inductionHypothesis leftSorted.of_cons rightSorted.of_cons sameRest
        (mem_iff_of_filter_key_eq key sameRest)]

/-- Sorting by a key keeps the order of the members with one key. -/
theorem filter_key_mergeSort
    (trans : ∀ first second third, le first second = true → le second third = true →
      le first third = true)
    (total : ∀ first second, (le first second || le second first) = true) (members : List α)
    (value : κ) :
    ((members.mergeSort fun first second => le (key first) (key second)).filter
        fun member => key member = value)
      = members.filter fun member => key member = value := by
  let part := members.filter fun member => key member = value
  have partSorted : part.Pairwise fun first second => le (key first) (key second) = true := by
    refine List.pairwise_of_forall_mem_list fun first isFirst second isSecond => ?_
    rw [of_decide_eq_true (List.mem_filter.mp isFirst).2,
      of_decide_eq_true (List.mem_filter.mp isSecond).2]
    simpa using total value value
  have among : part.Sublist
      (members.mergeSort fun first second => le (key first) (key second)) :=
    List.sublist_mergeSort (fun first second third => trans (key first) (key second) (key third))
      (fun first second => total (key first) (key second)) partSorted List.filter_sublist
  have inside := among.filter fun member => key member = value
  rw [List.filter_filter] at inside
  simp only [Bool.and_self] at inside
  exact (inside.eq_of_length
    ((List.mergeSort_perm members _).filter _).length_eq.symm).symm

/-- A list is another one in the order of a key, and members with one key are in the same order in
both. -/
structure StablySorted (members ordered : List α) : Prop where
  /-- They have the same members. -/
  perm : ordered.Perm members
  /-- The keys are in order. -/
  inOrder : ordered.Pairwise fun first second => le (key first) (key second) = true
  /-- Members with one key stay as they are. -/
  stable : ∀ value, (ordered.filter fun member => key member = value)
    = members.filter fun member => key member = value

variable {le key}

/-- Sorting by a key is stable. -/
theorem stablySorted_mergeSort
    (trans : ∀ first second third, le first second = true → le second third = true →
      le first third = true)
    (total : ∀ first second, (le first second || le second first) = true) (members : List α) :
    StablySorted le key members
      (members.mergeSort fun first second => le (key first) (key second)) where
  perm := List.mergeSort_perm _ _
  inOrder := List.pairwise_mergeSort
    (fun first second third => trans (key first) (key second) (key third))
    (fun first second => total (key first) (key second)) members
  stable := filter_key_mergeSort le key trans total members

/-- There is only one way to put a list in order. -/
theorem StablySorted.unique
    (antisymm : ∀ first second, le first second = true → le second first = true → first = second)
    (total : ∀ first second, (le first second || le second first) = true)
    {members left right : List α} (leftSorted : StablySorted le key members left)
    (rightSorted : StablySorted le key members right) : left = right :=
  eq_of_filter_key_eq le key antisymm total leftSorted.inOrder rightSorted.inOrder
    fun value => (leftSorted.stable value).trans (rightSorted.stable value).symm

end Keys

end RunLog
