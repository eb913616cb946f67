import Mathlib.Data.List.TakeDrop
import Mathlib.Data.List.TakeWhile
import RunLog.Text.Utf8

/-!
# Joining and splitting texts

What is joined from parts has the properties of its parts, and parts without the separator are told
apart again.  Different texts are written as different bytes, and texts are in a linear order.
-/

namespace RunLog

namespace CodePoint

theorem utf8_ne_nil (point : CodePoint) : point.utf8 ≠ [] := by
  simp only [utf8]
  repeat' split
  all_goals exact List.cons_ne_nil _ _

/-- No code point is written as the beginning of another one. -/
theorem utf8_append_inj {left right : CodePoint} {afterLeft afterRight : Bytes}
    (same : left.utf8 ++ afterLeft = right.utf8 ++ afterRight) :
    left = right ∧ afterLeft = afterRight := by
  have leftBound := left.isLt
  have rightBound := right.isLt
  have ofNat_eq_iff (first second : Nat) :
      UInt8.ofNat first = UInt8.ofNat second ↔ first % 256 = second % 256 := by
    rw [← UInt8.toNat_inj, UInt8.toNat_ofNat', UInt8.toNat_ofNat']
  suffices numbers : left.val = right.val by
    obtain rfl := Fin.ext numbers
    exact ⟨rfl, List.append_cancel_left same⟩
  -- the first byte tells how many bytes there are, and the bytes tell the number
  simp only [utf8, tailByte] at same
  repeat' split at same
  all_goals
    simp only [List.cons_append, List.nil_append, List.cons.injEq, ofNat_eq_iff] at same
    omega

variable {point : CodePoint}

theorem is_iff {character : Char} : point.is character = true ↔ point = ofChar character := by
  rw [is, beq_iff_eq, Fin.ext_iff]
  rfl

theorem is_ofChar (character : Char) : (ofChar character).is character = true :=
  is_iff.mpr rfl

/-- A test that each of some characters passes is passed by a code point that is one of them. -/
theorem passes_of_isOneOf {passes : CodePoint → Bool} {characters : String}
    (all_pass : (characters.toList.all fun character => passes (ofChar character)) = true)
    (isOne : point.isOneOf characters = true) : passes point = true := by
  obtain ⟨character, among, same⟩ := List.any_eq_true.mp isOne
  exact is_iff.mp same ▸ List.all_eq_true.mp all_pass character among

/-- Something that passes a test is no character that fails it. -/
theorem not_is {passes : CodePoint → Bool} (passed : passes point = true) {character : Char}
    (fails : passes (ofChar character) = false) : point.is character = false := by
  rw [Bool.eq_false_iff]
  intro same
  rw [is_iff.mp same, fails] at passed
  cases passed

end CodePoint

namespace Text

/-! ## Joining -/

/-- What holds of the parts and of the separator, and of two texts together, holds of what is
joined. -/
theorem join_closed {P : Text → Prop} (nil : P [])
    (append : ∀ {left right}, P left → P right → P (left ++ right)) {separator : Text}
    {parts : List Text} (ofSeparator : P separator) (ofParts : ∀ part ∈ parts, P part) :
    P (join separator parts) := by
  induction parts with
  | nil => exact nil
  | cons first others inductionHypothesis =>
    have ofFirst := ofParts first List.mem_cons_self
    have onward := inductionHypothesis fun part present =>
      ofParts part (List.mem_cons_of_mem _ present)
    cases others with
    | nil => rwa [join, List.intercalate_singleton]
    | cons second others =>
      rw [join, List.intercalate_cons_cons]
      exact append (append ofFirst ofSeparator) onward

/-- The first part stands alone, every other one after a separator. -/
theorem join_cons (separator first : Text) (others : List Text) :
    join separator (first :: others) = first ++ others.flatMap (separator ++ ·) := by
  induction others generalizing first with
  | nil => simp [join]
  | cons second others inductionHypothesis =>
    have onward := inductionHypothesis second
    rw [join] at onward ⊢
    rw [List.intercalate_cons_cons, onward, List.flatMap_cons]
    simp only [List.append_assoc]

/-! ## Texts that can be written as bytes -/

theorem hasSurrogate_append (left right : Text) :
    (left ++ right).hasSurrogate = (left.hasSurrogate || right.hasSurrogate) :=
  List.any_append

theorem hasSurrogate_join {separator : Text} {parts : List Text}
    (plainSeparator : separator.hasSurrogate = false)
    (plainParts : ∀ part ∈ parts, part.hasSurrogate = false) :
    (join separator parts).hasSurrogate = false := by
  refine join_closed (P := fun text => text.hasSurrogate = false) rfl ?_ plainSeparator plainParts
  intro left right plainLeft plainRight
  rw [hasSurrogate_append, plainLeft, plainRight]
  rfl

theorem utf8?_of_plain {text : Text} (plain : text.hasSurrogate = false) :
    text.utf8? = some text.utf8 := by
  simp [utf8?, plain]

/-- Different texts are written as different bytes. -/
theorem utf8_injective : Function.Injective utf8 := by
  intro left
  induction left with
  | nil =>
    intro right same
    cases right with
    | nil => rfl
    | cons point rest =>
      rw [utf8_cons] at same
      exact absurd (List.append_eq_nil_iff.mp same.symm).1 point.utf8_ne_nil
  | cons point rest inductionHypothesis =>
    intro right same
    cases right with
    | nil =>
      rw [utf8_cons] at same
      exact absurd (List.append_eq_nil_iff.mp same).1 point.utf8_ne_nil
    | cons other others =>
      obtain ⟨rfl, sameRest⟩ := CodePoint.utf8_append_inj same
      rw [inductionHypothesis sameRest]

/-! ## Order -/

/-- Texts that begin with other code points are in the order of these, and other texts in that of
the rest. -/
theorem le_cons {first other : CodePoint} {rest others : Text} :
    le (first :: rest) (other :: others) = true
      ↔ first < other ∨ first = other ∧ rest.le others = true := by
  simp [le]

theorem le_total (left right : Text) : left.le right = true ∨ right.le left = true := by
  induction left generalizing right with
  | nil => exact Or.inl rfl
  | cons first rest inductionHypothesis =>
    cases right with
    | nil => exact Or.inr rfl
    | cons other others =>
      rw [le_cons, le_cons]
      have total := inductionHypothesis others
      grind

theorem le_trans {first second third : Text} (before : first.le second = true)
    (after : second.le third = true) : first.le third = true := by
  induction first generalizing second third with
  | nil => rfl
  | cons point rest inductionHypothesis =>
    match second, third with
    | [], _ => simp [le] at before
    | _ :: _, [] => simp [le] at after
    | middle :: others, last :: more =>
      rw [le_cons] at before after ⊢
      have onward := @inductionHypothesis others more
      grind

theorem le_antisymm {left right : Text} (before : left.le right = true)
    (after : right.le left = true) : left = right := by
  induction left generalizing right with
  | nil =>
    cases right with
    | nil => rfl
    | cons other others => simp [le] at after
  | cons first rest inductionHypothesis =>
    cases right with
    | nil => simp [le] at before
    | cons other others =>
      rw [le_cons] at before after
      have onward := @inductionHypothesis others
      grind

/-! ## Splitting -/

/-- A separator that does not stand before it is the first one. -/
theorem splitFirst?_of_clean {separator : Char} {before : Text}
    (clean : ∀ point ∈ before, point.is separator = false) (after : Text) :
    splitFirst? separator (before ++ CodePoint.ofChar separator :: after)
      = some (before, after) := by
  have isSeparator : (CodePoint.ofChar separator).is separator = true := beq_self_eq_true _
  have run : (before ++ CodePoint.ofChar separator :: after).span
      (fun point => !point.is separator) = (before, CodePoint.ofChar separator :: after) := by
    rw [List.span_eq_takeWhile_dropWhile, List.takeWhile_append_of_pos,
      List.dropWhile_append_of_pos]
    · simp [isSeparator]
    · simpa using clean
    · simpa using clean
  rw [splitFirst?, run]

/-- The first separator is the one that no other stands before. -/
theorem splitFirst?_eq_some {separator : Char} {text before after : Text} :
    splitFirst? separator text = some (before, after)
      ↔ text = before ++ CodePoint.ofChar separator :: after
        ∧ ∀ point ∈ before, point.is separator = false := by
  constructor
  · intro found
    unfold splitFirst? at found
    rw [List.span_eq_takeWhile_dropWhile] at found
    split at found
    · next first separator' rest run =>
      obtain ⟨rfl, rest_eq⟩ := Prod.mk.inj run
      obtain ⟨rfl, rfl⟩ := Prod.mk.inj (Option.some.inj found)
      have isSeparator : separator'.is separator = true := by
        have head := List.head?_dropWhile_not (fun point => !point.is separator) text
        rw [rest_eq] at head
        simpa using head
      refine ⟨?_, fun point present => by simpa using List.mem_takeWhile_imp present⟩
      rw [← CodePoint.is_iff.mp isSeparator, ← rest_eq, List.takeWhile_append_dropWhile]
    · cases found
  · rintro ⟨rfl, clean⟩
    exact splitFirst?_of_clean clean after

/-- A text is not split if the separator is not in it. -/
theorem splitFirst?_eq_none {separator : Char} {text : Text} :
    splitFirst? separator text = none ↔ ∀ point ∈ text, point.is separator = false := by
  constructor
  · intro missing
    unfold splitFirst? at missing
    rw [List.span_eq_takeWhile_dropWhile] at missing
    split at missing
    · cases missing
    · next run =>
      have nothing := (Prod.mk.inj run).2
      rw [List.dropWhile_eq_nil_iff] at nothing
      simpa using nothing
  · intro clean
    cases found : splitFirst? separator text with
    | none => rfl
    | some parts =>
      obtain ⟨rfl, -⟩ := splitFirst?_eq_some.mp found
      have isClean := clean (CodePoint.ofChar separator) (by simp)
      rw [CodePoint.is_ofChar] at isClean
      cases isClean

theorem splitAll_ne_nil (separator : Char) (text : Text) : splitAll separator text ≠ [] := by
  cases text with
  | nil => simp [splitAll]
  | cons point rest =>
    rw [splitAll]
    split
    · simp
    · split <;> simp

theorem splitAll_of_clean {separator : Char} {text : Text}
    (clean : ∀ point ∈ text, point.is separator = false) : splitAll separator text = [text] := by
  induction text with
  | nil => rfl
  | cons point rest inductionHypothesis =>
    have onward := inductionHypothesis fun other present =>
      clean other (List.mem_cons_of_mem _ present)
    rw [splitAll, onward]
    simp [clean point List.mem_cons_self]

theorem splitAll_append_of_clean {separator : Char} {first : Text}
    (clean : ∀ point ∈ first, point.is separator = false) (rest : Text) :
    splitAll separator (first ++ CodePoint.ofChar separator :: rest)
      = first :: splitAll separator rest := by
  have isSeparator : (CodePoint.ofChar separator).is separator = true := beq_self_eq_true _
  induction first with
  | nil =>
    rw [List.nil_append, splitAll]
    split
    · rename_i none
      exact absurd none (splitAll_ne_nil separator rest)
    · rename_i whole
      rw [if_pos isSeparator, whole]
  | cons point first inductionHypothesis =>
    have onward := inductionHypothesis fun other present =>
      clean other (List.mem_cons_of_mem _ present)
    rw [List.cons_append, splitAll, onward]
    simp [clean point List.mem_cons_self]

/-- Parts without the separator are told apart. -/
theorem splitAll_join {separator : Char} {parts : List Text} (nonempty : parts ≠ [])
    (clean : ∀ part ∈ parts, ∀ point ∈ part, point.is separator = false) :
    splitAll separator (join [CodePoint.ofChar separator] parts) = parts := by
  induction parts with
  | nil => exact absurd rfl nonempty
  | cons first others inductionHypothesis =>
    have cleanFirst := clean first List.mem_cons_self
    cases others with
    | nil =>
      rw [join, List.intercalate_singleton]
      exact splitAll_of_clean cleanFirst
    | cons second others =>
      have onward := inductionHypothesis (List.cons_ne_nil _ _)
        fun part present => clean part (List.mem_cons_of_mem _ present)
      rw [join, List.intercalate_cons_cons, List.append_assoc, List.singleton_append,
        splitAll_append_of_clean cleanFirst]
      exact congrArg (first :: ·) onward

end Text
end RunLog
