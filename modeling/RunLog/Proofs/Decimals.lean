import Mathlib.Algebra.Group.Nat.Defs
import Mathlib.Data.List.TakeDrop
import Mathlib.Data.List.TakeWhile
import RunLog.Number.Numeral

/-!
# Decimal texts

The decimal text of a number is made of ASCII digits, after a minus sign when the number is
negative.  It is read as the number that it was made from, unless it has more digits than are read.
-/

namespace RunLog

/-! ## Digits -/

namespace CodePoint

theorem isAsciiDigit_ofChar {character : Char} (isDigit : character.isDigit = true) :
    (ofChar character).isAsciiDigit = true := by
  simp only [Char.isDigit, Bool.and_eq_true, decide_eq_true_eq, UInt32.le_iff_toNat_le] at isDigit
  exact Bool.and_eq_true_iff.mpr ⟨decide_eq_true isDigit.1, decide_eq_true isDigit.2⟩

variable {point : CodePoint}

/-- The value of an ASCII digit. -/
theorem digitValue?_of_isAsciiDigit (isDigit : point.isAsciiDigit = true) :
    Text.digitValue? point = some (point.val - 0x30) := by
  simp only [isAsciiDigit, Bool.and_eq_true, decide_eq_true_eq] at isDigit
  simp [Text.digitValue?, Text.digitZeros, isDigit]

theorem not_isBlank_of_isAsciiDigit (isDigit : point.isAsciiDigit = true) :
    point.isBlank = false := by
  simp only [isAsciiDigit, Bool.and_eq_true, decide_eq_true_eq] at isDigit
  simp only [isBlank, Bool.or_eq_false_iff, Bool.and_eq_false_iff, decide_eq_false_iff_not,
    beq_eq_false_iff_ne]
  omega

theorem not_is_of_isAsciiDigit (isDigit : point.isAsciiDigit = true) {character : Char}
    (notDigit : character.isDigit = false) : point.is character = false := by
  simp only [isAsciiDigit, Bool.and_eq_true, decide_eq_true_eq] at isDigit
  simp only [Char.isDigit, Bool.and_eq_false_iff, decide_eq_false_iff_not,
    UInt32.le_iff_toNat_le] at notDigit
  simp only [is, beq_eq_false_iff_ne]
  intro same
  rw [same] at isDigit
  change ¬48 ≤ character.val.toNat ∨ ¬character.val.toNat ≤ 57 at notDigit
  omega

end CodePoint

namespace Text

/-- Whether a text is made of ASCII digits. -/
def IsDigits (text : Text) : Prop :=
  ∀ point ∈ text, point.isAsciiDigit = true

theorem isDigits_ofNat (number : Nat) : IsDigits (ofNat number) := by
  intro point present
  obtain ⟨character, among, rfl⟩ := List.mem_map.mp present
  exact CodePoint.isAsciiDigit_ofChar
    (Nat.isDigit_of_mem_toDigits (by decide) (by decide) among)

theorem ofNat_ne_nil (number : Nat) : ofNat number ≠ [] := by
  simp [ofNat]

end Text

/-! ## Reading -/

namespace Numeral

open Text (IsDigits isDigits_ofNat ofNat_ne_nil)

variable {text : Text}

theorem isDigitOrUnderscore_of_isDigits (digits : IsDigits text) :
    ∀ point ∈ text, isDigitOrUnderscore point = true := by
  intro point present
  simp [isDigitOrUnderscore, CodePoint.digitValue?_of_isAsciiDigit (digits point present)]

theorem wellSeparated_of_isDigits (digits : IsDigits text) (nonempty : text ≠ [])
    (afterDigit : Bool) : wellSeparated afterDigit text = true := by
  induction text generalizing afterDigit with
  | nil => exact absurd rfl nonempty
  | cons point rest inductionHypothesis =>
    have notUnderscore : point.is '_' = false :=
      CodePoint.not_is_of_isAsciiDigit (digits point List.mem_cons_self) (by decide)
    rw [wellSeparated, notUnderscore]
    cases rest with
    | nil => rfl
    | cons second others =>
      exact inductionHypothesis (fun other present => digits other (List.mem_cons_of_mem _ present))
        (List.cons_ne_nil _ _) true

theorem length_digitValues (digits : IsDigits text) : (digitValues text).length = text.length := by
  induction text with
  | nil => rfl
  | cons point rest inductionHypothesis =>
    have rest := inductionHypothesis fun other present =>
      digits other (List.mem_cons_of_mem _ present)
    simpa [digitValues, CodePoint.digitValue?_of_isAsciiDigit (digits point List.mem_cons_self)]
      using rest

/-- Digits are read as the number that they write. -/
theorem ofDigits_digitValues_map (characters : List Char)
    (digits : ∀ character ∈ characters, character.isDigit = true) (before : Nat) :
    (digitValues (characters.map CodePoint.ofChar)).foldl
        (fun number digit => number * 10 + digit) before
      = Nat.ofDigitChars 10 characters before := by
  induction characters generalizing before with
  | nil => rfl
  | cons character rest inductionHypothesis =>
    have value : Text.digitValue? (CodePoint.ofChar character) = some (character.toNat - 0x30) :=
      CodePoint.digitValue?_of_isAsciiDigit
        (CodePoint.isAsciiDigit_ofChar (digits character List.mem_cons_self))
    have onward := inductionHypothesis
      (fun other present => digits other (List.mem_cons_of_mem _ present))
      (before * 10 + (character.toNat - 0x30))
    rw [Nat.ofDigitChars_cons, Nat.mul_comm 10 before]
    simpa [digitValues, value] using onward

theorem ofDigits_ofNat (number : Nat) : ofDigits (digitValues (Text.ofNat number)) = number := by
  rw [ofDigits, Text.ofNat, ofDigits_digitValues_map]
  · exact Nat.ofDigitChars_ten_toDigits
  · exact fun character present => Nat.isDigit_of_mem_toDigits (by decide) (by decide) present

/-- Whether the decimal text of a number is short enough to be read. -/
def Legible (number : Int) : Prop :=
  number.natAbs < 10 ^ digitLimit

instance (number : Int) : Decidable (Legible number) :=
  inferInstanceAs (Decidable (number.natAbs < 10 ^ digitLimit))

theorem length_ofNat_le (number : Nat) :
    (Text.ofNat number).length ≤ digitLimit ↔ number < 10 ^ digitLimit := by
  rw [Text.ofNat, List.length_map]
  exact Nat.length_toDigits_le_iff (by decide) (by decide)

/-- Digits after a sign are read as a number, unless there are too many of them. -/
theorem int?_of_isDigits {body : Text} {negative : Bool}
    (written : sign (text.trimStart CodePoint.isNumeralBlank) = (negative, body))
    (digits : IsDigits body) (nonempty : body ≠ []) :
    int? text =
      if body.length ≤ digitLimit then .ok (signed negative (ofDigits (digitValues body)))
      else .error (.tooLong body.length) := by
  have run : body.span isDigitOrUnderscore = (body, []) := by
    rw [List.span_eq_takeWhile_dropWhile,
      List.takeWhile_eq_self_iff.mpr (isDigitOrUnderscore_of_isDigits digits),
      List.dropWhile_eq_nil_iff.mpr (isDigitOrUnderscore_of_isDigits digits)]
  simp only [int?, written, run, wellSeparated_of_isDigits digits nonempty,
    length_digitValues digits, List.all_nil, if_true]
  by_cases short : body.length ≤ digitLimit
  · rw [if_neg (Nat.not_lt.mpr short), if_pos short]
  · rw [if_pos (Nat.lt_of_not_le short), if_neg short]

/-- The decimal text of a natural number has no sign. -/
theorem sign_ofNat (number : Nat) : sign (Text.ofNat number) = (false, Text.ofNat number) := by
  cases text : Text.ofNat number with
  | nil => exact absurd text (ofNat_ne_nil number)
  | cons first rest =>
    have isDigit : first.isAsciiDigit = true :=
      isDigits_ofNat number first (text ▸ List.mem_cons_self)
    simp [sign, CodePoint.not_is_of_isAsciiDigit isDigit]

theorem trimStart_ofNat (number : Nat) :
    (Text.ofNat number).trimStart CodePoint.isNumeralBlank = Text.ofNat number := by
  cases text : Text.ofNat number with
  | nil => rfl
  | cons first rest =>
    have isDigit : first.isAsciiDigit = true :=
      isDigits_ofNat number first (text ▸ List.mem_cons_self)
    simp [Text.trimStart, CodePoint.isNumeralBlank, CodePoint.not_isBlank_of_isAsciiDigit isDigit]

/-- The decimal text of a number is read as the number, unless it is too long. -/
theorem int?_ofInt (number : Int) :
    int? (Text.ofInt number) =
      if Legible number then .ok number
      else .error (.tooLong (Text.ofNat number.natAbs).length) := by
  have sameBound : (Text.ofNat number.natAbs).length ≤ digitLimit ↔ Legible number :=
    length_ofNat_le number.natAbs
  cases number with
  | ofNat number =>
    have written : sign ((Text.ofNat number).trimStart CodePoint.isNumeralBlank)
        = (false, Text.ofNat number) := by
      rw [trimStart_ofNat, sign_ofNat]
    have read := int?_of_isDigits written (isDigits_ofNat number) (ofNat_ne_nil number)
    rw [ofDigits_ofNat] at read
    exact read.trans (if_congr sameBound rfl rfl)
  | negSucc number =>
    have written : sign ((Text.ofInt (.negSucc number)).trimStart CodePoint.isNumeralBlank)
        = (true, Text.ofNat (number + 1)) := rfl
    have read := int?_of_isDigits written (isDigits_ofNat _) (ofNat_ne_nil _)
    rw [ofDigits_ofNat] at read
    exact read.trans (if_congr sameBound rfl rfl)

/-- The number that a decimal text writes, however many digits it has. -/
def ofText (text : Text) : Int :=
  signed (sign text).1 (ofDigits (digitValues (sign text).2))

theorem ofText_ofInt (number : Int) : ofText (Text.ofInt number) = number := by
  cases number with
  | ofNat number =>
    change ofText (Text.ofNat number) = _
    rw [ofText, sign_ofNat, ofDigits_ofNat]
    rfl
  | negSucc number =>
    change signed true (ofDigits (digitValues (Text.ofNat (number + 1)))) = _
    rw [ofDigits_ofNat]
    rfl

end Numeral
end RunLog
