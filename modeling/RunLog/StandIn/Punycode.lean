import RunLog.Text.Basic

/-!
# Punycode

A label with characters beyond ASCII is written in ASCII: first the ASCII characters, then, after a
hyphen, the others in increasing order.  Each of them is the distance from the one before, counted
in places times code points, as a number whose digits have thresholds that adapt to the distances
so far (RFC 3492).
-/

namespace RunLog
namespace Punycode

/-- How many digits there are. -/
def radix : Nat := 36

/-- The letter or digit for the value of a digit. -/
def digit (value : Nat) : CodePoint :=
  CodePoint.ofNat (if value < 26 then 0x61 + value else 0x30 + (value - 26))

/-- The threshold of the digit at a position, given the bias. -/
def threshold (position bias : Nat) : Nat :=
  min 26 (max 1 (position - bias))

theorem threshold_pos (position bias : Nat) : 0 < threshold position bias := by
  simp only [threshold]
  omega

/-- The digits of a number from a position on. -/
def digits (bias position number : Nat) : Text :=
  let least := threshold position bias
  if number < least then [digit number]
  else
    digit (least + (number - least) % (radix - least))
      :: digits bias (position + radix) ((number - least) / (radix - least))
termination_by number
decreasing_by
  have positive := threshold_pos position bias
  calc (number - threshold position bias) / (radix - threshold position bias)
      ≤ number - threshold position bias := Nat.div_le_self ..
    _ < number := by omega

/-- A distance divided by 35 until it is small, and how often. -/
def scaled (distance : Nat) : Nat × Nat :=
  if 455 < distance then
    let (rest, times) := scaled (distance / 35)
    (rest, times + 1)
  else (distance, 0)
termination_by distance
decreasing_by exact Nat.div_lt_self (by omega) (by omega)

/-- The bias after a distance, given how many code points are written. -/
def bias (distance written : Nat) (isFirst : Bool) : Nat :=
  let damped := if isFirst then distance / 700 else distance / 2
  let (rest, times) := scaled (damped + damped / written)
  radix * times + radix * rest / (rest + 38)

/-- How far writing has come. -/
structure Progress where
  /-- What is written. -/
  output : Text
  /-- The distance from the code point that was written last. -/
  distance : Nat
  /-- The bias. -/
  bias : Nat
  /-- How many code points are written. -/
  written : Nat

/-- Pass one place of a label on the way to the places of a code point. -/
def pass (basic : Nat) (wanted : CodePoint) (progress : Progress) (point : CodePoint) : Progress :=
  if point < wanted then { progress with distance := progress.distance + 1 }
  else if point = wanted then
    { output := progress.output ++ digits progress.bias radix progress.distance
      distance := 0
      bias := bias progress.distance (progress.written + 1) (progress.written == basic)
      written := progress.written + 1 }
  else progress

/-- Write the places of code points, which come in increasing order after a given number. -/
def write (label : Text) (basic : Nat) : Nat → List CodePoint → Progress → Progress
  | _, [], progress => progress
  | reached, wanted :: rest, progress =>
    let distance := progress.distance + (wanted.val - reached) * (progress.written + 1)
    let after := label.foldl (pass basic wanted) { progress with distance }
    write label basic (wanted.val + 1) rest { after with distance := after.distance + 1 }

/-- A label in ASCII. -/
def encode (label : Text) : Text :=
  let basic := label.filter fun point => point.val < 0x80
  let others := label.filter fun point => 0x80 ≤ point.val
  let inOrder := (others.mergeSort fun left right => decide (left ≤ right)).eraseDups
  let separator : Text := if basic.isEmpty then [] else "-"
  basic ++ separator ++ (write label basic.length 0x80 inOrder ⟨[], 0, 72, basic.length⟩).output

end Punycode
end RunLog
