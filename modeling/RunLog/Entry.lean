import RunLog.Digest.Sha1
import RunLog.Label

/-!
# Entries

An entry is one line of a log, with the nanoseconds of its time and a number that tells apart the
lines of one stream at one time.  Two entries are the same line when their fingerprints agree; the
order of a log is the order of time and number.
-/

namespace RunLog

/-- One line of a log. -/
structure Entry where
  /-- The nanoseconds since the epoch. -/
  timestamp : Int
  /-- The number among the lines at this time. -/
  sequence : Int
  /-- The bytes of the line, without a line end. -/
  line : Bytes
  /-- The labels of the stream. -/
  labels : Labels
  deriving Inhabited

/-- What tells a line from others. -/
structure Fingerprint where
  /-- The nanoseconds since the epoch. -/
  timestamp : Int
  /-- The number among the lines at this time. -/
  sequence : Int
  /-- The digest of the stream. -/
  stream : Bytes
  /-- The digest of the line. -/
  line : Bytes
  deriving DecidableEq, Repr

/-- The position of an entry in a log. -/
structure SortKey where
  /-- The nanoseconds since the epoch. -/
  timestamp : Int
  /-- The number among the lines at this time. -/
  sequence : Int
  deriving DecidableEq, Repr

/-- Keys are ordered by time and then by number. -/
def SortKey.le (left right : SortKey) : Bool :=
  decide (left.timestamp < right.timestamp
    ∨ left.timestamp = right.timestamp ∧ left.sequence ≤ right.sequence)

namespace Entry

/-- The position of an entry. -/
def sortKey (entry : Entry) : SortKey :=
  ⟨entry.timestamp, entry.sequence⟩

/-- The fingerprint of an entry. -/
def fingerprint (entry : Entry) : Except Failure Fingerprint :=
  match entry.labels.encoded? with
  | .ok encoded =>
    .ok ⟨entry.timestamp, entry.sequence, Sha1.digest encoded, Sha1.digest entry.line⟩
  | .error failure => .error failure

/-- Whether two entries are equal; labels do not count. -/
def same (left right : Entry) : Bool :=
  left.timestamp == right.timestamp && left.sequence == right.sequence && left.line == right.line

/-- Entries in the order of their positions; entries at one position keep their order. -/
def sorted (entries : List Entry) : List Entry :=
  entries.mergeSort fun left right => left.sortKey.le right.sortKey

@[simp] theorem sortKey_mk (timestamp sequence : Int) (line : Bytes) (labels : Labels) :
    (Entry.mk timestamp sequence line labels).sortKey = ⟨timestamp, sequence⟩ := rfl

@[simp] theorem sorted_nil : sorted [] = [] := by
  simp [sorted]

/-- Sorting loses and adds nothing. -/
theorem sorted_perm (entries : List Entry) : (sorted entries).Perm entries :=
  List.mergeSort_perm entries _

end Entry
end RunLog
