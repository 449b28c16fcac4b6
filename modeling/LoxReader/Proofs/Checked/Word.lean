import LoxReader.Source.Lookup
import Mathlib.Algebra.Group.Nat.Defs

/-!
Steps of a machine with words of 64 bits. Where a sum or a difference is no word, a text does not
fit into memory, or the ends of a slice are no boundaries, the machine traps.
-/

namespace LoxReader

open Text

/-- A result of a computation that may trap or never end; then there is none. -/
abbrev Checked (α : Type) := Option α

namespace Checked

def add (a b : Nat) : Checked Nat := if a + b < 2 ^ 64 then some (a + b) else none

def sub (a b : Nat) : Checked Nat := if b ≤ a then some (a - b) else none

def sum (ns : List Nat) : Checked Nat := ns.foldlM add 0

/-- A text that is laid out in memory, where no object is longer than a signed word can say. -/
def allocate (t : Text) : Checked Text := if byteLength t < 2 ^ 63 then some t else none

def slice (t : Text) (start stop : Nat) : Checked Text :=
  if start ≤ stop then slice? t start (stop - start) else none

/-- The value of a result that must not be an error. -/
def expect {ε α : Type} : Except ε α → Checked α
  | .ok value => some value
  | .error _ => none

theorem add_eq {a b : Nat} (h : a + b < 2 ^ 64) : add a b = some (a + b) := if_pos h

theorem sub_eq {a b : Nat} (h : b ≤ a) : sub a b = some (a - b) := if_pos h

theorem allocate_eq {t : Text} (h : byteLength t < 2 ^ 63) : allocate t = some t := if_pos h

theorem slice_eq_slice? (s : Source) (start stop : Nat) :
    slice s.text start stop = s.slice? start stop := by
  rw [Source.slice?_eq, slice]
  rcases Nat.lt_or_ge stop start with hwrong | hright
  · rw [if_pos hwrong, if_neg (Nat.not_le.2 hwrong)]
  · rw [if_neg (Nat.not_lt.2 hright), if_pos hright]

end Checked

end LoxReader
