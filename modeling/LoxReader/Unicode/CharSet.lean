import LoxReader.Bisect

namespace LoxReader.Unicode

/-- A set of code points given by its bounds in increasing order: the set begins at the first
bound, ends before the second, begins again at the third, and so on. -/
structure CharSet where
  bounds : Array Nat

def CharSet.contains (s : CharSet) (c : Char) : Bool :=
  bisect (· ≤ c.toNat) s.bounds % 2 == 1

end LoxReader.Unicode
