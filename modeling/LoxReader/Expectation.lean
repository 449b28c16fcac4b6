namespace LoxReader

inductive Mismatch (ε : Type) where
  | missing
  | unexpected
  | length (expected found : Nat)
  | element (error : ε)
  deriving DecidableEq, Repr

namespace Mismatch

def message {ε : Type} (describe : ε → String) : Mismatch ε → String
  | missing => "expected Some, found None"
  | unexpected => "expected None, found Some"
  | length expected found =>
      s!"assertion failed: `(left == right)` \n  left: `{expected}`, \n right: `{found}`: "
        ++ s!"expected {expected} element(s), found {found}"
  | element error => describe error

end Mismatch

namespace Expectation

variable {α β ε : Type} (check : α → β → Except ε Unit)

/-- Checks the elements in pairs, up to the first that fails. -/
def checkPairs : List α → List β → Except ε Unit
  | a :: as, b :: bs => do
      check a b
      checkPairs as bs
  | _, _ => pure ()

/-- Checks a list that may be absent: both must be there or neither, then the lengths must agree,
then the elements. -/
def checkLists : Option (List α) → Option (List β) → Except (Mismatch ε) Unit
  | none, none => pure ()
  | some _, none => throw .missing
  | none, some _ => throw .unexpected
  | some expected, some found =>
      if expected.length = found.length then
        (checkPairs check expected found).mapError .element
      else throw (.length expected.length found.length)

end Expectation

end LoxReader
