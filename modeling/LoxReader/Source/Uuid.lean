import LoxReader.Text.Basic

namespace LoxReader

/-- An identifier of 128 bits, as its hex digits. -/
structure Uuid where
  digits : List (Fin 16)
  length_digits : digits.length = 32
  deriving DecidableEq, Repr

namespace Uuid

def hexDigit? (c : Char) : Option (Fin 16) :=
  if c.isDigit then some (Fin.ofNat 16 (c.toNat - '0'.toNat))
  else if 'a' ≤ c ∧ c ≤ 'f' then some (Fin.ofNat 16 (c.toNat - 'a'.toNat + 10))
  else if 'A' ≤ c ∧ c ≤ 'F' then some (Fin.ofNat 16 (c.toNat - 'A'.toNat + 10))
  else none

def hexDigit (d : Fin 16) : Char := Nat.digitChar d

@[simp]
theorem hexDigit?_hexDigit : ∀ d, hexDigit? (hexDigit d) = some d := by decide

def ofDigits? (t : Text) : Option Uuid := do
  let digits ← t.mapM hexDigit?
  if h : digits.length = 32 then some ⟨digits, h⟩ else none

theorem ofDigits?_digits (u : Uuid) : ofDigits? (u.digits.map hexDigit) = some u := by
  have hread (ds : List (Fin 16)) : (ds.map hexDigit).mapM hexDigit? = some ds := by
    induction ds with
    | nil => rfl
    | cons d ds ih => simp [ih]
  simp [ofDigits?, hread, u.length_digits]

/-- The lengths of the groups that hyphens separate. -/
def groups : List Nat := [8, 4, 4, 4, 12]

def ofGroups? (t : Text) : Option Uuid :=
  let parts := t.splitOn '-'
  if parts.map List.length = groups then ofDigits? parts.flatten else none

/-- What may stand around the groups. -/
def wrappings : List (Text × Text) :=
  [([], []), (['\x7b'], ['\x7d']), ("urn:uuid:".toList, [])]

def unwrap? (t : Text) : Text × Text → Option Text
  | (before, after) => (before.isPrefixOf? t).bind after.isSuffixOf?

/-- Reads digits of either case, in groups or all of them together. -/
def ofText? (t : Text) : Option Uuid :=
  (wrappings.findSome? fun w => (unwrap? t w).bind ofGroups?) <|> ofDigits? t

def cut : List Nat → Text → List Text
  | [], _ => []
  | n :: ns, t => t.take n :: cut ns (t.drop n)

def display (u : Uuid) : Text := ['-'].intercalate (cut groups (u.digits.map hexDigit))

theorem mem_of_mem_cut {c : Char} {ns : List Nat} {t part : Text} (h : part ∈ cut ns t)
    (hc : c ∈ part) : c ∈ t := by
  fun_induction cut ns t with
  | case1 => simp at h
  | case2 n ns t ih =>
      rcases List.mem_cons.1 h with rfl | h
      · exact List.mem_of_mem_take hc
      · exact List.mem_of_mem_drop (ih h)

theorem flatten_cut (ns : List Nat) (t : Text) :
    (cut ns t).flatten = t.take (ns.foldr (· + ·) 0) := by
  fun_induction cut ns t with
  | case1 => simp
  | case2 n ns t ih => rw [List.flatten_cons, ih, List.foldr_cons, List.take_add]

theorem splitOn_display (u : Uuid) :
    u.display.splitOn '-' = cut groups (u.digits.map hexDigit) := by
  refine List.splitOn_intercalate _ (fun part h hhyphen => ?_) (by simp [cut, groups])
  obtain ⟨d, -, hd⟩ := List.mem_map.1 (mem_of_mem_cut h hhyphen)
  exact absurd hd (by revert d; decide)

theorem ofGroups?_display (u : Uuid) : ofGroups? u.display = some u := by
  have hlength : (u.digits.map hexDigit).length = 32 := by rw [List.length_map, u.length_digits]
  have hlengths : (cut groups (u.digits.map hexDigit)).map List.length = groups := by
    simp [cut, groups, u.length_digits]
  have hjoined : (cut groups (u.digits.map hexDigit)).flatten = u.digits.map hexDigit := by
    rw [flatten_cut]
    exact List.take_of_length_le (Nat.le_of_eq hlength)
  simp only [ofGroups?, splitOn_display, if_pos hlengths, hjoined, ofDigits?_digits]

theorem ofText?_display (u : Uuid) : ofText? u.display = some u := by
  have hbare : unwrap? u.display ([], []) = some u.display :=
    congrArg some (List.reverse_reverse u.display)
  simp only [ofText?, wrappings, List.findSome?_cons, hbare, Option.bind_some, ofGroups?_display]
  rfl

end Uuid

end LoxReader
