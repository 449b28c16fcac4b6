import LoxReader.Text.Line
import LoxReader.Unicode.WhiteSpace

/-!
Whitespace and comments, which separate tokens and are none. `split` takes all of it off the
front of a text.
-/

namespace LoxReader.Trivia

open Text Unicode

/-- Splits a text inside `depth` block comments behind the mark that closes the last of them.
Block comments nest. -/
def closeComments : Nat → Text → Option (Text × Text)
  | 0, t => some ([], t)
  | _ + 1, [] => none
  | depth + 1, '/' :: '*' :: t =>
      (closeComments (depth + 2) t).map fun (body, rest) => ('/' :: '*' :: body, rest)
  | depth + 1, '*' :: '/' :: t =>
      (closeComments depth t).map fun (body, rest) => ('*' :: '/' :: body, rest)
  | depth + 1, c :: t =>
      (closeComments (depth + 1) t).map fun (body, rest) => (c :: body, rest)

/-- Splits one item off the front: a line comment without the terminator of its line, a block
comment that is closed, or a character of whitespace. -/
def item? : Text → Option (Text × Text)
  | '/' :: '/' :: t =>
      some ('/' :: '/' :: t.takeWhile (!isLineTerminator ·), t.dropWhile (!isLineTerminator ·))
  | '/' :: '*' :: t =>
      (closeComments 1 t).map fun (body, rest) => ('/' :: '*' :: body, rest)
  | c :: t => if isWhiteSpace c then some ([c], t) else none
  | [] => none

theorem append_of_closeComments {depth : Nat} {t body rest : Text}
    (h : closeComments depth t = some (body, rest)) : t = body ++ rest := by
  fun_induction closeComments depth t generalizing body with
  | case1 => simp only [Option.some.injEq, Prod.mk.injEq] at h; simp [← h.1, h.2]
  | case2 => simp at h
  | case3 depth t ih | case4 depth t ih | case5 depth c t _ _ ih =>
      obtain ⟨⟨b, r⟩, hb, he⟩ := Option.map_eq_some_iff.1 h
      simp only [Prod.mk.injEq] at he
      obtain ⟨rfl, rfl⟩ := he
      simp [ih hb]

theorem append_of_item? {t item rest : Text} (h : item? t = some (item, rest)) :
    t = item ++ rest := by
  unfold item? at h
  split at h
  · simp only [Option.some.injEq, Prod.mk.injEq] at h
    simp [← h.1, ← h.2, List.takeWhile_append_dropWhile]
  · obtain ⟨⟨b, r⟩, hb, he⟩ := Option.map_eq_some_iff.1 h
    simp only [Prod.mk.injEq] at he
    obtain ⟨rfl, rfl⟩ := he
    simp [append_of_closeComments hb]
  · split at h
    · simp only [Option.some.injEq, Prod.mk.injEq] at h
      simp [← h.1, ← h.2]
    · simp at h
  · simp at h

theorem item?_ne_nil {t item rest : Text} (h : item? t = some (item, rest)) : item ≠ [] := by
  unfold item? at h
  split at h
  · simp only [Option.some.injEq, Prod.mk.injEq] at h
    simp [← h.1]
  · obtain ⟨⟨b, r⟩, hb, he⟩ := Option.map_eq_some_iff.1 h
    simp only [Prod.mk.injEq] at he
    simp [← he.1]
  · split at h
    · simp only [Option.some.injEq, Prod.mk.injEq] at h
      simp [← h.1]
    · simp at h
  · simp at h

theorem length_of_item? {t item rest : Text} (h : item? t = some (item, rest)) :
    rest.length < t.length := by
  have hsplit := congrArg List.length (append_of_item? h)
  have hfilled := List.length_pos_iff.2 (item?_ne_nil h)
  rw [List.length_append] at hsplit
  omega

/-- Splits all trivia off the front. A block comment that is never closed stays. -/
def split (t : Text) : Text × Text :=
  match h : item? t with
  | some (item, rest) =>
      have := length_of_item? h
      let (gap, tail) := split rest
      (item ++ gap, tail)
  | none => ([], t)
termination_by t.length

theorem split_of_item? {t item rest : Text} (h : item? t = some (item, rest)) :
    split t = (item ++ (split rest).1, (split rest).2) := by
  rw [split]
  split <;> simp_all

theorem split_of_item?_eq_none {t : Text} (h : item? t = none) : split t = ([], t) := by
  rw [split]
  split <;> simp_all

theorem append_split (t : Text) : (split t).1 ++ (split t).2 = t := by
  fun_induction split t with
  | case1 t item rest h _ gap tail hsplit ih =>
      rw [hsplit] at ih
      rw [append_of_item? h, ← ih, List.append_assoc]
  | case2 => rfl

theorem item?_split (t : Text) : item? (split t).2 = none := by
  fun_induction split t with
  | case1 t item rest h _ gap tail hsplit ih => rwa [hsplit] at ih
  | case2 t h => exact h

end LoxReader.Trivia
