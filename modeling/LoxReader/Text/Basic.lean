namespace LoxReader

abbrev Text := List Char

namespace Text

def ofNat (n : Nat) : Text := Nat.toDigits 10 n

theorem not_mem_ofNat {c : Char} (hc : c.isDigit = false) (n : Nat) : c ∉ ofNat n := by
  intro h
  have hdigit := Nat.isDigit_of_mem_toDigits (by decide) (by decide) h
  rw [hc] at hdigit
  cases hdigit

/-- The number of bytes of a text in UTF-8. -/
def byteLength (t : Text) : Nat := t.foldr (fun c n => c.utf8Size + n) 0

@[simp]
theorem byteLength_nil : byteLength [] = 0 := rfl

@[simp]
theorem byteLength_cons (c : Char) (t : Text) :
    byteLength (c :: t) = c.utf8Size + byteLength t := rfl

@[simp]
theorem byteLength_append (s t : Text) : byteLength (s ++ t) = byteLength s + byteLength t := by
  induction s with
  | nil => simp
  | cons c s ih => simp [ih, Nat.add_assoc]

/-- The parts of a text before and after a byte offset. There are none when the offset lies
inside a character or behind the end. -/
def splitAt? : Nat → Text → Option (Text × Text)
  | 0, t => some ([], t)
  | _ + 1, [] => none
  | n + 1, c :: t =>
      if c.utf8Size ≤ n + 1 then
        (splitAt? (n + 1 - c.utf8Size) t).map fun (before, after) => (c :: before, after)
      else none

@[simp]
theorem splitAt?_zero (t : Text) : splitAt? 0 t = some ([], t) := by
  cases t <;> rfl

theorem splitAt?_byteLength_append (s t : Text) : splitAt? (byteLength s) (s ++ t) = some (s, t) := by
  induction s with
  | nil => simp
  | cons c s ih =>
      have hpositive := c.utf8Size_pos
      obtain ⟨n, hn⟩ : ∃ n, byteLength (c :: s) = n + 1 :=
        ⟨byteLength (c :: s) - 1, by simp only [byteLength_cons]; omega⟩
      have hsize : c.utf8Size + byteLength s = n + 1 := by simpa using hn
      rw [hn, List.cons_append, splitAt?, if_pos (by omega),
        show n + 1 - c.utf8Size = byteLength s by omega, ih]
      rfl

theorem splitAt?_eq_some_iff {n : Nat} {t before after : Text} :
    splitAt? n t = some (before, after) ↔ t = before ++ after ∧ byteLength before = n := by
  refine ⟨fun h => ?_, fun ⟨ht, hn⟩ => ht ▸ hn ▸ splitAt?_byteLength_append before after⟩
  fun_induction splitAt? n t generalizing before with
  | case1 => simp only [Option.some.injEq, Prod.mk.injEq] at h; simp [← h.1, h.2]
  | case2 => simp at h
  | case3 n c t hfits ih =>
      obtain ⟨⟨b, a⟩, hb, he⟩ := Option.map_eq_some_iff.1 h
      simp only [Prod.mk.injEq] at he
      obtain ⟨rfl, rfl⟩ := he
      obtain ⟨rfl, hlen⟩ := ih hb
      exact ⟨rfl, by simp only [byteLength_cons]; omega⟩
  | case4 => simp at h

/-- Whether a byte offset lies between two characters, or at an end, of a text. -/
def isBoundary (t : Text) (n : Nat) : Bool := (splitAt? n t).isSome

theorem isBoundary_iff {t : Text} {n : Nat} :
    isBoundary t n ↔ ∃ before after, t = before ++ after ∧ byteLength before = n := by
  simp only [isBoundary, Option.isSome_iff_exists, Prod.exists, splitAt?_eq_some_iff]

/-- The `length` bytes of a text behind a byte offset. There are none when one of their ends is no
boundary. -/
def slice? (t : Text) (offset length : Nat) : Option Text := do
  let (_, after) ← splitAt? offset t
  let (inside, _) ← splitAt? length after
  pure inside

theorem slice?_eq_some_iff {t inside : Text} {offset length : Nat} :
    slice? t offset length = some inside ↔
      ∃ before after, t = before ++ inside ++ after ∧ byteLength before = offset
        ∧ byteLength inside = length := by
  simp only [slice?, Option.bind_eq_bind, Option.bind_eq_some_iff, Prod.exists,
    splitAt?_eq_some_iff, Option.pure_def, Option.some.injEq]
  constructor
  · rintro ⟨before, _, ⟨rfl, hb⟩, inside', after, ⟨rfl, hi⟩, rfl⟩
    exact ⟨before, after, (List.append_assoc ..).symm, hb, hi⟩
  · rintro ⟨before, after, rfl, hb, hi⟩
    exact ⟨before, inside ++ after, ⟨List.append_assoc .., hb⟩, inside, after, ⟨rfl, hi⟩, rfl⟩

theorem splitAt?_append {s : Text} {n : Nat} (h : byteLength s ≤ n) (t : Text) :
    splitAt? n (s ++ t)
      = (splitAt? (n - byteLength s) t).map fun (before, after) => (s ++ before, after) := by
  induction s generalizing n with
  | nil => simp
  | cons c s ih =>
      have hpositive := c.utf8Size_pos
      rw [byteLength_cons] at h
      obtain ⟨m, rfl⟩ : ∃ m, n = m + 1 := ⟨n - 1, by omega⟩
      rw [List.cons_append, splitAt?, if_pos (by omega), ih (by omega), byteLength_cons,
        Nat.sub_sub, Option.map_map]
      rfl

theorem slice?_append {s : Text} {offset : Nat} (h : byteLength s ≤ offset) {t : Text}
    {length : Nat} :
    slice? (s ++ t) offset length = slice? t (offset - byteLength s) length := by
  rw [slice?, slice?, splitAt?_append h]
  cases splitAt? (offset - byteLength s) t <;> rfl

end Text

end LoxReader
