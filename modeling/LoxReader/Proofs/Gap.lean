import LoxReader.Proofs.BlockComment

/-!
The text between tokens is a row of items: characters of whitespace, line comments and closed block
comments. `Trivia.split` takes the longest such row off a text.
-/

namespace LoxReader

open Text Unicode

namespace Text

/-- All of `x` satisfies `p`, and what follows does not go on so. -/
def IsRun (p : Char → Bool) (x after : Text) : Prop :=
  (∀ c ∈ x, p c) ∧ ∀ c ∈ after.head?, p c = false

theorem isRun_takeWhile (p : Char → Bool) (t : Text) :
    IsRun p (t.takeWhile p) (t.dropWhile p) := by
  refine ⟨fun c hc => List.all_eq_true.mp List.all_takeWhile c hc, fun c hc => ?_⟩
  have hne := List.head?_dropWhile_not p t
  rw [Option.mem_def.mp hc] at hne
  simpa using hne

theorem takeWhile_run {p : Char → Bool} {x after : Text} (h : IsRun p x after) :
    (x ++ after).takeWhile p = x := by
  rw [List.takeWhile_append_of_pos h.1]
  cases after with
  | nil => simp
  | cons c after => simp [h.2 c rfl]

theorem dropWhile_run {p : Char → Bool} {x after : Text} (h : IsRun p x after) :
    (x ++ after).dropWhile p = after := by
  rw [List.dropWhile_append_of_pos h.1]
  cases after with
  | nil => rfl
  | cons c after => simp [h.2 c rfl]

theorem mem_head?_append {after after' : Text} (hhead : ∀ c ∈ after'.head?, c ∈ after.head?)
    (x : Text) : ∀ c ∈ (x ++ after').head?, c ∈ (x ++ after).head? := by
  cases x with
  | nil => exact hhead
  | cons d x => exact fun _ hc => hc

theorem isRun_of_head? {p : Char → Bool} {x after after' : Text}
    (hhead : ∀ c ∈ after'.head?, c ∈ after.head?) (h : IsRun p x after) : IsRun p x after' :=
  ⟨h.1, fun c hc => h.2 c (hhead c hc)⟩

theorem isWhiteSpace_of_isLineTerminator {c : Char} (h : isLineTerminator c) : isWhiteSpace c := by
  simp only [isLineTerminator, Bool.or_eq_true, beq_iff_eq] at h
  rcases h with (((((rfl | rfl) | rfl) | rfl) | rfl) | rfl) | rfl <;> decide

theorem isLineTerminator_eq_false {c : Char} (h : isWhiteSpace c = false) :
    isLineTerminator c = false := by
  cases hterm : isLineTerminator c with
  | false => rfl
  | true => simp [isWhiteSpace_of_isLineTerminator hterm] at h

theorem isWhiteSpace_eq_false_of_isRun {p : Char → Bool} {x after : Text}
    (hp : ∀ c, isWhiteSpace c → p c = false) (h : IsRun p x after) :
    ∀ c ∈ x, isWhiteSpace c = false := by
  intro c hc
  cases hwhite : isWhiteSpace c with
  | false => rfl
  | true => simpa [hp c hwhite] using h.1 c hc

end Text

namespace Trivia

/-- One item, in front of the text `rest`. -/
inductive Item (rest : Text) : Text → Prop
  | whiteSpace {c : Char} : isWhiteSpace c → Item rest [c]
  | lineComment {body : Text} : (∀ c ∈ body, isLineTerminator c = false) →
      (∀ c ∈ rest.head?, isLineTerminator c) → Item rest ('/' :: '/' :: body)
  | blockComment {c : Text} : BlockComment c → Item rest c

/-- Items and nothing else, in front of the text `after`. -/
inductive Gap (after : Text) : Text → Prop
  | nil : Gap after []
  | cons {item gap : Text} : Item (gap ++ after) item → Gap after gap → Gap after (item ++ gap)

theorem gap_of_item {item rest : Text} (h : Item rest item) : Gap rest item := by
  rw [← List.append_nil item]
  exact .cons h .nil

theorem gap_append {gap gap' after : Text} (h : Gap (gap' ++ after) gap) (h' : Gap after gap') :
    Gap after (gap ++ gap') := by
  generalize hbehind : gap' ++ after = behind at h
  induction h with
  | nil => exact h'
  | cons hitem _ ih =>
    rw [List.append_assoc]
    refine .cons ?_ ih
    rwa [List.append_assoc, hbehind]

theorem item_of_head? {item rest rest' : Text} (hhead : ∀ c ∈ rest'.head?, c ∈ rest.head?)
    (h : Item rest item) : Item rest' item := by
  cases h with
  | whiteSpace hc => exact .whiteSpace hc
  | lineComment hbody hrest => exact .lineComment hbody fun c hc => hrest c (hhead c hc)
  | blockComment hc => exact .blockComment hc

/-- An item is closed by the character behind it or by the end of the text. -/
theorem gap_of_head? {gap after after' : Text} (hhead : ∀ c ∈ after'.head?, c ∈ after.head?)
    (h : Gap after gap) : Gap after' gap := by
  induction h with
  | nil => exact .nil
  | cons hitem _ ih => exact .cons (item_of_head? (mem_head?_append hhead _) hitem) ih

/-- Only a line comment at the end of a gap is open to what follows. -/
theorem gap_of_getLast? {gap after : Text} (h : Gap [] gap)
    (hlast : ∀ c ∈ gap.getLast?, isLineTerminator c) : Gap after gap := by
  induction h with
  | nil => exact .nil
  | @cons item gap hitem _ ih =>
    cases gap with
    | nil =>
      rw [List.append_nil] at hlast ⊢
      cases hitem with
      | whiteSpace hc => exact gap_of_item (.whiteSpace hc)
      | blockComment hc => exact gap_of_item (.blockComment hc)
      | @lineComment body hbody _ =>
        have hmem := List.getLast_mem (List.cons_ne_nil '/' ('/' :: body))
        have hterm := hlast _ (List.getLast?_eq_some_getLast (List.cons_ne_nil _ _))
        generalize List.getLast _ _ = c at hmem hterm
        simp only [List.mem_cons] at hmem
        rcases hmem with rfl | rfl | hmem
        · exact absurd hterm (by decide)
        · exact absurd hterm (by decide)
        · simp [hbody c hmem] at hterm
    | cons d gap =>
      have hhead : ∀ c ∈ (d :: gap ++ after).head?, c ∈ (d :: gap ++ []).head? := fun _ hc => hc
      refine .cons (item_of_head? hhead hitem) (ih fun c hc => hlast c ?_)
      rw [List.getLast?_append, Option.mem_def.mp hc]
      rfl

theorem item?_slashes (t : Text) :
    item? ('/' :: '/' :: t) = some ('/' :: '/' :: t.takeWhile (!isLineTerminator ·),
      t.dropWhile (!isLineTerminator ·)) := rfl

theorem item?_opening (t : Text) :
    item? ('/' :: '*' :: t)
      = (closeComments 1 t).map fun (body, rest) => ('/' :: '*' :: body, rest) := rfl

theorem item?_other {c : Char} {t : Text} (hline : ¬ ['/', '/'] <+: c :: t)
    (hblock : ¬ ['/', '*'] <+: c :: t) :
    item? (c :: t) = if isWhiteSpace c then some ([c], t) else none := by
  unfold item?
  split <;> simp_all

theorem item?_of_isWhiteSpace {c : Char} (h : isWhiteSpace c) (t : Text) :
    item? (c :: t) = some ([c], t) := by
  have hc : '/' ≠ c := by
    rintro rfl
    exact absurd h (by decide)
  rw [item?_other (by simp [hc]) (by simp [hc]), if_pos h]

theorem item?_lineComment {body rest : Text} (hbody : ∀ c ∈ body, isLineTerminator c = false)
    (hrest : ∀ c ∈ rest.head?, isLineTerminator c) :
    item? ('/' :: '/' :: (body ++ rest)) = some ('/' :: '/' :: body, rest) := by
  have hrun : IsRun (!isLineTerminator ·) body rest :=
    ⟨fun c hc => by simp [hbody c hc], fun c hc => by simp [hrest c hc]⟩
  rw [item?_slashes, takeWhile_run hrun, dropWhile_run hrun]

theorem item?_eq_some_iff {t item rest : Text} :
    item? t = some (item, rest) ↔ t = item ++ rest ∧ Item rest item := by
  constructor
  · intro h
    refine ⟨append_of_item? h, ?_⟩
    unfold item? at h
    split at h
    · rename_i t
      simp only [Option.some.injEq, Prod.mk.injEq] at h
      obtain ⟨rfl, rfl⟩ := h
      have hrun := isRun_takeWhile (!isLineTerminator ·) t
      exact .lineComment (fun c hc => by simpa using hrun.1 c hc)
        (fun c hc => by simpa using hrun.2 c hc)
    · obtain ⟨body, rfl, hb⟩ := (map_front_eq_some_iff ('/' :: '*' :: ·)).mp h
      have hc := (closeComments_eq_some_iff.mp hb).2
      exact .blockComment (blockComment_iff.mpr ⟨body, rfl, hc⟩)
    · split at h
      · simp only [Option.some.injEq, Prod.mk.injEq] at h
        obtain ⟨rfl, rfl⟩ := h
        exact .whiteSpace (by assumption)
      · simp at h
    · simp at h
  · rintro ⟨rfl, h⟩
    cases h with
    | whiteSpace hc => exact item?_of_isWhiteSpace hc rest
    | lineComment hbody hrest => exact item?_lineComment hbody hrest
    | blockComment hc =>
      obtain ⟨body, rfl, hb⟩ := blockComment_iff.mp hc
      have hclose : closeComments 1 (body ++ rest) = some (body, rest) :=
        closeComments_eq_some_iff.mpr ⟨rfl, hb⟩
      rw [List.cons_append, List.cons_append, item?_opening, hclose]
      rfl

theorem gap_split (t : Text) : Gap (split t).2 (split t).1 := by
  fun_induction split t with
  | case1 t item rest h _ gap tail hsplit ih =>
    rw [hsplit] at ih
    have hrest : rest = gap ++ tail := by rw [← append_split rest, hsplit]
    exact .cons (hrest ▸ (item?_eq_some_iff.mp h).2) ih
  | case2 => exact .nil

theorem split_gap {gap after : Text} (h : Gap after gap) :
    split (gap ++ after) = (gap ++ (split after).1, (split after).2) := by
  induction h with
  | nil => rfl
  | @cons item gap hitem _ ih =>
    have hfirst : item? (item ++ gap ++ after) = some (item, gap ++ after) :=
      item?_eq_some_iff.mpr ⟨List.append_assoc .., hitem⟩
    rw [split_of_item? hfirst, ih, List.append_assoc]

theorem split_takeWhile (t : Text) :
    split t = (t.takeWhile isWhiteSpace ++ (split (t.dropWhile isWhiteSpace)).1,
      (split (t.dropWhile isWhiteSpace)).2) := by
  induction t with
  | nil => rfl
  | cons c t ih =>
    cases hwhite : isWhiteSpace c with
    | false => simp [hwhite]
    | true =>
      rw [split_of_item? (item?_of_isWhiteSpace hwhite t), List.takeWhile_cons_of_pos hwhite,
        List.dropWhile_cons_of_pos hwhite, ih]
      rfl

theorem split_of_gap {gap after : Text} (h : Gap after gap) (hafter : item? after = none) :
    split (gap ++ after) = (gap, after) := by
  rw [split_gap h, split_of_item?_eq_none hafter, List.append_nil]

end Trivia

end LoxReader
