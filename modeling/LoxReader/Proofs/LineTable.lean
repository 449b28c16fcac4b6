import LoxReader.Source.Lookup
import LoxReader.Source.Position

/-!
The line table in closed form: a line starts behind the lines in front of it, and the line of an
offset is the one that holds it.
-/

namespace LoxReader

open Text

namespace Text

theorem splitAt?_append_left {s : Text} {n : Nat} (h : n ≤ byteLength s) (t : Text) :
    splitAt? n (s ++ t) = (splitAt? n s).map fun (before, after) => (before, after ++ t) := by
  induction s generalizing n with
  | nil =>
    have hbehind : n = 0 := Nat.le_zero.1 h
    subst hbehind
    simp
  | cons c s ih =>
    cases n with
    | zero => simp
    | succ n =>
      rw [byteLength_cons] at h
      rw [List.cons_append, splitAt?, splitAt?]
      split
      · rw [ih (by omega), Option.map_map, Option.map_map]
        rfl
      · rfl

theorem le_of_isBoundary {t : Text} {n : Nat} (h : isBoundary t n) : n ≤ byteLength t := by
  obtain ⟨before, after, rfl, rfl⟩ := isBoundary_iff.1 h
  simp

theorem length_le_byteLength (t : Text) : t.length ≤ byteLength t := by
  induction t with
  | nil => exact Nat.le_refl _
  | cons c t ih =>
    have hpositive := c.utf8Size_pos
    rw [List.length_cons, byteLength_cons]
    omega

theorem length_consLine_le (c : Char) (ls : List Text) :
    (consLine c ls).length ≤ ls.length + 1 := by
  cases ls with
  | nil => exact Nat.le_refl _
  | cons line ls =>
    rw [consLine]
    split
    · exact Nat.le_refl _
    · exact Nat.le_succ _

theorem length_lines_le (t : Text) : (lines t).length ≤ byteLength t + 1 := by
  induction t with
  | nil => exact Nat.le_refl _
  | cons c t ih =>
    have hpositive := c.utf8Size_pos
    have hmore := length_consLine_le c (lines t)
    rw [lines_cons, byteLength_cons]
    omega

end Text

namespace Line

theorem getElem?_place (start : Nat) (ls : List Text) (n : Nat) :
    (place start ls.flatten ls)[n]? = ls[n]?.map fun text =>
      ⟨start + byteLength (ls.take n).flatten, text, (ls.drop n).flatten⟩ := by
  induction ls generalizing start n with
  | nil => simp [place]
  | cons line ls ih =>
    cases n with
    | zero => simp [place]
    | succ n =>
      have hshifted := ih (start + byteLength line) n
      simpa [place, Nat.add_assoc] using hshifted

theorem getElem?_table (t : Text) (n : Nat) :
    (table t)[n]? = t.lines[n]?.map fun text =>
      ⟨byteLength (t.lines.take n).flatten, text, (t.lines.drop n).flatten⟩ := by
  have hparts := flatten_lines t
  have hplaced := getElem?_place 0 t.lines n
  rw [hparts] at hplaced
  simpa [table] using hplaced

theorem length_table (t : Text) : (table t).length = t.lines.length := by
  have htexts := congrArg List.length (map_text_table t)
  simpa using htexts

end Line

namespace Source

theorem slice?_of_parts {s : Source} {before x after : Text} (h : s.text = before ++ x ++ after) :
    s.slice? (byteLength before) (byteLength (before ++ x)) = some x := by
  rw [slice?_eq, byteLength_append, if_neg (by omega), Nat.add_sub_cancel_left,
    slice?_eq_some_iff]
  exact ⟨before, after, h, rfl, rfl⟩

theorem text_of_parts {s : Source} {before x after : Text} (h : s.text = before ++ x ++ after) :
    Span.text ⟨s, byteLength before, byteLength (before ++ x)⟩ = x := by
  rw [Span.text, slice?_of_parts h]
  rfl

theorem lineCount_eq (s : Source) : s.lineCount = s.text.lines.length := by
  rw [lineCount, s.lines_eq, List.size_toArray, Line.length_table]

theorem map_line?_range' {α : Type} (f : Line → α) (s : Source) :
    (List.range' 1 s.lineCount).map (fun n => (s.line? n).map f)
      = ((Line.table s.text).map f).map some := by
  rw [lineCount_eq, ← Line.length_table]
  refine List.ext_getElem (by simp) fun n _ hinside => ?_
  rw [List.length_map, List.length_map] at hinside
  rw [List.getElem_map, List.getElem_range', List.getElem_map, List.getElem_map, Nat.one_mul,
    Nat.add_comm, line?_eq, List.getElem?_eq_getElem hinside, Option.map_some]

theorem line?_eq_none_iff {s : Source} {n : Nat} : s.line? n = none ↔ n = 0 ∨ s.lineCount < n := by
  cases n with
  | zero => simp [line?]
  | succ n =>
    rw [line?, Array.getElem?_eq_none_iff]
    show s.lineCount ≤ n ↔ _
    omega

theorem line?_eq_some_iff {s : Source} {n : Nat} {line : Line} :
    s.line? (n + 1) = some line ↔
      ∃ text, s.text.lines[n]? = some text
        ∧ line = ⟨byteLength (s.text.lines.take n).flatten, text,
          (s.text.lines.drop n).flatten⟩ := by
  rw [line?_eq, Line.getElem?_table, Option.map_eq_some_iff]
  constructor
  · rintro ⟨text, hfound, rfl⟩
    exact ⟨text, hfound, rfl⟩
  · rintro ⟨text, hfound, rfl⟩
    exact ⟨text, hfound, rfl⟩

theorem text_of_line? {s : Source} {n : Nat} {line : Line} (h : s.line? n = some line) :
    ∃ before after, s.text = before ++ line.text ++ after ∧ line.start = byteLength before
      ∧ line.rest = line.text ++ after := by
  cases n with
  | zero => simp [line?] at h
  | succ n =>
    obtain ⟨text, hfound, rfl⟩ := line?_eq_some_iff.1 h
    have hinside : n < s.text.lines.length := (List.getElem?_eq_some_iff.1 hfound).1
    have hhere : s.text.lines.drop n = text :: s.text.lines.drop (n + 1) := by
      rw [List.drop_eq_getElem_cons hinside, (List.getElem?_eq_some_iff.1 hfound).2]
    have hwhole := flatten_lines s.text
    rw [← List.take_append_drop n s.text.lines, List.flatten_append, hhere, List.flatten_cons]
      at hwhole
    refine ⟨(s.text.lines.take n).flatten, (s.text.lines.drop (n + 1)).flatten, ?_, rfl, ?_⟩
    · simp [hwhole]
    · simp [hhere]

theorem lineStart?_succ {s : Source} {n : Nat} {line : Line} (h : s.line? n = some line) :
    (s.lineStart? (n + 1)).getD s.length = line.start + byteLength line.text := by
  cases n with
  | zero => simp [line?] at h
  | succ n =>
    obtain ⟨text, hfound, rfl⟩ := line?_eq_some_iff.1 h
    have hfront : s.text.lines.take (n + 1) = s.text.lines.take n ++ [text] := by
      rw [List.take_add_one, hfound, Option.toList_some]
    cases hnext : s.line? (n + 2) with
    | some below =>
      obtain ⟨text', _, rfl⟩ := line?_eq_some_iff.1 hnext
      simp [lineStart?, hnext, hfront]
    | none =>
      -- Nothing is left behind the last line, so it ends where the text does.
      have hlast : s.text.lines[n + 1]? = none := by
        simpa [line?_eq, Line.getElem?_table] using hnext
      have hall : s.text.lines.take (n + 1) = s.text.lines := by
        rw [List.take_of_length_le (List.getElem?_eq_none_iff.1 hlast)]
      have hwhole := flatten_lines s.text
      rw [← hall, hfront] at hwhole
      have hsizes := congrArg byteLength hwhole
      simp only [List.flatten_append, List.flatten_cons, List.flatten_nil, List.append_nil,
        byteLength_append] at hsizes
      simp [lineStart?, hnext, length, ← hsizes]

theorem slice?_of_line? {s : Source} {n : Nat} {line : Line} (h : s.line? n = some line) :
    s.slice? line.start ((s.lineStart? (n + 1)).getD s.length) = some line.text := by
  obtain ⟨before, after, hwhole, hstart, _⟩ := text_of_line? h
  rw [lineStart?_succ h, hstart, ← byteLength_append]
  exact slice?_of_parts hwhole

theorem byteLength_line_le {s : Source} {n : Nat} {line : Line} (h : s.line? n = some line) :
    line.start + byteLength line.text ≤ s.length := by
  obtain ⟨before, after, hwhole, hstart, _⟩ := text_of_line? h
  rw [length, hwhole, byteLength_append, byteLength_append, hstart]
  omega

theorem line?_of_le {s : Source} {n : Nat} (hleast : 0 < n) (hmost : n ≤ s.lineCount) :
    ∃ line, s.line? n = some line := by
  rw [← Option.ne_none_iff_exists', Ne, line?_eq_none_iff]
  omega

theorem lineNumber_pos (s : Source) (index : Nat) : 0 < s.lineNumber index := by
  obtain ⟨line, hfound, _⟩ := s.line?_lineNumber index
  cases hnumber : s.lineNumber index with
  | zero => simp [hnumber, line?] at hfound
  | succ n => omega

theorem start_le_iff {s : Source} {index n : Nat} {line : Line} (h : s.line? (n + 1) = some line) :
    line.start ≤ index ↔ n < s.lineNumber index := by
  rw [line?_eq, List.getElem?_eq_some_iff] at h
  obtain ⟨hinside, rfl⟩ := h
  have hsorted : (Line.table s.text).Pairwise fun a b =>
      decide (b.start ≤ index) → decide (a.start ≤ index) := by
    refine (Line.pairwise_place ..).imp fun {a b} horder => ?_
    simp only [decide_eq_true_eq]
    exact Nat.le_trans horder
  -- The number of a line counts the lines that start no later.
  have holds := getElem_eq_decide_lt_takeWhile hsorted n hinside
  rw [← lineNumber_eq] at holds
  simpa using holds

theorem lineNumber_mono {s : Source} {i j : Nat} (h : i ≤ j) : s.lineNumber i ≤ s.lineNumber j := by
  obtain ⟨line, hfound, _, habove⟩ := s.line?_lineNumber i
  obtain ⟨n, hnumber⟩ := Nat.exists_eq_add_one_of_ne_zero (Nat.ne_of_gt (s.lineNumber_pos i))
  rw [hnumber] at hfound ⊢
  exact (start_le_iff hfound).1 (Nat.le_trans habove h)

theorem lt_of_lineStart? {s : Source} {index start : Nat}
    (h : s.lineStart? (s.lineNumber index + 1) = some start) : index < start := by
  obtain ⟨line, hfound, rfl⟩ := Option.map_eq_some_iff.1 h
  have hlater : ¬line.start ≤ index := by
    rw [start_le_iff hfound]
    exact Nat.lt_irrefl _
  exact Nat.lt_of_not_le hlater

theorem lineNumber_le (s : Source) (index : Nat) : s.lineNumber index ≤ s.lineCount := by
  rw [lineNumber_eq, lineCount_eq, ← Line.length_table]
  exact (List.takeWhile_sublist _).length_le

theorem lineCount_le (s : Source) : s.lineCount ≤ s.length + 1 := by
  rw [lineCount_eq]
  exact length_lines_le s.text

theorem le_lineCount_of_line? {s : Source} {n : Nat} {line : Line} (h : s.line? n = some line) :
    n ≤ s.lineCount := by
  refine Nat.le_of_not_lt fun hbeyond => ?_
  rw [line?_eq_none_iff.2 (.inr hbeyond)] at h
  cases h

theorem line_of_isBoundary {s : Source} {index : Nat} (h : isBoundary s.text index) :
    ∃ line before front back after, s.line? (s.lineNumber index) = some line
      ∧ s.text = before ++ (front ++ back) ++ after ∧ line.text = front ++ back
      ∧ line.start = byteLength before ∧ index = line.start + byteLength front := by
  obtain ⟨line, hfound, _, habove⟩ := s.line?_lineNumber index
  obtain ⟨before, after, hwhole, hstart, _⟩ := text_of_line? hfound
  have hbelow : index ≤ line.start + byteLength line.text := by
    have hstop := lineStart?_succ hfound
    cases hnext : s.lineStart? (s.lineNumber index + 1) with
    | some start' =>
      rw [hnext, Option.getD_some] at hstop
      exact hstop ▸ Nat.le_of_lt (lt_of_lineStart? hnext)
    | none =>
      rw [hnext, Option.getD_none] at hstop
      exact hstop ▸ le_of_isBoundary h
  obtain ⟨parts, hdivided⟩ := Option.isSome_iff_exists.1 h
  rw [hwhole, List.append_assoc, splitAt?_append (by omega), Option.map_eq_some_iff] at hdivided
  obtain ⟨_, hdivided, _⟩ := hdivided
  rw [splitAt?_append_left (by omega), Option.map_eq_some_iff] at hdivided
  obtain ⟨⟨front, back⟩, hdivided, _⟩ := hdivided
  obtain ⟨hinside, hsize⟩ := splitAt?_eq_some_iff.1 hdivided
  exact ⟨line, before, front, back, after, hfound, by rw [hwhole, hinside], hinside, hstart,
    by omega⟩

theorem location?_of_line {s : Source} {index : Nat} {line : Line} {front back : Text}
    (hfound : s.line? (s.lineNumber index) = some line) (hparts : line.text = front ++ back)
    (hplace : index = line.start + byteLength front) :
    s.location? index = some ⟨s.lineNumber index, front.length + 1⟩ := by
  have hinside : index - line.start = byteLength front := by omega
  simp [location?, hfound, hparts, hinside, splitAt?_byteLength_append]

theorem isBoundary_of_location? {s : Source} {index : Nat} {place : Location}
    (h : s.location? index = some place) : isBoundary s.text index := by
  obtain ⟨line, hfound, _, habove⟩ := s.line?_lineNumber index
  obtain ⟨before, after, hwhole, hstart, _⟩ := text_of_line? hfound
  simp only [location?, hfound, Option.bind_eq_bind, Option.bind_some, Option.bind_eq_some_iff,
    Prod.exists] at h
  obtain ⟨front, back, hdivided, _⟩ := h
  obtain ⟨hinside, hsize⟩ := splitAt?_eq_some_iff.1 hdivided
  refine isBoundary_iff.2 ⟨before ++ front, back ++ after, by simp [hwhole, hinside], ?_⟩
  rw [byteLength_append, hsize, ← hstart]
  omega

end Source

end LoxReader
