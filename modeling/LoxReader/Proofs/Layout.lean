import LoxReader.Proofs.Carets
import Mathlib.Data.List.Forall2

/-!
The rows of an excerpt as they stand on a terminal: where the span starts, its lines with one more
on each side, every one behind its number and the bar, the carets below the line of a span within
one, and the help below a longer span.
-/

namespace LoxReader

open Text

namespace Text

/-- A text with four blanks for each tab. -/
def untab : Text → Text
  | [] => []
  | c :: t => if c = '\t' then "    ".toList ++ untab t else c :: untab t

theorem flatMap_cell (t : Text) : t.flatMap cell = t.untab := by
  induction t with
  | nil => rfl
  | cons c t ih =>
    rw [List.flatMap_cons, ih, untab]
    by_cases hc : c = '\t' <;> simp [cell, hc]

theorem splitOn_rows {rows : List Text} (h : ∀ row ∈ rows, '\n' ∉ row) :
    (rows.flatMap (· ++ ['\n'])).splitOn '\n' = rows ++ [[]] := by
  induction rows with
  | nil => exact List.splitOn_nil _
  | cons row rows ih =>
    obtain ⟨hrow, hrows⟩ := List.forall_mem_cons.mp h
    rw [List.flatMap_cons, List.append_assoc, List.singleton_append,
      List.splitOn_append_cons_self_of_not_mem hrow, ih hrows]
    rfl

end Text

def Span.rowText (s : Span) (row : Row) : Text := (row.render s.numberWidth).text

namespace Layout

/-- A row with its first bar in the column `column`. -/
structure Barred (column : Nat) (front shown row : Text) : Prop where
  row : row = front ++ '┃' :: shown
  column : front.length = column
  first : '┃' ∉ front

/-- The digits of a number, with no zero in front of others. -/
structure Decimal (n : Nat) (digits : Text) : Prop where
  filled : digits ≠ []
  digit : ∀ c ∈ digits, c.isDigit
  lead : 1 < digits.length → digits.head? ≠ some '0'
  value : Nat.ofDigitChars 10 digits 0 = n

/-- The row that says where the span starts. -/
inductive Title (s : Span) : Text → Prop
  | mk {front line column : Text} : Decimal s.startLocation.line line →
      Decimal s.startLocation.column column →
      Title s (front ++ s.source.origin.display ++ ':' :: line ++ ':' :: column)

def Blank (column : Nat) (row : Text) : Prop := Barred column (List.replicate column ' ') [' '] row

/-- The row of the line `n`. -/
inductive Numbered (s : Source) (column n : Nat) : Text → Prop
  | mk {blanks : Nat} {digits body stop row : Text} :
      Barred column (List.replicate blanks ' ' ++ digits ++ [' ']) (' ' :: body.untab) row →
      Decimal n digits →
      s.lineText? n = some (body ++ stop) → IsOpenLine body → (stop = [] ∨ IsLineEnd stop) →
      Numbered s column n row

def Carets (help : Option Text) (column : Nat) (row : Text) : Prop :=
  ∃ indent count, Barred column (List.replicate column ' ')
    (' ' :: (List.replicate indent ' ' ++ List.replicate (count + 1) '^'
      ++ help.elim [] (" help: ".toList ++ ·))) row

def Remark (help row : Text) : Prop := ∃ front, row = front ++ "help: ".toList ++ help

/-- The rows of the line `n`: its own one, and the one of the carets below the only line of a
span. -/
inductive Block (s : Span) (help : Option Text) (column n : Nat) : List Text → Prop
  | line {row : Text} : Numbered s.source column n row →
      (s.startLocation.line = s.stopLocation.line → n ≠ s.startLocation.line) →
      Block s help column n [row]
  | marked {row carets : Text} : Numbered s.source column n row → Carets help column carets →
      s.startLocation.line = s.stopLocation.line → n = s.startLocation.line →
      Block s help column n [row, carets]

inductive Excerpt (s : Span) (help : Option Text) : List Text → Prop
  | mk {column : Nat} {title above below : Text} {blocks : List (List Text)}
      {remarks : List Text} (first last : Nat) :
      first = max 1 (s.startLocation.line - 1) →
      last = min s.source.lineCount (s.stopLocation.line + 1) →
      Title s title → Blank column above →
      List.Forall₂ (Block s help column) (List.range' first (last + 1 - first)) blocks →
      Blank column below →
      List.Forall₂ Remark (if s.startLocation.line < s.stopLocation.line then help.toList else [])
        remarks →
      Excerpt s help (title :: above :: blocks.flatten ++ below :: remarks)

variable {s : Span} {help : Option Text} {width n : Nat}

theorem bar_not_mem_replicate (count : Nat) : '┃' ∉ List.replicate count ' ' :=
  fun h => absurd (List.eq_of_mem_replicate h) (by decide)

theorem barred_gutter (width : Nat) (t : Text) :
    Barred (width + 1) (List.replicate (width + 1) ' ') (' ' :: t)
      ((Row.gutter width none).text ++ t) := by
  refine ⟨?_, List.length_replicate, bar_not_mem_replicate _⟩
  rw [Row.text_gutter_none, List.replicate_succ', List.append_assoc, List.append_assoc]
  rfl

theorem blank (width : Nat) : Blank (width + 1) (Row.blank.render width).text := by
  have hrow := barred_gutter width []
  rwa [List.append_nil] at hrow

theorem head?_ofNat {n : Nat} (h : 0 < n) : (ofNat n).head? ≠ some '0' := by
  -- The digits of a longer number begin as those of a tenth of it do.
  induction n using Nat.strongRecOn with
  | ind n ih =>
    rw [ofNat, Nat.toDigits_eq_if (by decide)]
    split
    · next hone =>
      have hdigit : ∀ d < 10, 0 < d → Nat.digitChar d ≠ '0' := by decide
      simpa using hdigit n hone h
    · next hmore =>
      rw [List.head?_append_of_ne_nil _ Nat.toDigits_ne_nil]
      exact ih (n / 10) (by omega) (by omega)

theorem decimal_ofNat (n : Nat) : Decimal n (ofNat n) where
  filled := Nat.toDigits_ne_nil
  digit c hc := Nat.isDigit_of_mem_toDigits (by decide) (by decide) hc
  lead hlength := by
    refine head?_ofNat (Nat.pos_of_ne_zero ?_)
    rintro rfl
    exact absurd hlength (by decide)
  value := Nat.ofDigitChars_ten_toDigits

theorem title (width : Nat) :
    Title s ((Row.title s.source.origin.display s.startLocation).render width).text := by
  have hrow : Title s (List.replicate width ' ' ++ "--> ".toList ++ s.source.origin.display
      ++ ':' :: ofNat s.startLocation.line ++ ':' :: ofNat s.startLocation.column) :=
    .mk (decimal_ofNat _) (decimal_ofNat _)
  rw [Row.text_render_title, Location.display]
  simpa only [List.append_assoc, List.cons_append] using hrow

theorem numbered {line : Line} (hline : s.source.line? n = some line)
    (hwidth : (ofNat n).length ≤ width) :
    Numbered s.source (width + 1) n
      ((Row.line n (s.mark line.start line.text)).render width).text := by
  have hmem := mem_lines_of_line? hline
  obtain ⟨body, stop, hparts, hbody, hstop⟩ := exists_parts_of_mem_lines hmem
  have hnumber : '┃' ∉ ofNat n := not_mem_ofNat (by decide) n
  have hbarred : Barred (width + 1)
      (List.replicate (width - (ofNat n).length) ' ' ++ ofNat n ++ [' ']) (' ' :: body.untab)
      ((Row.line n (s.mark line.start line.text)).render width).text := by
    refine ⟨?_, ?_, by simp [hnumber]⟩
    · rw [Row.text_render_line, Row.text_gutter_some, Span.text_mark _ hmem, hparts,
        filter_of_parts hbody hstop, flatMap_cell]
      simp
    · simp only [List.length_append, List.length_replicate, List.length_singleton]
      omega
  have hline : s.source.lineText? n = some (body ++ stop) := by
    rw [Source.lineText?, hline, Option.map_some, hparts]
  exact .mk hbarred (decimal_ofNat n) hline hbody hstop

theorem carets (line : Text) :
    Carets help (width + 1) ((s.caretRow line help).render width).text := by
  obtain ⟨count, hcount⟩ := Nat.exists_eq_add_of_le' (Nat.le_max_left 1 (columns s.text))
  refine ⟨columns (line.take (s.startLocation.column - 1)), count, ?_⟩
  rw [Span.caretRow, hcount, Row.text_render_carets]
  simpa only [List.append_assoc] using barred_gutter width _

theorem block (h : s.WellFormed)
    (hn : n ∈ List.range' s.firstShown (s.lastShown + 1 - s.firstShown)) :
    Block s help (s.numberWidth + 1) n ((s.lineRows help n).map s.rowText) := by
  obtain ⟨hleast, -, -, -, hmost⟩ := Span.shown_bounds h
  obtain ⟨hlow, hhigh⟩ := List.mem_range'_1.mp hn
  have hlast : n ≤ s.lastShown := by omega
  obtain ⟨line, hline⟩ := Source.line?_of_le (Nat.le_trans hleast hlow) (Nat.le_trans hlast hmost)
  have hrow := numbered hline (length_ofNat_le hlast)
  by_cases hmarked : s.isWithinLine ∧ n = s.startLocation.line
  · obtain ⟨hwithin, rfl⟩ := hmarked
    have hrows : s.lineRows help s.startLocation.line = [.line s.startLocation.line
        (s.mark line.start line.text), s.caretRow line.text help] := by
      simp [Span.lineRows, hline, hwithin]
    rw [hrows]
    exact .marked hrow (carets line.text) (beq_iff_eq.mp hwithin) rfl
  · have hrows : s.lineRows help n = [.line n (s.mark line.start line.text)] := by
      simpa [Span.lineRows, hline] using hmarked
    rw [hrows]
    exact .line hrow fun hsame hline => hmarked ⟨beq_iff_eq.mpr hsame, hline⟩

theorem remarks (h : s.WellFormed) :
    List.Forall₂ Remark (if s.startLocation.line < s.stopLocation.line then help.toList else [])
      ((if s.isWithinLine then [] else (help.map Row.remark).toList).map s.rowText) := by
  obtain ⟨-, -, hordered, -, -⟩ := Span.shown_bounds h
  by_cases hwithin : s.isWithinLine
  · rw [if_pos hwithin, if_neg (by rw [beq_iff_eq.mp hwithin]; exact Nat.lt_irrefl _)]
    exact .nil
  · have hapart : s.startLocation.line ≠ s.stopLocation.line := fun hsame =>
      hwithin (beq_iff_eq.mpr hsame)
    rw [if_neg hwithin, if_pos (Nat.lt_of_le_of_ne hordered hapart)]
    cases help with
    | none => exact .nil
    | some help =>
      refine .cons ⟨List.replicate s.numberWidth ' ' ++ " = ".toList, ?_⟩ .nil
      have hsign : " = help: ".toList = " = ".toList ++ "help: ".toList := rfl
      rw [Span.rowText, Row.text_render_remark, hsign]
      simp only [List.append_assoc]

theorem excerpt (h : s.WellFormed) (help : Option Text) :
    Excerpt s help ((s.excerpt help).map s.rowText) := by
  have hblocks : List.Forall₂ (Block s help (s.numberWidth + 1))
      (List.range' s.firstShown (s.lastShown + 1 - s.firstShown))
      ((List.range' s.firstShown (s.lastShown + 1 - s.firstShown)).map
        fun n => (s.lineRows help n).map s.rowText) := by
    rw [List.forall₂_map_right_iff, List.forall₂_same]
    exact fun n hn => block h hn
  have hlaid := Excerpt.mk _ _ rfl (Nat.min_comm ..) (title s.numberWidth) (blank s.numberWidth) hblocks
    (blank s.numberWidth) (remarks h)
  rw [← List.flatMap_def, ← List.map_flatMap] at hlaid
  simpa [Span.excerpt, Span.rowText] using hlaid

end Layout

namespace Span

theorem newline_not_mem_rows {s : Span} {help : Option Text}
    (horigin : '\n' ∉ s.source.origin.display) (hhelp : ∀ t ∈ help, '\n' ∉ t) :
    ∀ row ∈ (s.excerpt help).map s.rowText, '\n' ∉ row := by
  rw [List.forall_mem_map]
  intro row hrow hmem
  have hcontent := Row.mem_content_of_mem_render (by decide) (by decide) hmem
  rcases mem_content_of_mem_excerpt (by decide) hrow hcontent with h | ⟨-, hterm⟩ | ⟨t, ht, h⟩
  · exact horigin h
  · exact absurd hterm (by decide)
  · exact hhelp t ht h

theorem renderExcerpt_layout (s : Span) (help : Option Text) (h : s.WellFormed)
    (hsource : '\x1B' ∉ s.source.text)
    (horigin : '\x1B' ∉ s.source.origin.display ∧ '\n' ∉ s.source.origin.display)
    (hhelp : ∀ t ∈ help, '\x1B' ∉ t ∧ '\n' ∉ t) :
    let shown := (Terminal.run {} (s.renderExcerpt help).encode).1.map Cell.char
    ∃ rows, shown.splitOn '\n' = rows ++ [[]] ∧ Layout.Excerpt s help rows := by
  intro shown
  have hescape := escape_not_mem_text_renderExcerpt hsource horigin.1 fun t ht => (hhelp t ht).1
  have hrows := newline_not_mem_rows horigin.2 fun t ht => (hhelp t ht).2
  refine ⟨_, ?_, Layout.excerpt h help⟩
  have htext : shown = (s.renderExcerpt help).text := by
    rw [← Styled.map_char_cells]
    exact congrArg (·.1.map Cell.char) (Terminal.run_encode hescape)
  rw [htext, text_renderExcerpt, ← splitOn_rows hrows, List.flatMap_map]
  rfl

theorem renderExcerpt_layout_of_two_lines :
    let source : Source :=
      { number := 0, origin := .synthesized [], text := "a\n\tb\r\nc\u2028".toList }
    let s : Span := ⟨source, 3, 7⟩
    let help : Option Text := some "h".toList
    s.WellFormed ∧ '\x1B' ∉ source.text
      ∧ ('\x1B' ∉ source.origin.display ∧ '\n' ∉ source.origin.display)
      ∧ (∀ t ∈ help, '\x1B' ∉ t ∧ '\n' ∉ t)
      ∧ let shown := (Terminal.run {} (s.renderExcerpt help).encode).1.map Cell.char
        ∃ rows, shown.splitOn '\n' = rows ++ [[]] ∧ Layout.Excerpt s help rows := by
  intro source s help
  have hformed : s.WellFormed := ⟨by decide, by decide, by decide⟩
  have hsource : '\x1B' ∉ source.text := by decide
  have horigin : '\x1B' ∉ source.origin.display ∧ '\n' ∉ source.origin.display := by decide
  have hhelp : ∀ t ∈ help, '\x1B' ∉ t ∧ '\n' ∉ t := by decide
  exact ⟨hformed, hsource, horigin, hhelp,
    renderExcerpt_layout s help hformed hsource horigin hhelp⟩

end Span

end LoxReader
