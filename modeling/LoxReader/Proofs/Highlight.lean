import LoxReader.Proofs.Rows
import LoxReader.Proofs.Terminal
import LoxReader.Proofs.WellFormed

/-!
What a terminal shows of an excerpt: the characters of the span are underlined, bold and red, no
other character is, and the style is the default one wherever a row ends.
-/

namespace LoxReader

open Text

/-- The characters of a line with their offsets in the source. -/
def Source.linePlaces (s : Source) (n : Nat) : List (Nat × Char) :=
  ((s.line? n).map fun line => line.text.places line.start).getD []

namespace Style

def marked : Style := ⟨true, true, some 31⟩

end Style

namespace Span

/-- What an excerpt is to show of a line: its characters but for the terminator, a tab as four
blanks, the ones of the span marked and the others in the default style. -/
def lineCells (s : Span) (n : Nat) : List Cell :=
  ((s.source.linePlaces n).filter (!isLineTerminator ·.2)).flatMap fun place =>
    (cell place.2).map (⟨·, if s.covers place.1 then .marked else {}⟩)

end Span

def Cell.underlined (cells : List Cell) : Text := (cells.filter (·.style.underline)).map Cell.char

theorem Cell.underlined_map (t : Text) (style : Style) :
    underlined (t.map (⟨·, style⟩)) = if style.underline then t else [] := by
  induction t with
  | nil => simp [underlined]
  | cons c t ih =>
    unfold underlined at ih ⊢
    cases hline : style.underline with
    | false => simp [hline] at ih ⊢
    | true => simpa [hline] using ih

theorem Cell.underlined_append (cells cells' : List Cell) :
    underlined (cells ++ cells') = underlined cells ++ underlined cells' := by
  rw [underlined, List.filter_append, List.map_append]
  rfl

namespace Source

end Source

namespace Span

end Span

/-- What stands around the lines is not underlined, and a line feed among it has no style. -/
def Cell.IsFrame (c : Cell) : Prop := c.style.underline = false ∧ (c.char = '\n' → c.style = {})

def Fragment.IsFrame (f : Fragment) : Prop :=
  Attribute.underline ∉ f.attributes ∧ (f.attributes = [] ∨ '\n' ∉ f.text)

theorem Fragment.isFrame_plain (t : Text) : IsFrame (plain t) := ⟨by simp [plain], .inl rfl⟩

theorem Styled.isFrame_of_mem_cells {s : Styled} (h : ∀ f ∈ s, f.IsFrame) :
    ∀ c ∈ s.cells, c.IsFrame := by
  intro c hc
  obtain ⟨f, hf, hc⟩ := List.mem_flatMap.mp hc
  obtain ⟨d, hd, rfl⟩ := List.mem_map.mp hc
  obtain ⟨hline, hnewline⟩ := h f hf
  refine ⟨?_, ?_⟩
  · rw [Style.underline_ofAttributes]
    simpa using hline
  · rintro rfl
    have hplain := hnewline.resolve_right (absurd hd)
    rw [hplain]
    rfl

namespace Row

def isLine : Row → Bool
  | line _ _ => true
  | _ => false

/-- The cells of a row and of its end. -/
def cells (width : Nat) (row : Row) : List Cell :=
  Styled.cells (row.render width ++ [.plain ['\n']])

theorem isFrame_of_mem_gutter (width : Nat) (number : Option Nat) :
    ∀ f ∈ gutter width number, f.IsFrame := by
  have hbar : Fragment.IsFrame ⟨[.bold, .cyan], ['┃']⟩ := ⟨by decide, .inr (by decide)⟩
  cases number with
  | none => simp [gutter, Fragment.isFrame_plain, hbar]
  | some n =>
    have hdigits : '\n' ∉ ofNat n := not_mem_ofNat (by decide) n
    have hnumber (column : Nat) :
        Fragment.IsFrame ⟨[.bold, .cyan], List.replicate column ' ' ++ ofNat n⟩ :=
      ⟨by simp, .inr (by simp [hdigits])⟩
    simp [gutter, Fragment.isFrame_plain, hbar, hnumber]

theorem isFrame_of_mem_remarkOf (help : Text) : ∀ f ∈ remarkOf help, f.IsFrame := by
  have hlabel : Fragment.IsFrame ⟨[.bold], "help".toList⟩ := ⟨by decide, .inr (by decide)⟩
  simp only [remarkOf, List.forall_mem_cons]
  exact ⟨hlabel, Fragment.isFrame_plain _, by simp⟩

theorem isFrame_of_mem_render (width : Nat) {row : Row} (h : row.isLine = false) :
    ∀ f ∈ row.render width, f.IsFrame := by
  have hplain := Fragment.isFrame_plain
  cases row with
  | title origin start =>
    have harrow : Fragment.IsFrame ⟨[.bold, .cyan], "-->".toList⟩ := ⟨by decide, .inr (by decide)⟩
    simp only [render, List.forall_mem_cons]
    exact ⟨hplain _, harrow, hplain _, by simp⟩
  | blank => exact isFrame_of_mem_gutter width none
  | line n shown => cases h
  | carets indent count help =>
    have hcarets : Fragment.IsFrame ⟨[.bold, .red], List.replicate count '^'⟩ :=
      ⟨by simp, .inr (by simp)⟩
    simp only [render, List.forall_mem_append, List.forall_mem_cons]
    refine ⟨⟨isFrame_of_mem_gutter width none, hplain _, hcarets, by simp⟩, ?_⟩
    cases help with
    | none => simp
    | some help =>
      simp only [Option.elim, List.forall_mem_cons]
      exact ⟨hplain _, isFrame_of_mem_remarkOf help⟩
  | remark help =>
    have hsign : Fragment.IsFrame ⟨[.bold, .cyan], ['=']⟩ := ⟨by decide, .inr (by decide)⟩
    simp only [render, List.forall_mem_append, List.forall_mem_cons]
    exact ⟨⟨hplain _, hplain _, hsign, hplain _, by simp⟩, isFrame_of_mem_remarkOf help⟩

theorem isFrame_of_mem_cells (width : Nat) {rows : List Row}
    (h : ∀ row ∈ rows, row.isLine = false) : ∀ c ∈ rows.flatMap (cells width), c.IsFrame := by
  intro c hc
  obtain ⟨row, hrow, hc⟩ := List.mem_flatMap.mp hc
  have hend : ∀ f ∈ [Fragment.plain ['\n']], f.IsFrame := by simp [Fragment.isFrame_plain]
  have hrender := isFrame_of_mem_render width (h row hrow)
  exact Styled.isFrame_of_mem_cells (List.forall_mem_append.mpr ⟨hrender, hend⟩) c hc

end Row

namespace Span

theorem cells_mark {s : Span} {n : Nat} {line : Line} (h : s.source.line? n = some line) :
    (s.mark line.start line.text).cells = s.lineCells n := by
  have hcells (place : Nat × Char) : (s.fragment place).cells
      = (cell place.2).map (⟨·, if s.covers place.1 then .marked else {}⟩) := by
    rw [fragment, Fragment.cells]
    cases s.covers place.1 <;> rfl
  rw [s.mark_eq (mem_lines_of_line? h), Styled.cells, List.flatMap_map, lineCells,
    Source.linePlaces, h]
  exact congrArg (List.flatMap · _) (funext hcells)

/-- The rows below the row of a line, when that is the line of a span within one. -/
def caretRows (s : Span) (help : Option Text) (n : Nat) : List Row :=
  match s.source.line? n with
  | some line =>
    if s.isWithinLine && n == s.startLocation.line then [s.caretRow line.text help] else []
  | none => []

def remarkRows (s : Span) (help : Option Text) : List Row :=
  if s.isWithinLine then [] else (help.map Row.remark).toList

/-- The cells above the lines. -/
def headCells (s : Span) : List Cell :=
  [Row.title s.source.origin.display s.startLocation, .blank].flatMap (Row.cells s.numberWidth)

/-- The cells of the row of a line, with its number in front, and of the row of carets below it. -/
def blockCells (s : Span) (help : Option Text) (n : Nat) : List Cell :=
  (Row.gutter s.numberWidth (some n)).cells ++ s.lineCells n
    ++ ⟨'\n', {}⟩ :: (s.caretRows help n).flatMap (Row.cells s.numberWidth)

/-- The cells below the lines. -/
def footCells (s : Span) (help : Option Text) : List Cell :=
  (.blank :: s.remarkRows help).flatMap (Row.cells s.numberWidth)

theorem isLine_of_mem_caretRows {s : Span} {help : Option Text} {n : Nat} {row : Row}
    (h : row ∈ s.caretRows help n) : row.isLine = false := by
  unfold caretRows at h
  split at h
  · split at h
    · obtain rfl := List.mem_singleton.mp h
      rfl
    · cases h
  · cases h

theorem isLine_of_mem_remarkRows {s : Span} {help : Option Text} {row : Row}
    (h : row ∈ s.remarkRows help) : row.isLine = false := by
  unfold remarkRows at h
  split at h
  · cases h
  · obtain ⟨t, -, rfl⟩ := List.mem_map.mp (Option.toList_map .. ▸ h)
    rfl

theorem cells_line {s : Span} {n : Nat} {line : Line} (h : s.source.line? n = some line) :
    (Row.line n (s.mark line.start line.text)).cells s.numberWidth
      = (Row.gutter s.numberWidth (some n)).cells ++ s.lineCells n ++ [⟨'\n', {}⟩] := by
  rw [Row.cells, Styled.cells_append, Row.render, Styled.cells_append, cells_mark h]
  rfl

theorem cells_lineRows {s : Span} {help : Option Text} {n : Nat} (hleast : 0 < n)
    (hmost : n ≤ s.source.lineCount) :
    (s.lineRows help n).flatMap (Row.cells s.numberWidth) = s.blockCells help n := by
  obtain ⟨line, hline⟩ := Source.line?_of_le hleast hmost
  rw [lineRows, blockCells, caretRows, hline, List.flatMap_cons, cells_line hline,
    List.append_assoc]
  rfl

theorem cells_renderExcerpt_eq (s : Span) (help : Option Text) :
    (s.renderExcerpt help).cells = (s.excerpt help).flatMap (Row.cells s.numberWidth) := by
  rw [renderExcerpt_eq, Styled.cells, List.flatMap_assoc]
  rfl

theorem cells_renderExcerpt {s : Span} (h : s.WellFormed) (help : Option Text) :
    (s.renderExcerpt help).cells
      = s.headCells
        ++ (List.range' s.firstShown (s.lastShown + 1 - s.firstShown)).flatMap (s.blockCells help)
        ++ s.footCells help := by
  obtain ⟨hleast, -, -, -, hmost⟩ := shown_bounds h
  have hlines : ∀ n ∈ List.range' s.firstShown (s.lastShown + 1 - s.firstShown),
      (s.lineRows help n).flatMap (Row.cells s.numberWidth) = s.blockCells help n := by
    intro n hn
    obtain ⟨hlow, hhigh⟩ := List.mem_range'_1.mp hn
    exact cells_lineRows (by omega) (by omega)
  have hshown := congrArg List.flatten (List.map_congr_left hlines)
  rw [← List.flatMap_def, ← List.flatMap_def, ← List.flatMap_assoc] at hshown
  rw [cells_renderExcerpt_eq, ← hshown, headCells, footCells, ← List.flatMap_append,
    ← List.flatMap_append]
  simp [excerpt, remarkRows]

section

variable (s : Span) (help : Option Text)

theorem isFrame_head : ∀ c ∈ s.headCells, c.IsFrame :=
  Row.isFrame_of_mem_cells _ (by simp [Row.isLine])

theorem isFrame_gutter (n : Nat) : ∀ c ∈ (Row.gutter s.numberWidth (some n)).cells, c.IsFrame :=
  Styled.isFrame_of_mem_cells (Row.isFrame_of_mem_gutter _ _)

theorem isFrame_carets (n : Nat) :
    ∀ c ∈ ⟨'\n', {}⟩ :: (s.caretRows help n).flatMap (Row.cells s.numberWidth), c.IsFrame :=
  List.forall_mem_cons.mpr ⟨⟨rfl, fun _ => rfl⟩,
    Row.isFrame_of_mem_cells _ fun _ => isLine_of_mem_caretRows⟩

theorem isFrame_foot : ∀ c ∈ s.footCells help, c.IsFrame :=
  Row.isFrame_of_mem_cells _
    (List.forall_mem_cons.mpr ⟨rfl, fun _ => isLine_of_mem_remarkRows⟩)

end

end Span

end LoxReader
