import LoxReader.Proofs.Checked.Source
import LoxReader.Proofs.Opening

/-!
Excerpts and diagnostics as a machine writes them. For a well-formed span of a source that is short
enough they are written to the end, and they are the ones of the report.
-/

namespace LoxReader

open Text

namespace Checked

/-- The characters of a line, `offset` bytes behind where it starts. -/
def mark (s : Span) (start : Nat) : Nat → Text → Checked Styled
  | _, [] => some []
  | offset, c :: t =>
    if isLineTerminator c then some []
    else do
      let index ← add start offset
      let attributes := if s.start ≤ index ∧ index < s.stop then [.underline, .bold, .red] else []
      let marked ← mark s start (offset + c.utf8Size) t
      pure (⟨attributes, cell c⟩ :: marked)

def markLine (s : Span) (number : Nat) : Checked Styled := do
  let line ← lineText s.source number
  match line, s.source.lineStart? number with
  | some line, some start => mark s start 0 line
  | _, _ => pure []

def blanks (t : Text) : Text := t.flatMap fun c => if c == '\t' then cell '\t' else [' ']

def widths (t : Text) : List Nat := t.map fun c => if c == '\t' then (cell '\t').length else 1

def caretRow (s : Span) (number : Nat) (help : Option Text) : Checked Row := do
  let line ← lineText s.source number
  let start ← location s.startPosition
  let before ← sub start.column 1
  let indent ← allocate (blanks ((line.getD []).take before))
  let inside ← text s
  let width ← sum (widths inside)
  let carets ← allocate (List.replicate (max 1 width) '^')
  pure (.carets indent.length carets.length help)

def lineRows (s : Span) (start stop : Location) (help : Option Text) (number : Nat) :
    Checked (List Row) := do
  let marked ← markLine s number
  if start.line = stop.line ∧ number = start.line then
    let carets ← caretRow s number help
    pure [.line number marked, carets]
  else pure [.line number marked]

def excerpt (s : Span) (help : Option Text) : Checked Styled := do
  let start ← location s.startPosition
  let stop ← location s.stopPosition
  let below ← add stop.line 1
  let first := max 1 (start.line - 1)
  let last := min below s.source.lineCount
  let rows ← (List.range' first (last + 1 - first)).mapM (lineRows s start stop help)
  let remark := if start.line = stop.line then [] else (help.map Row.remark).toList
  let rows := .title s.source.origin.display start :: .blank :: rows.flatten ++ [.blank] ++ remark
  pure (rows.flatMap fun row => row.render (ofNat last).length ++ [.plain ['\n']])

def opening (s : Span) (length : Nat) : Checked Span := do
  let stop ← add s.start length
  pure ((s.source.span s.start stop).toOption.getD s)

def report (title : Text) (shown : Span) (help : Text) : Checked Styled := do
  let rows ← excerpt shown (some help)
  pure ((Message.mk .error title).render ++ [.plain ['\n']] ++ rows)

def render (d : Diagnostic) : Checked Styled :=
  match d with
  | .invalidToken s => do
    let inside ← text s
    let title ← allocate ("found an invalid token `".toList ++ inside ++ ['`'])
    report title s (Diagnostic.invalidHelp inside).toList
  | .unterminatedString s => do
    let shown ← opening s 1
    report d.title shown d.help.toList
  | .unterminatedComment s => do
    let shown ← opening s 2
    report d.title shown d.help.toList

theorem columns_le (t : Text) : columns t ≤ 4 * t.length := by
  induction t with
  | nil => exact Nat.le_refl _
  | cons c t ih =>
    rw [columns_cons, List.length_cons]
    split <;> omega

theorem length_blanks (t : Text) : (blanks t).length = columns t := by
  induction t with
  | nil => rfl
  | cons c t ih =>
    rw [columns_cons, ← ih, blanks, List.flatMap_cons, List.length_append]
    split <;> rfl

theorem byteLength_blanks (t : Text) : byteLength (blanks t) = columns t := by
  induction t with
  | nil => rfl
  | cons c t ih =>
    rw [columns_cons, ← ih, blanks, List.flatMap_cons, byteLength_append]
    split <;> rfl

theorem widths_cons (c : Char) (t : Text) : widths (c :: t) = (cell c).length :: widths t := by
  rw [widths, List.map_cons, length_cell c]
  rfl

theorem foldlM_widths {start : Nat} {t : Text} (hroom : start + columns t < 2 ^ 64) :
    (widths t).foldlM add start = some (start + columns t) := by
  induction t generalizing start with
  | nil => rfl
  | cons c t ih =>
    rw [columns_cons, ← length_cell] at hroom ⊢
    have hhere : add start (cell c).length = some (start + (cell c).length) := add_eq (by omega)
    have hlater := ih (show start + (cell c).length + columns t < 2 ^ 64 by omega)
    rw [widths_cons, List.foldlM_cons, hhere, ← Nat.add_assoc]
    exact hlater

theorem sum_widths {t : Text} (hroom : columns t < 2 ^ 64) : sum (widths t) = some (columns t) := by
  have hcounted := foldlM_widths (show 0 + columns t < 2 ^ 64 by omega)
  rw [Nat.zero_add] at hcounted
  exact hcounted

theorem columns_lt {t : Text} (hshort : t.length < 2 ^ 61) : columns t < 2 ^ 63 := by
  have hmost := columns_le t
  omega

theorem allocate_blanks {t : Text} (hshort : t.length < 2 ^ 61) :
    allocate (blanks t) = some (blanks t) := by
  have hwidth := columns_lt hshort
  rw [← byteLength_blanks] at hwidth
  exact allocate_eq hwidth

theorem byteLength_replicate (n : Nat) {c : Char} (hascii : c.utf8Size = 1) :
    byteLength (List.replicate n c) = n := by
  induction n with
  | zero => rfl
  | succ n ih => rw [List.replicate_succ, byteLength_cons, hascii, ih, Nat.add_comm]

theorem mapM_eq_some {α β : Type} {f : α → Checked β} {g : α → β} {l : List α}
    (h : ∀ a ∈ l, f a = some (g a)) : l.mapM f = some (l.map g) := by
  induction l with
  | nil => rfl
  | cons a l ih =>
    have hhere := h a (List.mem_cons_self ..)
    have hlater := ih fun b hinside => h b (List.mem_cons_of_mem _ hinside)
    simp only [List.mapM_cons, hhere, hlater, Option.bind_eq_bind, Option.bind_some]
    rfl

theorem mark_eq {s : Span} {start offset : Nat} {t : Text}
    (hroom : start + offset + byteLength t < 2 ^ 64) :
    mark s start offset t = some (s.mark (start + offset) t) := by
  induction t generalizing offset with
  | nil => rfl
  | cons c t ih =>
    rw [byteLength_cons] at hroom
    rw [mark, Span.mark]
    split
    · rfl
    · have hindex : add start offset = some (start + offset) := add_eq (by omega)
      have hlater : mark s start (offset + c.utf8Size) t
          = some (s.mark (start + (offset + c.utf8Size)) t) := ih (by omega)
      rw [← Nat.add_assoc] at hlater
      simp only [hindex, hlater, Option.bind_eq_bind, Option.bind_some]
      rfl

section

variable {s : Span} (h : s.WellFormed) (hsmall : s.source.Small)

theorem markLine_eq (hsmall : s.source.Small) {number : Nat} {line : Line}
    (hfound : s.source.line? number = some line) :
    markLine s number = some (s.mark line.start line.text) := by
  have hshown := lineText_of_line? hsmall.fits hfound
  have hstart : s.source.lineStart? number = some line.start := by
    rw [Source.lineStart?, hfound]
    rfl
  have hinside := Source.byteLength_line_le hfound
  have hbytes : s.source.length < 2 ^ 61 := hsmall
  have hmarked : mark s line.start 0 line.text = some (s.mark line.start line.text) :=
    mark_eq (by omega)
  simp only [markLine, hshown, hstart, hmarked, Option.bind_eq_bind, Option.bind_some]

include h hsmall

theorem caretRow_eq {number : Nat} {line : Line} (hfound : s.source.line? number = some line)
    (help : Option Text) : caretRow s number help = some (s.caretRow line.text help) := by
  have hshown := lineText_of_line? hsmall.fits hfound
  have hstart := location_eq (Span.wellFormed_startPosition h) hsmall
  have hinside := text_eq h
  have hbytes : s.source.length < 2 ^ 61 := hsmall
  have hbefore : sub s.startLocation.column 1 = some (s.startLocation.column - 1) := by
    obtain ⟨_, front, _, _, _, _, hlocated⟩ :=
      Position.location_of_wellFormed (Span.wellFormed_startPosition h)
    rw [Span.startLocation, hlocated]
    exact sub_eq (Nat.le_add_left ..)
  have hindent : allocate (blanks (line.text.take (s.startLocation.column - 1)))
      = some (blanks (line.text.take (s.startLocation.column - 1))) := by
    have hfits := Source.byteLength_line_le hfound
    have hchars := length_le_byteLength line.text
    have htaken := List.length_take_le' (s.startLocation.column - 1) line.text
    exact allocate_blanks (by omega)
  have hwidest : columns s.text < 2 ^ 63 := by
    have hfits := Span.byteLength_text_le h
    have hchars := length_le_byteLength s.text
    exact columns_lt (by omega)
  have hwidth : sum (widths s.text) = some (columns s.text) := sum_widths (by omega)
  have hcarets : allocate (List.replicate (max 1 (columns s.text)) '^')
      = some (List.replicate (max 1 (columns s.text)) '^') := by
    have hsize := byteLength_replicate (max 1 (columns s.text)) (show '^'.utf8Size = 1 from rfl)
    exact allocate_eq (by omega)
  rw [← Span.startLocation] at hstart
  simp only [caretRow, hshown, hstart, hbefore, hinside, hwidth, hcarets, Option.bind_eq_bind,
    Option.bind_some, Option.getD_some, hindent]
  rw [Span.caretRow, length_blanks, List.length_replicate]
  rfl

theorem lineRows_eq {number : Nat} (hleast : 0 < number) (hmost : number ≤ s.source.lineCount)
    (help : Option Text) :
    lineRows s s.startLocation s.stopLocation help number = some (s.lineRows help number) := by
  obtain ⟨line, hfound⟩ := Source.line?_of_le hleast hmost
  have hmarked := markLine_eq hsmall hfound
  have hcarets := caretRow_eq h hsmall hfound help
  simp only [lineRows, hmarked, Option.bind_eq_bind, Option.bind_some]
  rw [Span.lineRows, hfound, Span.isWithinLine]
  by_cases hwithin : s.startLocation.line = s.stopLocation.line ∧ number = s.startLocation.line
  · rw [if_pos hwithin, hcarets]
    simp [hwithin.2, ← hwithin.1]
  · rw [if_neg hwithin]
    have houtside : (s.startLocation.line == s.stopLocation.line
        && number == s.startLocation.line) = false := by
      simpa using hwithin
    simp [houtside]

theorem excerpt_eq (help : Option Text) : excerpt s help = some (s.renderExcerpt help) := by
  have hstart := location_eq (Span.wellFormed_startPosition h) hsmall
  have hstop := location_eq (Span.wellFormed_stopPosition h) hsmall
  have hbytes : s.source.length < 2 ^ 61 := hsmall
  have hbelow : add s.stopLocation.line 1 = some (s.stopLocation.line + 1) := by
    obtain ⟨_, _, _, _, _, _, hlocated⟩ :=
      Position.location_of_wellFormed (Span.wellFormed_stopPosition h)
    have hmost := s.source.lineNumber_le s.stop
    have hlines := s.source.lineCount_le
    have hline : s.stopLocation.line = s.source.lineNumber s.stop := by
      rw [Span.stopLocation, hlocated]
      rfl
    exact add_eq (by omega)
  have hrows : (List.range' s.firstShown (s.lastShown + 1 - s.firstShown)).mapM
        (lineRows s s.startLocation s.stopLocation help)
      = some ((List.range' s.firstShown (s.lastShown + 1 - s.firstShown)).map
          (s.lineRows help)) := by
    -- Every number that is shown is one of a line, so no row is left out.
    refine mapM_eq_some fun number hinside => ?_
    have hfirst : 0 < s.firstShown := by
      rw [Span.firstShown]
      omega
    have hlast : s.lastShown ≤ s.source.lineCount := Nat.min_le_right ..
    obtain ⟨hleast, hmost⟩ := List.mem_range'_1.1 hinside
    exact lineRows_eq h hsmall (by omega) (by omega) help
  rw [← Span.startLocation] at hstart
  rw [← Span.stopLocation] at hstop
  rw [Span.firstShown, Span.lastShown] at hrows
  simp only [excerpt, hstart, hstop, hbelow, hrows, Option.bind_eq_bind, Option.bind_some]
  simp only [Span.renderExcerpt, Span.excerpt, Span.isWithinLine, beq_iff_eq, ← List.flatMap_def]
  rfl

end

theorem opening_eq {s : Span} (h : s.WellFormed) (hsmall : s.source.Small) (length : Nat)
    (hshort : length < 2 ^ 61) : opening s length = some (s.opening length) := by
  have hinside := le_of_isBoundary h.start
  have hbytes : s.source.length < 2 ^ 61 := hsmall
  rw [Source.length] at hbytes
  have hstop : add s.start length = some (s.start + length) := add_eq (by omega)
  rw [opening, hstop]
  rfl

theorem report_eq {s : Span} (h : s.WellFormed) (hsmall : s.source.Small) (title help : Text) :
    report title s help
      = some ((Message.mk .error title).render ++ [.plain ['\n']] ++ s.renderExcerpt help) := by
  rw [report, excerpt_eq h hsmall]
  rfl

theorem report_opening_eq {s : Span} (h : s.WellFormed) (hsmall : s.source.Small) (length : Nat)
    (title help : Text) :
    report title (s.opening length) help
      = some ((Message.mk .error title).render ++ [.plain ['\n']]
          ++ (s.opening length).renderExcerpt help) := by
  obtain ⟨hgood, hsame⟩ := Span.wellFormed_opening h length
  exact report_eq hgood (hsame ▸ hsmall) title help

theorem render_eq {d : Diagnostic} (h : d.span.WellFormed) (hsmall : d.span.source.Small) :
    render d = some d.render := by
  cases d with
  | invalidToken s =>
    change s.WellFormed at h
    change s.source.Small at hsmall
    have hinside := text_eq h
    have htitle : allocate ("found an invalid token `".toList ++ s.text ++ ['`'])
        = some ("found an invalid token `".toList ++ s.text ++ ['`']) := by
      have hbytes : s.source.length < 2 ^ 61 := hsmall
      have hfits := Span.byteLength_text_le h
      have hfront : byteLength "found an invalid token `".toList = 24 := by decide
      have hback : byteLength ['`'] = 1 := by decide
      exact allocate_eq (by rw [byteLength_append, byteLength_append]; omega)
    simp only [render, hinside, htitle, Option.bind_eq_bind, Option.bind_some]
    exact report_eq h hsmall _ _
  | unterminatedString s =>
    change s.WellFormed at h
    change s.source.Small at hsmall
    have hshown := opening_eq h hsmall 1 (by decide)
    simp only [render, hshown, Option.bind_eq_bind, Option.bind_some]
    exact report_opening_eq h hsmall 1 _ _
  | unterminatedComment s =>
    change s.WellFormed at h
    change s.source.Small at hsmall
    have hshown := opening_eq h hsmall 2 (by decide)
    simp only [render, hshown, Option.bind_eq_bind, Option.bind_some]
    exact report_opening_eq h hsmall 2 _ _

end Checked

end LoxReader
