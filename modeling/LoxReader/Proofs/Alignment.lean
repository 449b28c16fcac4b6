import LoxReader.Proofs.Carets
import LoxReader.Proofs.Highlight
import LoxReader.Proofs.LineStarts

/-!
The carets below the line of a span. They stand below the characters that are underlined. Behind a
span that ends between the two halves of a pair there is one caret more, below no character.
-/

namespace LoxReader

open Text

namespace Text

/-- What an excerpt displays of a text. -/
def displayed (t : Text) : Text := (t.filter (!isLineTerminator ·)).flatMap cell

theorem displayed_of_open {t : Text} (h : IsOpenLine t) : t.displayed = t.flatMap cell := by
  rw [displayed, filter_of_open h]

theorem displayed_append (s t : Text) : (s ++ t).displayed = s.displayed ++ t.displayed := by
  rw [displayed, List.filter_append, List.flatMap_append]
  rfl

theorem columns_append (s t : Text) : columns (s ++ t) = columns s + columns t := by
  rw [columns, List.flatMap_append, List.length_append]
  rfl

theorem length_displayed_of_open {t : Text} (h : IsOpenLine t) : t.displayed.length = columns t :=
  congrArg List.length (displayed_of_open h)

theorem length_displayed_pos {t : Text} (h : ∃ c ∈ t, isLineTerminator c = false) :
    0 < t.displayed.length := by
  obtain ⟨c, hc, hterm⟩ := h
  obtain ⟨d, hd⟩ : ∃ d, d ∈ cell c := by
    unfold cell
    split
    · exact ⟨' ', by simp⟩
    · exact ⟨c, List.mem_singleton_self c⟩
  have hkept : c ∈ t.filter (!isLineTerminator ·) := List.mem_filter.mpr ⟨hc, by simp [hterm]⟩
  exact List.length_pos_of_mem (List.mem_flatMap.mpr ⟨c, hkept, hd⟩)

/-- Two places in one line, the second one behind `x`. -/
theorem IsCut.eq_of_length {t left right x left' right' : Text}
    {above below above' below' : List Text} (hstart : IsCut t above left right below)
    (hstop : IsCut t above' left' right' below') (hlength : above.length = above'.length)
    (hx : above.flatten ++ left ++ x = above'.flatten ++ left') :
    left' = left ++ x ∧ right = x ++ right' := by
  have hlines := hstart.lines_eq.symm.trans hstop.lines_eq
  obtain ⟨rfl, htail⟩ := List.append_inj hlines hlength
  obtain ⟨hline, -⟩ := List.cons.inj htail
  rw [List.append_assoc] at hx
  obtain rfl := List.append_cancel_left hx
  rw [List.append_assoc] at hline
  exact ⟨rfl, List.append_cancel_left hline⟩

end Text

/-- Where a property holds that the middle part of a list has alone. -/
theorem exists_mem_getElem?_iff {α : Type} {p : α → Prop} (front middle back : List α)
    (hfront : ∀ a ∈ front, ¬ p a) (hmiddle : ∀ a ∈ middle, p a) (hback : ∀ a ∈ back, ¬ p a)
    (i : Nat) : (∃ a ∈ (front ++ middle ++ back)[i]?, p a)
      ↔ front.length ≤ i ∧ i < front.length + middle.length := by
  rw [List.append_assoc]
  rcases Nat.lt_or_ge i front.length with hlow | hlow
  · rw [List.getElem?_append_left hlow]
    refine ⟨?_, by omega⟩
    rintro ⟨a, ha, hp⟩
    exact absurd hp (hfront a (List.mem_of_getElem? ha))
  · rw [List.getElem?_append_right hlow]
    rcases Nat.lt_or_ge (i - front.length) middle.length with hhigh | hhigh
    · rw [List.getElem?_append_left hhigh]
      exact ⟨fun _ => by omega, fun _ => ⟨_, List.getElem?_eq_getElem hhigh,
        hmiddle _ (List.getElem_mem hhigh)⟩⟩
    · rw [List.getElem?_append_right hhigh]
      refine ⟨?_, by omega⟩
      rintro ⟨a, ha, hp⟩
      exact absurd hp (hback a (List.mem_of_getElem? ha))

def Row.caretStyle : Style := ⟨true, false, some 31⟩

theorem Row.cells_carets (width indent count : Nat) (help : Option Text) :
    ∃ tail : List Cell, tail.map Cell.char = help.elim [] (" help: ".toList ++ ·)
      ∧ (carets indent count help).cells width = (gutter width none).cells
        ++ ((List.replicate indent ' ').map (⟨·, {}⟩)
          ++ (List.replicate count '^').map (⟨·, caretStyle⟩)) ++ tail ++ [⟨'\n', {}⟩] := by
  refine ⟨Styled.cells (help.elim [] fun text => .plain [' '] :: remarkOf text), ?_, ?_⟩
  · rw [Styled.map_char_cells]
    cases help with
    | none => rfl
    | some help =>
      rw [Option.elim, Styled.text_cons, text_remarkOf]
      rfl
  · have hmarks : Styled.cells [.plain (List.replicate indent ' '),
        ⟨[.bold, .red], List.replicate count '^'⟩]
        = (List.replicate indent ' ').map (⟨·, {}⟩)
          ++ (List.replicate count '^').map (⟨·, caretStyle⟩) := by
      rw [Styled.cells, List.flatMap_cons, List.flatMap_singleton]
      rfl
    rw [cells, render, Styled.cells_append, Styled.cells_append, Styled.cells_append, hmarks]
    rfl

theorem Row.length_cells_gutter {width n : Nat} (h : (ofNat n).length ≤ width) :
    (gutter width (some n)).cells.length = (gutter width none).cells.length := by
  rw [← List.length_map (f := Cell.char), ← List.length_map (f := Cell.char),
    Styled.map_char_cells, Styled.map_char_cells, text_gutter_some, text_gutter_none]
  simp only [List.length_append, List.length_replicate]
  omega

def Cell.CaretAt (cells : List Cell) (i : Nat) : Prop := ∃ c ∈ cells[i]?, c.char = '^'

def Cell.UnderlinedAt (cells : List Cell) (i : Nat) : Prop := ∃ c ∈ cells[i]?, c.style.underline

theorem Cell.caretAt_iff {indent count i : Nat} :
    CaretAt ((List.replicate indent ' ').map (⟨·, {}⟩)
        ++ (List.replicate count '^').map (⟨·, Row.caretStyle⟩)) i
      ↔ indent ≤ i ∧ i < indent + count := by
  have hmiddle := exists_mem_getElem?_iff (p := (Cell.char · = '^'))
    ((List.replicate indent ' ').map (⟨·, {}⟩))
    ((List.replicate count '^').map (⟨·, Row.caretStyle⟩)) [] (by simp) (by simp) (by simp) i
  simpa [CaretAt] using hmiddle

theorem Cell.underlinedAt_iff {left inside right : Text} {i : Nat} :
    UnderlinedAt (left.map (⟨·, {}⟩) ++ inside.map (⟨·, .marked⟩) ++ right.map (⟨·, {}⟩)) i
      ↔ left.length ≤ i ∧ i < left.length + inside.length := by
  have hmiddle := exists_mem_getElem?_iff (p := (Cell.style · |>.underline))
    (left.map (⟨·, {}⟩)) (inside.map (⟨·, .marked⟩)) (right.map (⟨·, {}⟩))
    (by simp) (by simp [Style.marked]) (by simp) i
  simpa only [UnderlinedAt, List.length_map] using hmiddle

/-- Whether a place stands between a carriage return and the line feed behind it. -/
def Position.dividesPair (p : Position) : Bool :=
  (splitAt? p.index p.source.text).any fun (before, after) => decide (PairAcross before after)

theorem Position.dividesPair_iff {p : Position} {before after : Text}
    (h : p.source.text = before ++ after) (hindex : p.index = byteLength before) :
    p.dividesPair ↔ PairAcross before after := by
  rw [dividesPair, h, hindex, splitAt?_byteLength_append]
  simp

/-- A place in a line stands behind no terminator of it, unless it divides a pair. -/
theorem Position.dividesPair_of_cut {p : Position} {above below : List Text} {left right : Text}
    (h : IsCut p.source.text above left right below)
    (hindex : p.index = byteLength (above.flatten ++ left)) :
    IsOpenLine left ∧ (left ≠ [] → p.dividesPair = false)
      ∨ right = ['\n'] ∧ p.dividesPair ∧ ∃ body, left = body ++ ['\r'] ∧ IsOpenLine body := by
  have hpair := dividesPair_iff h.text_eq hindex
  rcases h.open_left with hopen | ⟨rfl, body, rfl, hopen⟩
  · refine .inl ⟨hopen, fun hne => ?_⟩
    rw [← Bool.not_eq_true, hpair]
    rintro ⟨hreturn, -⟩
    rw [List.getLast?_append, List.getLast?_eq_some_getLast hne] at hreturn
    have hmem : '\r' ∈ left := Option.some.inj hreturn ▸ List.getLast_mem hne
    exact absurd (hopen '\r' hmem) (by decide)
  · refine .inr ⟨rfl, hpair.mpr ⟨?_, rfl⟩, body, rfl, hopen⟩
    rw [← List.append_assoc, List.getLast?_concat]

namespace Span

/-- A span stands in one line, behind `left` and in front of `right`. -/
structure StandsIn (s : Span) (left right : Text) : Prop where
  line : ∃ line, s.source.line? s.startLocation.line = some line
    ∧ line.text = left ++ s.text ++ right ∧ s.start = line.start + byteLength left
  stop : s.stop = s.start + byteLength s.text
  column : s.startLocation.column = left.length + 1
  ends : IsOpenLine (left ++ s.text) ∧ (left ++ s.text ≠ [] → s.stopPosition.dividesPair = false)
    ∨ right = ['\n'] ∧ s.stopPosition.dividesPair
      ∧ ∃ body, left ++ s.text = body ++ ['\r'] ∧ IsOpenLine body

theorem exists_standsIn {s : Span} (h : s.WellFormed) (hwithin : s.isWithinLine) :
    ∃ left right, s.StandsIn left right := by
  obtain ⟨before, after, hparts, hfirst, hlast⟩ := parts_of_wellFormed h
  have hfront : s.source.text = before ++ (s.text ++ after) := by
    rw [← List.append_assoc]
    exact hparts
  obtain ⟨above, left, right, below, hstart, rfl⟩ := exists_cut hfront
  obtain ⟨above', left', right', below', hstop, hbefore⟩ := exists_cut hparts
  have hlocation : s.startLocation = ⟨above.length + 1, left.length + 1⟩ := by
    rw [startLocation, startPosition, hfirst]
    exact Source.location_of_cut hstart
  have hline : s.startLocation.line = above'.length + 1 := by
    rw [beq_iff_eq.mp hwithin, stopLocation, stopPosition, hlast, hbefore,
      Source.location_of_cut hstop]
  have hlength : above.length = above'.length := by
    rw [hlocation] at hline
    exact Nat.succ.inj hline
  obtain ⟨rfl, rfl⟩ := hstart.eq_of_length hstop hlength hbefore
  refine ⟨left, right', ⟨?_, ?_, ?_, Position.dividesPair_of_cut hstop (hbefore ▸ hlast)⟩⟩
  · have hfound := Source.line?_of_lines hstart.lines_eq
    rw [show above.length + 1 = s.startLocation.line by rw [hlocation]] at hfound
    refine ⟨_, hfound, (List.append_assoc ..).symm, ?_⟩
    rw [hfirst, byteLength_append]
  · rw [hfirst, hlast, byteLength_append]
  · rw [hlocation]

theorem flatMap_places {s : Span} {start : Nat} {t : Text} {b : Bool}
    (h : ∀ place ∈ places start t, s.covers place.1 = b) :
    (((places start t).filter (!isLineTerminator ·.2)).flatMap fun place =>
        (cell place.2).map (Cell.mk · (if s.covers place.1 then .marked else {})))
      = t.displayed.map (Cell.mk · (if b then .marked else {})) := by
  have hplace : ∀ place ∈ (places start t).filter (!isLineTerminator ·.2),
      (cell place.2).map (Cell.mk · (if s.covers place.1 then .marked else {}))
        = (cell place.2).map (Cell.mk · (if b then .marked else {})) := by
    intro place hmem
    rw [h place (List.mem_filter.mp hmem).1]
  rw [List.flatMap_def, List.map_congr_left hplace, ← List.flatMap_def, displayed,
    ← filter_places (!isLineTerminator ·) start, List.flatMap_map, List.map_flatMap]

namespace StandsIn

variable {s : Span} {left right : Text}

theorem lineCells (h : s.StandsIn left right) :
    s.lineCells s.startLocation.line = left.displayed.map (⟨·, {}⟩)
      ++ s.text.displayed.map (⟨·, .marked⟩) ++ right.displayed.map (⟨·, {}⟩) := by
  obtain ⟨line, hline, htext, hstart⟩ := h.line
  have hstop := h.stop
  have hleft : ∀ place ∈ places line.start left, s.covers place.1 = false :=
    covers_eq_false_of_mem_places (.inl (by omega))
  have hinside : ∀ place ∈ places (line.start + byteLength left) s.text, s.covers place.1 = true :=
    covers_of_mem_places (by omega) (by omega)
  have hright : ∀ place ∈ places (line.start + byteLength (left ++ s.text)) right,
      s.covers place.1 = false := by
    rw [byteLength_append]
    exact covers_eq_false_of_mem_places (.inr (by omega))
  rw [Span.lineCells, Source.linePlaces, hline, Option.map_some, Option.getD_some, htext,
    places_append, places_append, List.filter_append, List.filter_append, List.flatMap_append,
    List.flatMap_append, flatMap_places hleft, flatMap_places hinside, flatMap_places hright]
  rfl

/-- A span within a line that holds more than a terminator holds at most the first half of one,
its last character. -/
theorem isOpenLine_or (h : s.StandsIn left right)
    (hshown : ∃ c ∈ s.text, isLineTerminator c = false) : IsOpenLine left
      ∧ (IsOpenLine s.text ∧ s.stopPosition.dividesPair = false
        ∨ ∃ body, s.text = body ++ ['\r'] ∧ IsOpenLine body ∧ right = ['\n']
          ∧ s.stopPosition.dividesPair) := by
  obtain ⟨c, hc, hterm⟩ := hshown
  have hne := List.ne_nil_of_mem hc
  rcases h.ends with ⟨hopen, hpair⟩ | ⟨hright, hpair, body, hbody, hopen⟩
  · obtain ⟨hleft, htext⟩ := List.forall_mem_append.mp hopen
    exact ⟨hleft, .inl ⟨htext, hpair (List.append_ne_nil_of_right_ne_nil left hne)⟩⟩
  · rcases List.eq_nil_or_concat s.text with hnil | ⟨visible, last, htext⟩
    · exact absurd hnil hne
    · rw [List.concat_eq_append] at htext
      rw [htext, ← List.append_assoc] at hbody
      obtain ⟨rfl, hlast⟩ := List.append_inj' hbody rfl
      obtain ⟨hleft, hvisible⟩ := List.forall_mem_append.mp hopen
      rw [hlast] at htext
      exact ⟨hleft, .inr ⟨visible, htext, hvisible, hright, hpair⟩⟩

theorem columns_text (h : s.StandsIn left right)
    (hshown : ∃ c ∈ s.text, isLineTerminator c = false) :
    columns s.text = s.text.displayed.length + (if s.stopPosition.dividesPair then 1 else 0)
      ∧ (s.stopPosition.dividesPair → right.displayed = []) := by
  obtain ⟨-, ⟨htext, hpair⟩ | ⟨body, htext, hbody, rfl, hpair⟩⟩ := h.isOpenLine_or hshown
  · rw [length_displayed_of_open htext, hpair]
    exact ⟨rfl, by simp⟩
  · have hreturn : columns ['\r'] = 1 := rfl
    have hhidden : displayed ['\r'] = [] := by decide
    rw [htext, columns_append, displayed_append, hhidden, List.append_nil, hreturn,
      length_displayed_of_open hbody, if_pos hpair]
    exact ⟨rfl, fun _ => by decide⟩

end StandsIn

/-- Below the row of the line of a span stands the row of carets, with `marks` in it. -/
structure CaretsBelow (s : Span) (help : Option Text) (marks : List Cell) : Prop where
  rows : ∃ above tail below, tail.map Cell.char = help.elim [] (" help: ".toList ++ ·)
    ∧ (s.renderExcerpt help).cells = above
      ++ ((Row.gutter s.numberWidth (some s.startLocation.line)).cells
        ++ s.lineCells s.startLocation.line ++ [⟨'\n', {}⟩])
      ++ ((Row.gutter s.numberWidth none).cells ++ marks ++ tail ++ [⟨'\n', {}⟩]) ++ below
  gutter : (Row.gutter s.numberWidth (some s.startLocation.line)).cells.length
    = (Row.gutter s.numberWidth none).cells.length
  underlined : Cell.underlined (s.lineCells s.startLocation.line) = s.text.displayed
  marks : ∀ c ∈ marks, c.char = ' ' ∨ c.char = '^'

theorem exists_caretsBelow {s : Span} (h : s.WellFormed) {left right : Text}
    (hstands : s.StandsIn left right) (hwithin : s.isWithinLine)
    (hshown : ∃ c ∈ s.text, isLineTerminator c = false) (help : Option Text) :
    s.CaretsBelow help
      ((List.replicate (columns left) ' ').map (⟨·, {}⟩)
        ++ (List.replicate (columns s.text) '^').map (⟨·, Row.caretStyle⟩)) := by
  obtain ⟨line, hline, htext, -⟩ := hstands.line
  obtain ⟨front, back, hrows, -⟩ := exists_rows_of_isWithinLine h hwithin help hline
  have hpos := length_displayed_pos hshown
  obtain ⟨hcolumns, -⟩ := hstands.columns_text hshown
  have hcarets : s.caretRow line.text help = .carets (columns left) (columns s.text) help := by
    rw [caretRow, htext, hstands.column, Nat.add_sub_cancel, List.append_assoc, List.take_left,
      Nat.max_eq_right (by omega)]
  obtain ⟨tail, htail, hcells⟩ :=
    Row.cells_carets s.numberWidth (columns left) (columns s.text) help
  obtain ⟨-, -, hordered, hlast, -⟩ := shown_bounds h
  refine ⟨⟨front.flatMap (Row.cells s.numberWidth), tail,
    back.flatMap (Row.cells s.numberWidth), htail, ?_⟩, ?_, ?_, ?_⟩
  · rw [cells_renderExcerpt_eq, hrows, hcarets, List.flatMap_append, List.flatMap_cons,
      List.flatMap_cons, cells_line hline, hcells]
    simp only [List.append_assoc]
  · exact Row.length_cells_gutter (length_ofNat_le (Nat.le_trans hordered hlast))
  · rw [hstands.lineCells, Cell.underlined_append, Cell.underlined_append, Cell.underlined_map,
      Cell.underlined_map, Cell.underlined_map]
    exact List.append_nil _
  · intro c hc
    rcases List.mem_append.mp hc with hc | hc
    · obtain ⟨d, hd, rfl⟩ := List.mem_map.mp hc
      exact .inl (List.eq_of_mem_replicate hd)
    · obtain ⟨d, hd, rfl⟩ := List.mem_map.mp hc
      exact .inr (List.eq_of_mem_replicate hd)

theorem carets_align (s : Span) (help : Option Text) (h : s.WellFormed)
    (hwithin : s.isWithinLine) (hshown : ∃ c ∈ s.text, isLineTerminator c = false) :
    let shown := s.lineCells s.startLocation.line
    ∃ marks, s.CaretsBelow help marks
      ∧ (s.stopPosition.dividesPair = false →
        ∀ i, Cell.CaretAt marks i ↔ Cell.UnderlinedAt shown i)
      ∧ (s.stopPosition.dividesPair →
        ∀ i, Cell.CaretAt marks i ↔ Cell.UnderlinedAt shown i ∨ i = shown.length)
      ∧ ('\x1B' ∉ s.source.text → '\x1B' ∉ s.source.origin.display → (∀ t ∈ help, '\x1B' ∉ t) →
        (Terminal.run {} (s.renderExcerpt help).encode).1 = (s.renderExcerpt help).cells) := by
  intro shown
  obtain ⟨left, right, hstands⟩ := exists_standsIn h hwithin
  obtain ⟨hleft, -⟩ := hstands.isOpenLine_or hshown
  obtain ⟨hcolumns, hright⟩ := hstands.columns_text hshown
  have hcells : shown = _ := hstands.lineCells
  refine ⟨_, exists_caretsBelow h hstands hwithin hshown help, fun hpair i => ?_,
    fun hpair i => ?_, fun hsource horigin hhelp => ?_⟩
  · rw [hpair, if_neg (by decide), Nat.add_zero] at hcolumns
    rw [hcells, Cell.caretAt_iff, Cell.underlinedAt_iff, length_displayed_of_open hleft, hcolumns]
  · rw [if_pos hpair] at hcolumns
    rw [hcells, Cell.caretAt_iff, Cell.underlinedAt_iff, length_displayed_of_open hleft, hcolumns,
      hright hpair]
    simp only [List.length_append, List.length_map, List.length_nil,
      length_displayed_of_open hleft]
    omega
  · rw [Terminal.run_encode (escape_not_mem_text_renderExcerpt hsource horigin hhelp)]

theorem carets_align_of_tab :
    let s : Span := ⟨{ number := 0, origin := .synthesized [], text := "a\té\r\nx".toList }, 1, 4⟩
    let help : Option Text := some "h^".toList
    let shown := s.lineCells s.startLocation.line
    s.WellFormed ∧ s.isWithinLine ∧ (∃ c ∈ s.text, isLineTerminator c = false)
      ∧ s.stopPosition.dividesPair = false
      ∧ ∃ marks, s.CaretsBelow help marks
        ∧ ∀ i, Cell.CaretAt marks i ↔ Cell.UnderlinedAt shown i := by
  intro s help shown
  have hformed : s.WellFormed := ⟨by decide, by decide, by decide⟩
  have hwithin : s.isWithinLine := by decide +kernel
  have hshown : ∃ c ∈ s.text, isLineTerminator c = false :=
    ⟨'é', by decide +kernel, by decide⟩
  have hpair : s.stopPosition.dividesPair = false := by decide +kernel
  obtain ⟨marks, hbelow, halign, -⟩ := carets_align s help hformed hwithin hshown
  exact ⟨hformed, hwithin, hshown, hpair, marks, hbelow, halign hpair⟩

theorem caret_beyond_divided_pair :
    let s : Span := ⟨{ number := 0, origin := .synthesized [], text := "a\r\n".toList }, 0, 2⟩
    let shown := s.lineCells s.startLocation.line
    s.WellFormed ∧ s.isWithinLine ∧ (∃ c ∈ s.text, isLineTerminator c = false)
      ∧ ∃ marks, s.CaretsBelow none marks ∧ marks.map Cell.char = "^^".toList
        ∧ Cell.underlined shown = "a".toList
        ∧ ¬ ∀ i, Cell.CaretAt marks i ↔ Cell.UnderlinedAt shown i := by
  intro s shown
  have hformed : s.WellFormed := ⟨by decide, by decide, by decide⟩
  have hwithin : s.isWithinLine := by decide +kernel
  have hshown : ∃ c ∈ s.text, isLineTerminator c = false :=
    ⟨'a', by decide +kernel, by decide⟩
  obtain ⟨left, right, hstands⟩ := exists_standsIn hformed hwithin
  obtain rfl : left = [] := by
    have hcolumn : s.startLocation.column = 1 := by decide +kernel
    rw [hstands.column] at hcolumn
    exact List.length_eq_zero_iff.mp (Nat.succ.inj hcolumn)
  have hmarks := exists_caretsBelow hformed hstands hwithin hshown none
  have hcolumns : columns s.text = 2 := by decide +kernel
  have hcells : shown = [⟨'a', .marked⟩] := by decide +kernel
  rw [hcolumns] at hmarks
  refine ⟨hformed, hwithin, hshown, _, hmarks, rfl, by rw [hcells]; rfl, fun hall => ?_⟩
  obtain ⟨c, hc, -⟩ := (hall 1).mp ⟨_, rfl, rfl⟩
  rw [hcells] at hc
  cases hc

end Span

end LoxReader
