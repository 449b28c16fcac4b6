import LoxReader.Proofs.Lines
import LoxReader.Proofs.WellFormed
import LoxReader.Report.Excerpt

/-!
The rows of an excerpt as text. A row of a line shows what the line holds in front of its
terminator, and besides the numbers and marks of the report there is nothing that the source, its
origin or the help does not hold.
-/

namespace LoxReader

open Text

namespace Text

/-- The characters of a text that starts at an offset, each with its own offset. -/
def places (start : Nat) : Text → List (Nat × Char)
  | [] => []
  | c :: t => (start, c) :: places (start + c.utf8Size) t

theorem map_snd_places (start : Nat) (t : Text) : (places start t).map Prod.snd = t := by
  induction t generalizing start with
  | nil => rfl
  | cons c t ih => rw [places, List.map_cons, ih]

theorem places_append (start : Nat) (s t : Text) :
    places start (s ++ t) = places start s ++ places (start + byteLength s) t := by
  induction s generalizing start with
  | nil => rfl
  | cons c s ih =>
    rw [List.cons_append, places, places, ih, byteLength_cons, Nat.add_assoc, List.cons_append]

theorem bounds_of_mem_places {start i : Nat} {c : Char} {t : Text} (h : (i, c) ∈ places start t) :
    start ≤ i ∧ i < start + byteLength t := by
  induction t generalizing start with
  | nil => simp [places] at h
  | cons d t ih =>
    have hpos := d.utf8Size_pos
    rw [byteLength_cons]
    rcases List.mem_cons.mp h with heq | h
    · obtain ⟨rfl, -⟩ := Prod.mk.inj heq
      omega
    · have hrest := ih h
      omega

theorem filter_places (p : Char → Bool) (start : Nat) (t : Text) :
    ((places start t).filter (p ·.2)).map Prod.snd = t.filter p := by
  have hmap := List.filter_map (p := p) (f := Prod.snd) (l := places start t)
  rw [map_snd_places] at hmap
  exact hmap.symm

theorem exists_parts_of_mem_lines {t line : Text} (h : line ∈ lines t) :
    ∃ body stop, line = body ++ stop ∧ IsOpenLine body ∧ (stop = [] ∨ IsLineEnd stop) := by
  obtain ⟨closed, last, hlines, hclosed, hlast⟩ := lines_eq_closed_append t
  rw [hlines, List.mem_append, List.mem_singleton] at h
  rcases h with h | rfl
  · obtain @⟨body, stop, hbody, hstop⟩ := hclosed line h
    exact ⟨body, stop, rfl, hbody, .inr hstop⟩
  · exact ⟨line, [], by simp, hlast, .inl rfl⟩

theorem forall_isLineTerminator {stop : Text} (h : stop = [] ∨ IsLineEnd stop) :
    ∀ c ∈ stop, isLineTerminator c := by
  rcases h with rfl | h
  · simp
  · exact isLineTerminator_of_mem_lineEnd h

theorem filter_of_open {t : Text} (h : IsOpenLine t) : t.filter (!isLineTerminator ·) = t :=
  List.filter_eq_self.mpr fun c hc => by simp [h c hc]

theorem filter_of_parts {body stop : Text} (hbody : IsOpenLine body)
    (hstop : stop = [] ∨ IsLineEnd stop) :
    (body ++ stop).filter (!isLineTerminator ·) = body := by
  have hdropped : stop.filter (!isLineTerminator ·) = [] :=
    List.filter_eq_nil_iff.mpr fun c hc => by simp [forall_isLineTerminator hstop c hc]
  rw [List.filter_append, filter_of_open hbody, hdropped, List.append_nil]

end Text

def Span.covers (s : Span) (index : Nat) : Bool := decide (s.start ≤ index ∧ index < s.stop)

namespace Span

theorem covers_eq_false_of_mem_places {s : Span} {start : Nat} {t : Text}
    (h : start + byteLength t ≤ s.start ∨ s.stop ≤ start) :
    ∀ place ∈ places start t, s.covers place.1 = false := by
  rintro ⟨i, c⟩ hplace
  have hbounds := bounds_of_mem_places hplace
  simp only [covers, decide_eq_false_iff_not]
  omega

theorem covers_of_mem_places {s : Span} {start : Nat} {t : Text} (hstart : s.start ≤ start)
    (hstop : start + byteLength t ≤ s.stop) : ∀ place ∈ places start t, s.covers place.1 := by
  rintro ⟨i, c⟩ hplace
  have hbounds := bounds_of_mem_places hplace
  simp only [covers, decide_eq_true_eq]
  omega

/-- A character of a line as an excerpt of a span shows it. -/
def fragment (s : Span) (place : Nat × Char) : Fragment :=
  ⟨if s.covers place.1 then [.underline, .bold, .red] else [], cell place.2⟩

theorem mark_of_terminators {s : Span} {stop : Text} (h : ∀ c ∈ stop, isLineTerminator c)
    (start : Nat) : s.mark start stop = [] := by
  cases stop with
  | nil => rfl
  | cons c stop => rw [mark, if_pos (h c (List.mem_cons_self ..))]

theorem mark_append {s : Span} {body stop : Text} (hbody : IsOpenLine body)
    (hstop : ∀ c ∈ stop, isLineTerminator c) (start : Nat) :
    s.mark start (body ++ stop) = (body.places start).map s.fragment := by
  induction body generalizing start with
  | nil => exact mark_of_terminators hstop start
  | cons c body ih =>
    have hc := hbody c (List.mem_cons_self ..)
    have hrest := ih (fun d hd => hbody d (List.mem_cons_of_mem _ hd)) (start + c.utf8Size)
    rw [List.cons_append, mark, if_neg (by simp [hc]), hrest, places, List.map_cons]
    simp [fragment, covers]

theorem mark_eq (s : Span) {t line : Text} (h : line ∈ lines t) (start : Nat) :
    s.mark start line
      = ((line.places start).filter fun place => !isLineTerminator place.2).map s.fragment := by
  obtain ⟨body, stop, rfl, hbody, hend⟩ := exists_parts_of_mem_lines h
  have hstop := forall_isLineTerminator hend
  have hkept : (body.places start).filter (fun place => !isLineTerminator place.2)
      = body.places start := by
    rw [List.filter_eq_self]
    rintro ⟨i, c⟩ hplace
    have hc : c ∈ body := map_snd_places start body ▸ List.mem_map_of_mem hplace
    simp [hbody c hc]
  have hdropped : (stop.places (start + byteLength body)).filter
      (fun place => !isLineTerminator place.2) = [] := by
    rw [List.filter_eq_nil_iff]
    rintro ⟨i, c⟩ hplace
    have hc : c ∈ stop :=
      map_snd_places (start + byteLength body) stop ▸ List.mem_map_of_mem hplace
    simp [hstop c hc]
  rw [mark_append hbody hstop, places_append, List.filter_append, hkept, hdropped, List.append_nil]

theorem text_mark (s : Span) {t line : Text} (h : line ∈ lines t) (start : Nat) :
    (s.mark start line).text = (line.filter (!isLineTerminator ·)).flatMap cell := by
  rw [s.mark_eq h, Styled.text, List.flatMap_map, ← filter_places (!isLineTerminator ·) start,
    List.flatMap_map]
  rfl

end Span

theorem mem_lines_of_line? {s : Source} {n : Nat} {line : Line} (h : s.line? n = some line) :
    line.text ∈ lines s.text := by
  cases n with
  | zero => simp [Source.line?] at h
  | succ n =>
    obtain ⟨text, hfound, rfl⟩ := Source.line?_eq_some_iff.mp h
    exact List.mem_of_getElem? hfound

namespace Span

theorem line_startLocation {s : Span} (h : s.WellFormed) :
    s.startLocation.line = s.source.lineNumber s.start := by
  obtain ⟨_, _, _, _, _, _, hplace⟩ :=
    Position.location_of_wellFormed (wellFormed_startPosition h)
  rw [startLocation, hplace]
  rfl

theorem line_stopLocation {s : Span} (h : s.WellFormed) :
    s.stopLocation.line = s.source.lineNumber s.stop := by
  obtain ⟨_, _, _, _, _, _, hplace⟩ :=
    Position.location_of_wellFormed (wellFormed_stopPosition h)
  rw [stopLocation, hplace]
  rfl

theorem shown_bounds {s : Span} (h : s.WellFormed) :
    1 ≤ s.firstShown ∧ s.firstShown ≤ s.startLocation.line
      ∧ s.startLocation.line ≤ s.stopLocation.line ∧ s.stopLocation.line ≤ s.lastShown
      ∧ s.lastShown ≤ s.source.lineCount := by
  have hline := Source.lineNumber_mono (s := s.source) h.ordered
  have hpos := s.source.lineNumber_pos s.start
  have hmost := s.source.lineNumber_le s.stop
  rw [firstShown, lastShown, line_startLocation h, line_stopLocation h]
  omega

end Span

namespace Styled

theorem text_nil : text [] = [] := rfl

theorem text_cons (f : Fragment) (s : Styled) : text (f :: s) = f.text ++ text s := rfl

end Styled

namespace Row

/-- What a row holds of the source, its origin and the help. -/
def content : Row → Text
  | title origin _ => origin
  | blank => []
  | line _ shown => shown.text
  | carets _ _ help => help.getD []
  | remark help => help

/-- What else stands in rows, beside digits. -/
def signs : Text := " ┃->:=^help".toList

theorem text_gutter_some (width n : Nat) :
    (gutter width (some n)).text
      = List.replicate (width - (ofNat n).length) ' ' ++ ofNat n ++ " ┃ ".toList := by
  simp [gutter, Styled.text_cons, Styled.text_nil, Fragment.plain]

theorem text_gutter_none (width : Nat) :
    (gutter width none).text = List.replicate width ' ' ++ " ┃ ".toList := by
  simp [gutter, Styled.text_cons, Styled.text_nil, Fragment.plain]

theorem text_remarkOf (help : Text) : (remarkOf help).text = "help: ".toList ++ help := by
  simp [remarkOf, Styled.text_cons, Styled.text_nil, Fragment.plain]

theorem text_render_title (width : Nat) (origin : Text) (start : Location) :
    ((title origin start).render width).text
      = List.replicate width ' ' ++ "--> ".toList ++ origin ++ ':' :: start.display := by
  simp [render, Styled.text_cons, Styled.text_nil, Fragment.plain]

theorem text_render_line (width n : Nat) (shown : Styled) :
    ((line n shown).render width).text = (gutter width (some n)).text ++ shown.text := by
  rw [render, Styled.text_append]

theorem text_render_carets (width indent count : Nat) (help : Option Text) :
    ((carets indent count help).render width).text
      = (gutter width none).text ++ List.replicate indent ' ' ++ List.replicate count '^'
        ++ help.elim [] (" help: ".toList ++ ·) := by
  cases help with
  | none => simp [render, Styled.text_append, Styled.text_cons, Styled.text_nil, Fragment.plain]
  | some help =>
    simp [render, Styled.text_append, Styled.text_cons, Fragment.plain, text_remarkOf]

theorem text_render_remark (width : Nat) (help : Text) :
    ((remark help).render width).text
      = List.replicate width ' ' ++ " = help: ".toList ++ help := by
  simp [render, Styled.text_cons, Fragment.plain, text_remarkOf]

theorem mem_content_of_mem_render {c : Char} (hdigit : c.isDigit = false) (hsign : c ∉ signs)
    {width : Nat} {row : Row} (h : c ∈ (row.render width).text) : c ∈ row.content := by
  have hnumber (n : Nat) : c ∉ ofNat n := not_mem_ofNat hdigit n
  have hplace (l : Location) : c ∉ l.display :=
    l.not_mem_display hdigit fun heq => hsign (heq ▸ by decide)
  have hframe {t : Text} (ht : t.all signs.contains) : c ∉ t := fun hc =>
    hsign (List.contains_iff_mem.mp (List.all_eq_true.mp ht c hc))
  have hblank (n : Nat) : c ∉ List.replicate n ' ' := fun hc =>
    hsign (List.eq_of_mem_replicate hc ▸ by decide)
  have hcarets (n : Nat) : c ∉ List.replicate n '^' := fun hc =>
    hsign (List.eq_of_mem_replicate hc ▸ by decide)
  have hbar : c ∉ " ┃ ".toList := hframe (by decide)
  cases row with
  | title origin start =>
    have harrow : c ∉ "--> ".toList := hframe (by decide)
    have hcolon : c ≠ ':' := fun heq => hsign (heq ▸ by decide)
    simp only [text_render_title, List.mem_append, List.mem_cons, hblank, harrow, hcolon, hplace,
      false_or, or_false] at h
    exact h
  | blank =>
    simp only [render, text_gutter_none, List.mem_append, hblank, hbar, or_false] at h
  | line n shown =>
    simp only [text_render_line, text_gutter_some, List.mem_append, hblank, hnumber, hbar,
      false_or] at h
    exact h
  | carets indent count help =>
    have hhelp : c ∉ " help: ".toList := hframe (by decide)
    cases help with
    | none =>
      simp only [text_render_carets, text_gutter_none, List.mem_append, hblank, hbar, hcarets,
        Option.elim, List.not_mem_nil, or_false] at h
    | some help =>
      simp only [text_render_carets, text_gutter_none, List.mem_append, hblank, hbar, hcarets,
        Option.elim, hhelp, false_or] at h
      exact h
  | remark help =>
    have hhelp : c ∉ " = help: ".toList := hframe (by decide)
    simp only [text_render_remark, List.mem_append, hblank, hhelp, false_or] at h
    exact h

end Row

namespace Span

/-- The rows of an excerpt have the width of the last number that is shown. -/
def numberWidth (s : Span) : Nat := (ofNat s.lastShown).length

theorem mem_of_mem_cell {c d : Char} (h : c ∈ cell d) : c = ' ' ∨ c = d := by
  unfold cell at h
  split at h
  · exact .inl (List.eq_of_mem_replicate h)
  · exact .inr (List.mem_singleton.mp h)

theorem mem_text_of_mem_mark {s : Span} {n : Nat} {line : Line} {c : Char} (hblank : c ≠ ' ')
    (hline : s.source.line? n = some line) (h : c ∈ (s.mark line.start line.text).text) :
    c ∈ s.source.text ∧ isLineTerminator c = false := by
  rw [s.text_mark (mem_lines_of_line? hline), List.mem_flatMap] at h
  obtain ⟨d, hd, hc⟩ := h
  obtain rfl := (mem_of_mem_cell hc).resolve_left hblank
  obtain ⟨hmem, hterm⟩ := List.mem_filter.mp hd
  obtain ⟨before, after, hparts, -⟩ := Source.text_of_line? hline
  refine ⟨?_, by simpa using hterm⟩
  rw [hparts]
  simp [hmem]

/-- What the rows of an excerpt hold. -/
theorem mem_content_of_mem_excerpt {s : Span} {help : Option Text} {row : Row} {c : Char}
    (hblank : c ≠ ' ') (hrow : row ∈ s.excerpt help) (h : c ∈ row.content) :
    c ∈ s.source.origin.display ∨ (c ∈ s.source.text ∧ isLineTerminator c = false)
      ∨ ∃ t ∈ help, c ∈ t := by
  simp only [excerpt, List.mem_append, List.mem_cons, List.mem_flatMap, List.not_mem_nil,
    or_false] at hrow
  rcases hrow with ((rfl | rfl | ⟨n, -, hn⟩) | rfl) | hrow
  · exact .inl h
  · cases h
  · unfold lineRows at hn
    split at hn
    · next line hline =>
      rcases List.mem_cons.mp hn with rfl | hn
      · exact .inr (.inl (mem_text_of_mem_mark hblank hline h))
      · split at hn
        · obtain rfl := List.mem_singleton.mp hn
          cases help with
          | none => cases h
          | some t => exact .inr (.inr ⟨t, rfl, h⟩)
        · cases hn
    · cases hn
  · cases h
  · split at hrow
    · cases hrow
    · cases help with
      | none => cases hrow
      | some t =>
        obtain rfl := List.mem_singleton.mp hrow
        exact .inr (.inr ⟨t, rfl, h⟩)

theorem renderExcerpt_eq (s : Span) (help : Option Text) :
    s.renderExcerpt help
      = (s.excerpt help).flatMap fun row => row.render s.numberWidth ++ [.plain ['\n']] := rfl

theorem text_renderExcerpt (s : Span) (help : Option Text) :
    (s.renderExcerpt help).text
      = (s.excerpt help).flatMap fun row => (row.render s.numberWidth).text ++ ['\n'] := by
  have hrow (row : Row) : Styled.text (row.render s.numberWidth ++ [.plain ['\n']])
      = (row.render s.numberWidth).text ++ ['\n'] := by
    rw [Styled.text_append]
    rfl
  rw [renderExcerpt_eq, Styled.text, List.flatMap_assoc]
  exact congrArg (List.flatMap · (s.excerpt help)) (funext hrow)

theorem escape_not_mem_text_renderExcerpt {s : Span} {help : Option Text}
    (hsource : '\x1B' ∉ s.source.text) (horigin : '\x1B' ∉ s.source.origin.display)
    (hhelp : ∀ t ∈ help, '\x1B' ∉ t) : '\x1B' ∉ (s.renderExcerpt help).text := by
  intro h
  rw [text_renderExcerpt, List.mem_flatMap] at h
  obtain ⟨row, hrow, h⟩ := h
  rcases List.mem_append.mp h with h | h
  · have hcontent := Row.mem_content_of_mem_render (by decide) (by decide) h
    rcases mem_content_of_mem_excerpt (by decide) hrow hcontent with h | ⟨h, -⟩ | ⟨t, ht, h⟩
    · exact horigin h
    · exact hsource h
    · exact hhelp t ht h
  · exact absurd h (by decide)

end Span

end LoxReader
