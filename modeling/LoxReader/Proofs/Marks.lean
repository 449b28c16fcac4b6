import LoxReader.Proofs.Carets
import LoxReader.Proofs.Highlight

/-!
What a report marks of its source. For a string or a comment that is never closed these are the
first bytes of the token, and no others, unless the token is shorter than that and a character of
the source ends so far behind its start.
-/

namespace LoxReader

open Text

/-- A line as a report shows it, each character in the style of its offset. -/
def Source.styledLine (s : Source) (style : Nat → Style) (n : Nat) : List Cell :=
  ((s.linePlaces n).filter (!isLineTerminator ·.2)).flatMap fun place =>
    (cell place.2).map (⟨·, style place.1⟩)

/-- What stands around the lines of a report: cells above and below them, a number and a bar in
front of each, and cells behind it. -/
structure Frame where
  above : List Cell
  first : Nat
  count : Nat
  width : Nat
  behind : Nat → List Cell
  below : List Cell

namespace Frame

def fill (f : Frame) (line : Nat → List Cell) : List Cell :=
  f.above
    ++ (List.range' f.first f.count).flatMap
      (fun n => (Row.gutter f.width (some n)).cells ++ line n ++ f.behind n)
    ++ f.below

theorem forall_mem_fill {f : Frame} {line : Nat → List Cell} {p : Cell → Prop}
    (habove : ∀ c ∈ f.above, p c)
    (hrows : ∀ n, ∀ c ∈ (Row.gutter f.width (some n)).cells ++ line n ++ f.behind n, p c)
    (hbelow : ∀ c ∈ f.below, p c) : ∀ c ∈ f.fill line, p c := by
  intro c hc
  rcases List.mem_append.mp hc with hc | hc
  · rcases List.mem_append.mp hc with hc | hc
    · exact habove c hc
    · obtain ⟨n, -, hc⟩ := List.mem_flatMap.mp hc
      exact hrows n c hc
  · exact hbelow c hc

end Frame

theorem Styled.underline_of_mem_cells {s : Styled}
    (h : ∀ f ∈ s, Attribute.underline ∉ f.attributes) :
    ∀ c ∈ s.cells, c.style.underline = false := by
  intro c hc
  obtain ⟨f, hf, hc⟩ := List.mem_flatMap.mp hc
  obtain ⟨d, hd, rfl⟩ := List.mem_map.mp hc
  rw [Style.underline_ofAttributes]
  simpa using h f hf

namespace Diagnostic

def Overruns (d : Diagnostic) : Prop := ∃ length ∈ d.shownLength?, d.span.Overruns length

/-- The style in which a report shows the character at an offset. -/
def style (d : Diagnostic) (index : Nat) : Style := if d.shown.covers index then .marked else {}

def heading (d : Diagnostic) : Styled := (Message.mk .error d.title).render ++ [.plain ['\n']]

def frame (d : Diagnostic) : Frame where
  above := d.heading.cells ++ d.shown.headCells
  first := d.shown.firstShown
  count := d.shown.lastShown + 1 - d.shown.firstShown
  width := d.shown.numberWidth
  behind n :=
    ⟨'\n', {}⟩ :: (d.shown.caretRows (some d.help.toList) n).flatMap (Row.cells d.shown.numberWidth)
  below := d.shown.footCells (some d.help.toList)

variable {d : Diagnostic}

theorem underline_style (index : Nat) : (d.style index).underline = d.shown.covers index := by
  rw [style]
  cases d.shown.covers index <;> rfl

theorem style_within_iff (h : d.span.WellFormed) :
    (∀ i, (d.style i).underline → d.span.covers i) ↔ ¬ d.Overruns := by
  simp only [underline_style, shown_eq, Overruns]
  cases d.shownLength? with
  | none => simp
  | some length => simpa using Span.covers_opening_iff h

theorem cells_render (h : d.span.WellFormed) :
    d.render.cells = d.frame.fill (d.span.source.styledLine d.style) := by
  obtain ⟨hshown, hsource⟩ := wellFormed_shown h
  rw [render, Styled.cells_append, Span.cells_renderExcerpt hshown, ← List.append_assoc,
    ← List.append_assoc, ← hsource]
  rfl

theorem underline_of_mem_frame (d : Diagnostic) :
    ∀ c ∈ d.frame.fill (fun _ => []), c.style.underline = false := by
  have hheading : ∀ c ∈ d.heading.cells, c.style.underline = false :=
    Styled.underline_of_mem_cells (by simp [heading, Message.render, Severity.color, Fragment.plain])
  refine Frame.forall_mem_fill ?_ (fun n => ?_) fun c hc => (d.shown.isFrame_foot _ c hc).1
  · exact List.forall_mem_append.mpr ⟨hheading, fun c hc => (d.shown.isFrame_head c hc).1⟩
  · rw [List.append_nil, List.forall_mem_append]
    exact ⟨fun c hc => (d.shown.isFrame_gutter n c hc).1,
      fun c hc => (d.shown.isFrame_carets _ n c hc).1⟩

end Diagnostic

/-- A report marks no character outside its token, unless a string or a comment has a token that is
shorter than the opening which is to be marked. -/
theorem Token.marks_within_iff (t : Token) (h : t.span.WellFormed) (herror : t.isError) :
    ∃ d, Diagnostic.ofToken? t = some d
      ∧ (∃ frame : Frame, d.render.cells = frame.fill (t.span.source.styledLine d.style)
        ∧ ∀ c ∈ frame.fill (fun _ => []), c.style.underline = false)
      ∧ ((∀ i, (d.style i).underline → t.span.covers i) ↔ ¬ d.Overruns)
      ∧ (∀ length, (t.span.opening length).start = t.span.start
        ∧ ((t.span.opening length).stop ≤ t.span.stop ↔ ¬ t.span.Overruns length))
      ∧ ('\x1B' ∉ t.span.source.text → '\x1B' ∉ t.span.source.origin.display →
        Terminal.run {} d.render.encode = (d.render.cells, {})) := by
  have hsome := Diagnostic.isSome_ofToken? t
  rw [herror] at hsome
  obtain ⟨d, hd⟩ := Option.isSome_iff_exists.mp hsome
  have hspan := Diagnostic.span_of_ofToken? hd
  rw [← hspan] at h ⊢
  refine ⟨d, hd, ⟨d.frame, Diagnostic.cells_render h, d.underline_of_mem_frame⟩,
    Diagnostic.style_within_iff h, fun length => ⟨Span.start_opening h length,
    Span.stop_opening_le_iff h⟩, fun hsource horigin => ?_⟩
  exact Terminal.run_encode (Diagnostic.escape_not_mem_text_render h hsource horigin)

theorem Token.marks_within_iff_of_short_comment :
    let s : Source := { number := 0, origin := .synthesized [], text := "/é".toList }
    let t : Token := ⟨.fault .unterminatedComment, ⟨s, 0, 1⟩⟩
    t.span.WellFormed ∧ t.isError ∧ ∃ d, Diagnostic.ofToken? t = some d ∧ ¬ d.Overruns
      ∧ ∀ i, (d.style i).underline → t.span.covers i := by
  intro s t
  have hformed : t.span.WellFormed := ⟨by decide, by decide, by decide⟩
  obtain ⟨d, hd, -, hwithin, -⟩ := marks_within_iff t hformed rfl
  have hover : ¬ d.Overruns := by
    cases hd
    rintro ⟨length, ⟨⟩, hover⟩
    exact absurd hover.place (by decide)
  exact ⟨hformed, rfl, d, hd, hover, hwithin.mpr hover⟩

theorem Token.mark_behind_empty_token :
    let s : Source := { number := 0, origin := .synthesized [], text := "ab".toList }
    let t : Token := ⟨.fault .unterminatedString, ⟨s, 0, 0⟩⟩
    let d : Diagnostic := .unterminatedString t.span
    t.span.WellFormed ∧ Diagnostic.ofToken? t = some d ∧ Cell.underlined d.render.cells = ['a']
      ∧ (∀ i, t.span.covers i = false) ∧ ¬ (t.span.opening 1).stop ≤ t.span.stop
      ∧ ¬ ∀ i, (d.style i).underline → t.span.covers i := by
  intro s t d
  have hformed : t.span.WellFormed := ⟨by decide, by decide, by decide⟩
  have hover : t.span.Overruns 1 := ⟨by decide, by decide⟩
  have hnone : ∀ i, t.span.covers i = false := fun i => by simp [t, Span.covers]
  have hmarked : Cell.underlined d.render.cells = ['a'] := by decide +kernel
  refine ⟨hformed, rfl, hmarked, hnone, fun hle => ?_, fun hall => ?_⟩
  · exact (Span.stop_opening_le_iff hformed).mp hle hover
  · have hwithin := Diagnostic.style_within_iff (d := d) hformed
    exact hwithin.mp hall ⟨1, rfl, hover⟩

end LoxReader
