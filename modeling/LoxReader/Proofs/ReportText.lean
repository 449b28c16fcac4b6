import LoxReader.Proofs.Opening
import LoxReader.Proofs.Reports

/-!
The text of a report: its title, and the rows of the excerpt. Control characters in it come from
the source.
-/

namespace LoxReader

open Text

theorem Text.not_mem_of_control {c : Char} (hc : c.toNat < 32) {t : Text}
    (ht : t.all fun d => 32 ≤ d.toNat) : c ∉ t := by
  intro hmem
  have hleast := List.all_eq_true.mp ht c hmem
  rw [decide_eq_true_eq] at hleast
  omega

namespace Diagnostic

def rowText (d : Diagnostic) (row : Row) : Text := (row.render d.shown.numberWidth).text

/-- The rows of a report. -/
def rows (d : Diagnostic) : List Text :=
  ("[error]: ".toList ++ d.title) :: (d.shown.excerpt d.help.toList).map d.rowText

/-- How many bytes a report shows from the start of its token, unless it shows all of it. -/
def shownLength? : Diagnostic → Option Nat
  | invalidToken _ => none
  | unterminatedString _ => some 1
  | unterminatedComment _ => some 2

theorem text_render_eq (d : Diagnostic) :
    d.render.text = "[error]: ".toList ++ d.title
      ++ '\n' :: (d.shown.renderExcerpt (some d.help.toList)).text := by
  rw [render, Styled.text_append, Styled.text_append, Message.text_render]
  simp [Severity.label, Styled.text_cons, Styled.text_nil, Fragment.plain]

theorem text_render (d : Diagnostic) : d.render.text = d.rows.flatMap (· ++ ['\n']) := by
  rw [text_render_eq, Span.text_renderExcerpt, rows, List.flatMap_cons, List.flatMap_map]
  simp only [List.append_assoc, List.singleton_append]
  rfl

theorem mem_title_of_control {d : Diagnostic} {c : Char} (hc : c.toNat < 32) (h : c ∈ d.title) :
    d.fault = .invalid ∧ c ∈ d.span.text := by
  cases d with
  | invalidToken s =>
    have hfront : c ∉ "found an invalid token `".toList := not_mem_of_control hc (by decide)
    have hback : c ∉ ['`'] := not_mem_of_control hc (by decide)
    have hshown := (List.mem_append.mp h).resolve_right hback
    exact ⟨rfl, (List.mem_append.mp hshown).resolve_left hfront⟩
  | unterminatedString s =>
    have htitle : c ∉ "found an unterminated string literal".toList :=
      not_mem_of_control hc (by decide)
    exact absurd h htitle
  | unterminatedComment s =>
    have htitle : c ∉ "found an unclosed `/*` comment".toList := not_mem_of_control hc (by decide)
    exact absurd h htitle

theorem not_mem_help_of_control {d : Diagnostic} {c : Char} (hc : c.toNat < 32) :
    c ∉ d.help.toList := by
  refine not_mem_of_control hc ?_
  cases d with
  | invalidToken s =>
    rw [help, invalidHelp]
    split
    · decide
    · split
      · decide
      · decide
  | unterminatedString s => rw [help]; decide
  | unterminatedComment s => rw [help]; decide

variable {d : Diagnostic}

theorem shown_eq (d : Diagnostic) : d.shown = (d.shownLength?.map d.span.opening).getD d.span := by
  cases d <;> rfl

theorem wellFormed_shown (h : d.span.WellFormed) :
    d.shown.WellFormed ∧ d.shown.source = d.span.source := by
  rw [shown_eq]
  cases d.shownLength? with
  | none => exact ⟨h, rfl⟩
  | some length => exact Span.wellFormed_opening h length

theorem escape_not_mem_text_render (h : d.span.WellFormed) (hsource : '\x1B' ∉ d.span.source.text)
    (horigin : '\x1B' ∉ d.span.source.origin.display) : '\x1B' ∉ d.render.text := by
  obtain ⟨-, hshown⟩ := wellFormed_shown h
  have hexcerpt : '\x1B' ∉ (d.shown.renderExcerpt (some d.help.toList)).text := by
    rw [← hshown] at hsource horigin
    refine Span.escape_not_mem_text_renderExcerpt hsource horigin fun t ht => ?_
    obtain rfl := Option.some.inj ht
    exact not_mem_help_of_control (by decide)
  have htitle : '\x1B' ∉ d.title := by
    intro hmem
    obtain ⟨-, hmem⟩ := mem_title_of_control (by decide) hmem
    obtain ⟨before, after, hparts, -⟩ := Span.parts_of_wellFormed h
    exact hsource (by rw [hparts]; simp [hmem])
  rw [text_render_eq]
  simp [htitle, hexcerpt]

end Diagnostic

theorem Source.escape_not_mem_report {s : Source} {t : Token} (ht : t ∈ s.tokens) {d : Diagnostic}
    (hd : Diagnostic.ofToken? t = some d) (hsource : '\x1B' ∉ s.text)
    (horigin : '\x1B' ∉ s.origin.display) : '\x1B' ∉ d.render.text := by
  have hspan := Diagnostic.span_of_ofToken? hd
  obtain ⟨hplace, -⟩ := (Placed.of_source s).span_of_mem t ht
  have hformed := (Placed.of_source s).wellFormed_of_mem t ht
  rw [← hplace, ← hspan] at hsource horigin
  rw [← hspan] at hformed
  exact Diagnostic.escape_not_mem_text_render hformed hsource horigin

end LoxReader
