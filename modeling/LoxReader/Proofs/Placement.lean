import LoxReader.Proofs.Grammar
import LoxReader.Proofs.WellFormed

/-!
The tokens of a source where they stand: each has its gap in front of it and its form, and its span
is measured by the text before it.
-/

namespace LoxReader

open Text

theorem Text.byteLength_pos {t : Text} (h : t ≠ []) : 0 < byteLength t := by
  obtain ⟨c, t, rfl⟩ := List.exists_cons_of_ne_nil h
  have hc := c.utf8Size_pos
  rw [byteLength_cons]
  omega

/-- The tokens of a source behind its part `front`. -/
inductive Placed (s : Source) : Text → List Token → Prop
  | done {front gap : Text} : s.text = front ++ gap → Trivia.Gap [] gap → Placed s front []
  | token {front gap x after : Text} {k : Kind} {ts : List Token} :
      s.text = front ++ gap ++ x ++ after → Trivia.Gap (x ++ after) gap → Lexeme.Munch k x after →
      Placed s (front ++ gap ++ x) ts →
      Placed s front (⟨k, ⟨s, byteLength (front ++ gap), byteLength (front ++ gap ++ x)⟩⟩ :: ts)

namespace Placed

theorem of_lexes {s : Source} {front t : Text} {ls : List Lexeme} (ht : s.text = front ++ t)
    (h : Lexeme.Lexes t ls) : Placed s front (Token.place s (byteLength front) ls) := by
  induction h generalizing front with
  | done hgap => exact .done ht hgap
  | @token l rest ls hgap hmunch _ ih =>
    have hparts : s.text = front ++ l.gap ++ l.text ++ rest := by
      simp only [ht, List.append_assoc]
    have htail := ih hparts
    have hplaced := Placed.token hparts hgap hmunch htail
    simpa only [Token.place, byteLength_append] using hplaced

theorem of_source (s : Source) : Placed s [] s.tokens := by
  rw [s.tokens_eq]
  exact of_lexes rfl (Lexeme.lexes_all s.text)

theorem exists_lexes {s : Source} {front : Text} {ts : List Token} (h : Placed s front ts) :
    ∃ t ls, s.text = front ++ t ∧ Lexeme.Lexes t ls ∧ ts = Token.place s (byteLength front) ls := by
  induction h with
  | @done front gap hparts hgap => exact ⟨gap, [], hparts, .done hgap, rfl⟩
  | @token front gap x after k ts hparts hgap hmunch _ ih =>
    obtain ⟨t, ls, ht, hlexes, rfl⟩ := ih
    obtain rfl : after = t := List.append_cancel_left (hparts.symm.trans ht)
    have hall := Lexeme.Lexes.token (l := ⟨gap, k, x⟩) hgap hmunch hlexes
    refine ⟨gap ++ (x ++ after), ⟨gap, k, x⟩ :: ls, by simp [hparts], hall, ?_⟩
    simp only [Token.place, byteLength_append]

theorem eq_tokens {s : Source} {ts : List Token} (h : Placed s [] ts) : ts = s.tokens := by
  obtain ⟨t, ls, ht, hlexes, rfl⟩ := h.exists_lexes
  rw [s.tokens_eq, ht, List.nil_append, Lexeme.all_of_lexes hlexes]
  rfl

theorem eq_nil_of_whole {s : Source} {front : Text} {ts : List Token} (h : Placed s front ts)
    (hwhole : s.text = front) : ts = [] := by
  cases h with
  | done => rfl
  | @token _ gap x after _ _ hparts _ hmunch _ =>
    have hsize := congrArg List.length (hparts.symm.trans hwhole)
    have hpos := List.length_pos_iff.mpr (Lexeme.ne_nil_of_munch hmunch)
    simp only [List.length_append] at hsize
    omega

theorem of_mem {s : Source} {front : Text} {ts : List Token} (h : Placed s front ts) :
    ∀ t ∈ ts, ∃ before after, s.text = before ++ t.text ++ after ∧ byteLength front ≤ t.span.start
      ∧ t.span = ⟨s, byteLength before, byteLength (before ++ t.text)⟩
      ∧ Lexeme.Munch t.kind t.text after := by
  induction h with
  | done => simp
  | @token front gap x after k ts hparts _ hmunch _ ih =>
    intro t ht
    rcases List.mem_cons.mp ht with rfl | ht
    · have hx : Span.text ⟨s, byteLength (front ++ gap), byteLength (front ++ gap ++ x)⟩ = x :=
        Source.text_of_parts hparts
      refine ⟨front ++ gap, after, ?_⟩
      simp only [Token.text, hx]
      exact ⟨hparts, by simp, trivial, hmunch⟩
    · obtain ⟨before, rest, htext, hle, hspan, hform⟩ := ih t ht
      simp only [byteLength_append] at hle
      exact ⟨before, rest, htext, by omega, hspan, hform⟩

theorem span_of_mem {s : Source} {front : Text} {ts : List Token} (h : Placed s front ts) :
    ∀ t ∈ ts, t.span.source = s ∧ t.span.start < t.span.stop := by
  intro t ht
  obtain ⟨before, after, -, -, hspan, hmunch⟩ := h.of_mem t ht
  have hpos := byteLength_pos (Lexeme.ne_nil_of_munch hmunch)
  rw [hspan]
  refine ⟨rfl, ?_⟩
  rw [byteLength_append]
  exact Nat.lt_add_of_pos_right hpos

theorem wellFormed_of_mem {s : Source} {front : Text} {ts : List Token} (h : Placed s front ts) :
    ∀ t ∈ ts, t.span.WellFormed := by
  intro t ht
  obtain ⟨before, after, hparts, -, hspan, -⟩ := h.of_mem t ht
  have hstart : isBoundary s.text (byteLength before) := by
    rw [hparts, List.append_assoc]
    exact isBoundary_append ..
  have hstop : isBoundary s.text (byteLength (before ++ t.text)) := by
    rw [hparts]
    exact isBoundary_append ..
  rw [hspan]
  refine ⟨hstart, hstop, ?_⟩
  rw [byteLength_append]
  exact Nat.le_add_right ..

end Placed

end LoxReader
