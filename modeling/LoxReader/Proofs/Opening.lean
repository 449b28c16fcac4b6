import LoxReader.Proofs.Rows
import LoxReader.Report.Diagnostic

/-!
The opening of a span starts where the span does. It lies within the span unless the span is too
short for it and a character of the source ends where the opening is to end.
-/

namespace LoxReader

open Text

namespace Span

/-- So many bytes from the start of a span lead behind its end, to another place of its source. -/
structure Overruns (s : Span) (length : Nat) : Prop where
  past : s.stop < s.start + length
  place : isBoundary s.source.text (s.start + length)

variable {s : Span} {length : Nat}

theorem opening_of_isBoundary (hstart : isBoundary s.source.text s.start)
    (hplace : isBoundary s.source.text (s.start + length)) :
    s.opening length = ⟨s.source, s.start, s.start + length⟩ := by
  have hmade := Source.span_eq_ok_iff.mpr ⟨hstart, hplace, Nat.le_add_right .., rfl⟩
  rw [opening, hmade]
  rfl

theorem opening_of_not_isBoundary (hplace : ¬ isBoundary s.source.text (s.start + length)) :
    s.opening length = s := by
  cases hmade : s.source.span s.start (s.start + length) with
  | error e =>
    rw [opening, hmade]
    rfl
  | ok span => exact absurd (Source.span_eq_ok_iff.mp hmade).2.1 hplace

theorem wellFormed_opening (h : s.WellFormed) (length : Nat) :
    (s.opening length).WellFormed ∧ (s.opening length).source = s.source := by
  by_cases hplace : isBoundary s.source.text (s.start + length)
  · rw [opening_of_isBoundary h.start hplace]
    exact ⟨⟨h.start, hplace, Nat.le_add_right ..⟩, rfl⟩
  · rw [opening_of_not_isBoundary hplace]
    exact ⟨h, rfl⟩

theorem start_opening (h : s.WellFormed) (length : Nat) : (s.opening length).start = s.start := by
  by_cases hplace : isBoundary s.source.text (s.start + length)
  · rw [opening_of_isBoundary h.start hplace]
  · rw [opening_of_not_isBoundary hplace]

theorem stop_opening_le_iff (h : s.WellFormed) :
    (s.opening length).stop ≤ s.stop ↔ ¬ s.Overruns length := by
  by_cases hplace : isBoundary s.source.text (s.start + length)
  · rw [opening_of_isBoundary h.start hplace]
    constructor
    · intro hle hover
      exact absurd hover.past (Nat.not_lt.mpr hle)
    · intro hover
      exact Nat.le_of_not_lt fun hpast => hover ⟨hpast, hplace⟩
  · rw [opening_of_not_isBoundary hplace]
    exact iff_of_true (Nat.le_refl _) fun hover => hplace hover.place

theorem covers_opening_iff (h : s.WellFormed) :
    (∀ i, (s.opening length).covers i → s.covers i) ↔ ¬ s.Overruns length := by
  have hordered := h.ordered
  simp only [covers, decide_eq_true_eq, start_opening h]
  constructor
  · intro hall hover
    -- the first character behind the span is in its opening
    rw [opening_of_isBoundary h.start hover.place] at hall
    have hbehind := hall s.stop ⟨hordered, hover.past⟩
    exact Nat.lt_irrefl _ hbehind.2
  · rintro hover i ⟨hstart, hstop⟩
    exact ⟨hstart, Nat.lt_of_lt_of_le hstop ((stop_opening_le_iff h).mpr hover)⟩

end Span

end LoxReader
