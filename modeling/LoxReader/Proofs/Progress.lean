import LoxReader.Proofs.Checked.Cursor
import LoxReader.Proofs.Tiling

/-!
A lexer asked for one token after the other. Every token moves it on, so it comes to the end of its
source, and there it stays.
-/

namespace LoxReader

open Text

namespace Lexer

/-- What `n` more calls leave of a lexer. -/
def advance (l : Lexer) : Nat → Lexer
  | 0 => l
  | n + 1 => l.next.2.advance n

theorem wellFormed_advance {l : Lexer} (h : l.WellFormed) (n : Nat) : (l.advance n).WellFormed := by
  induction n generalizing l with
  | zero => exact h
  | succ n ih => exact ih (wellFormed_next h).1

theorem source_advance (l : Lexer) (n : Nat) : (l.advance n).source = l.source := by
  induction n generalizing l with
  | zero => rfl
  | succ n ih => exact (ih l.next.2).trans (source_next l).1

theorem next_token {l l' : Lexer} {t : Token} (h : l.next = (some t, l')) :
    l.index ≤ t.span.start ∧ t.span.start < t.span.stop ∧ l'.index = t.span.stop := by
  cases hfound : Lexeme.next? l.rest with
  | none =>
    rw [next_of_none hfound] at h
    cases h
  | some result =>
    obtain ⟨lexeme, rest⟩ := result
    have hfilled := byteLength_pos (Lexeme.text_ne_nil_of_next? hfound)
    rw [next_of_lexeme hfound] at h
    cases h
    exact ⟨Nat.le_add_right .., Nat.lt_add_of_pos_right hfilled, rfl⟩

theorem next_of_rest_eq_nil {l : Lexer} (h : l.rest = []) : l.next = (none, l) := by
  have hnothing : Lexeme.next? l.rest = none := by
    rw [h]
    exact Lexeme.next?_eq_none_iff.mpr .nil
  have hstays : l.after l.rest [] = l := by
    rw [h]
    exact h ▸ after_nil l
  rw [next_of_none hnothing, hstays]

theorem advance_of_rest_eq_nil {l : Lexer} (h : l.rest = []) (n : Nat) : l.advance n = l := by
  induction n with
  | zero => rfl
  | succ n ih => rw [advance, next_of_rest_eq_nil h, ih]

theorem next_none {l l' : Lexer} (h : l.next = (none, l')) :
    Trivia.Gap [] l.rest ∧ l' = l.after l.rest [] := by
  cases hfound : Lexeme.next? l.rest with
  | none =>
    rw [next_of_none hfound] at h
    cases h
    exact ⟨Lexeme.next?_eq_none_iff.mp hfound, rfl⟩
  | some result =>
    rw [next_of_lexeme hfound] at h
    cases h

theorem next_advance (l : Lexer) (n : Nat) : (l.advance n).next.1 = l.drain.1[n]? := by
  fun_induction drain l generalizing n with
  | case1 l t l' h _ tokens last hdrain ih =>
    rw [hdrain] at ih
    cases n with
    | zero => rw [advance, h, List.getElem?_cons_zero]
    | succ n => rw [advance, h, List.getElem?_cons_succ, ih]
  | case2 l l' h =>
    rw [List.getElem?_nil]
    cases n with
    | zero => rw [advance, h]
    | succ n =>
      obtain ⟨-, rfl⟩ := next_none h
      rw [advance, h, advance_of_rest_eq_nil rfl, next_of_rest_eq_nil rfl]

theorem length_drain_le (l : Lexer) : l.drain.1.length ≤ l.rest.length := by
  fun_induction drain l with
  | case1 l t l' h _ tokens last hdrain ih =>
    rw [hdrain] at ih
    exact Nat.lt_of_le_of_lt ih (length_of_next h)
  | case2 => exact Nat.zero_le _

theorem isGap_of_wellFormed {l : Lexer} (h : l.WellFormed) (hgap : Trivia.Gap [] l.rest) :
    Span.IsGap ⟨l.source, l.index, l.source.length⟩ := by
  obtain ⟨before, hwhole, hplace⟩ := h
  rw [← hplace, Source.length_of_parts hwhole]
  exact Span.isGap_of_parts (by rw [List.append_nil]; exact hwhole) hgap

/-- The lexer that `n` calls leave behind, and the next call. Machines that hold all the bytes of the
source run each of its loops to the end. -/
theorem next_progress (s : Source) (n : Nat) :
    let l := (ofSource s).advance n
    l.next.1 = s.tokens[n]?
      ∧ (∀ t l', l.next = (some t, l') → l.index < l'.index ∧ l'.index = t.span.stop
        ∧ l.index ≤ t.span.start ∧ t.span.start < t.span.stop)
      ∧ (∀ l', l.next = (none, l') → Span.IsGap ⟨s, l.index, s.length⟩ ∧ l'.index = s.length
        ∧ ∀ m, (l'.advance m).next = (none, l'))
      ∧ (s.length < 2 ^ 63 → l.cursor.next = some (l.next.1, l.next.2.cursor))
      ∧ s.tokens.length ≤ s.text.length := by
  intro l
  have hhere : l.WellFormed := wellFormed_advance (wellFormed_ofSource s) n
  have hsame : l.source = s := source_advance (ofSource s) n
  refine ⟨next_advance (ofSource s) n, fun t l' h => ?_, fun l' h => ?_, fun hfits => ?_, ?_⟩
  · obtain ⟨hstart, hfilled, hstop⟩ := next_token h
    exact ⟨by omega, hstop, hstart, hfilled⟩
  · obtain ⟨hgap, rfl⟩ := next_none h
    have htrivia := isGap_of_wellFormed hhere hgap
    have hstop := index_add_rest hhere
    rw [hsame] at htrivia hstop
    refine ⟨htrivia, hstop, fun m => ?_⟩
    rw [advance_of_rest_eq_nil rfl, next_of_rest_eq_nil rfl]
  · exact next_cursor hhere (hsame ▸ hfits)
  · exact length_drain_le (ofSource s)

end Lexer

end LoxReader
