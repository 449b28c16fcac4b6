import LoxReader.Proofs.Concatenation

/-!
Text that is appended to a source changes no token that ended before: the character behind a token
is all that the lexer looks at beyond it.
-/

namespace LoxReader

open Text

/-- The tokens of a source that end before it does. -/
def Source.settled (s : Source) : List Token := s.tokens.filter fun t => t.span.stop < s.length

namespace Placed

theorem exists_of_front {s : Source} {front t : Text} (h : s.text = front ++ t) :
    ∃ ts, Placed s front ts :=
  ⟨_, of_lexes h (Lexeme.lexes_all t)⟩

/-- Only the last token of a source is open to what follows, and only where it ends the source. -/
theorem settle {s s' : Source} {t : Text} (hwhole : s'.text = s.text ++ t) {front : Text}
    {ts : List Token} (h : Placed s front ts) :
    ∃ kept last, ts = kept ++ last ∧ last.length ≤ 1 ∧ (∀ u ∈ kept, u.span.stop < s.length)
      ∧ (∀ u ∈ last, u.span.stop = s.length)
      ∧ ∃ rest, Placed s' front (kept.map (Token.shift s' 0) ++ rest) := by
  induction h with
  | @done front gap hparts _ =>
    have hrest : s'.text = front ++ (gap ++ t) := by rw [hwhole, hparts, List.append_assoc]
    exact ⟨[], [], rfl, Nat.zero_le _, by simp, by simp, exists_of_front hrest⟩
  | @token front gap x after k ts hparts hgap hmunch htail ih =>
    -- a token that ends the source may grow, and then nothing stands behind it
    by_cases hafter : after = []
    · rw [hafter, List.append_nil] at hparts
      obtain rfl := htail.eq_nil_of_whole hparts
      have hrest : s'.text = front ++ (gap ++ x ++ t) := by
        rw [hwhole, hparts]
        simp only [List.append_assoc]
      refine ⟨[], [_], rfl, Nat.le_refl _, by simp, fun u hu => ?_, exists_of_front hrest⟩
      obtain rfl := List.mem_singleton.mp hu
      rw [Source.length, hparts]
    · obtain ⟨kept, last, rfl, hlast, hkept, hstop, rest, hplaced⟩ := ih
      refine ⟨_ :: kept, last, rfl, hlast, List.forall_mem_cons.mpr ⟨?_, hkept⟩, hstop, rest, ?_⟩
      · have hpos := byteLength_pos hafter
        rw [Source.length, hparts, byteLength_append _ after]
        exact Nat.lt_add_of_pos_right hpos
      · exact token_append hwhole hparts hafter hgap hmunch hplaced

end Placed

theorem Source.settled_append {s : Source} {kept last : List Token} (h : s.tokens = kept ++ last)
    (hkept : ∀ t ∈ kept, t.span.stop < s.length) (hlast : ∀ t ∈ last, t.span.stop = s.length) :
    s.settled = kept := by
  have hall : kept.filter (fun t => t.span.stop < s.length) = kept :=
    List.filter_eq_self.mpr fun t ht => decide_eq_true (hkept t ht)
  have hnone : last.filter (fun t => t.span.stop < s.length) = [] :=
    List.filter_eq_nil_iff.mpr fun t ht => by simp [hlast t ht]
  rw [settled, h, List.filter_append, hall, hnone, List.append_nil]

theorem Source.tokens_stable (s s' : Source) (h : s.text <+: s'.text) :
    s.settled.map (Token.shift s' 0) <+: s'.tokens
      ∧ (s.settled.map (Token.shift s' 0)).map Token.text = s.settled.map Token.text
      ∧ ∃ last, s.tokens = s.settled ++ last ∧ last.length ≤ 1 := by
  obtain ⟨t, ht⟩ := h
  obtain ⟨kept, last, htokens, hlast, hkept, hstop, rest, hplaced⟩ :=
    (Placed.of_source s).settle ht.symm
  have hsettled : s.settled = kept := settled_append htokens hkept hstop
  rw [hsettled]
  refine ⟨⟨rest, hplaced.eq_tokens⟩, ?_, last, htokens, hlast⟩
  have hfront : s'.text = [] ++ s.text ++ t := ht.symm
  rw [List.map_map]
  refine List.map_congr_left fun u hu => ?_
  have hmem : u ∈ s.tokens := htokens ▸ List.mem_append_left last hu
  exact Token.text_shift hfront hmem

theorem Source.tokens_stable_of_open_run :
    let s : Source := { number := 0, origin := .synthesized [], text := "é/* \"*/1.5 // \n+".toList }
    let s' : Source := { number := 1, origin := .synthesized [], text := s.text ++ "=/*\"".toList }
    s.text <+: s'.text ∧ s.settled.map (Token.shift s' 0) <+: s'.tokens
      ∧ (s.settled.map (Token.shift s' 0)).map Token.text = s.settled.map Token.text
      ∧ ∃ last, s.tokens = s.settled ++ last ∧ last.length ≤ 1 := by
  intro s s'
  have hstart : s.text <+: s'.text := List.prefix_append ..
  exact ⟨hstart, tokens_stable s s' hstart⟩

end LoxReader
