import LoxReader.Proofs.Tiling

/-!
Tokens and gaps read alone. What follows a token or a gap only ends it, so a part that is cut out of
a source is read as it was read there.
-/

namespace LoxReader

open Text

namespace Placed

theorem of_munch {s : Source} {k : Kind} (h : Lexeme.Munch k s.text []) :
    Placed s [] [⟨k, s.wholeSpan⟩] := by
  have hparts : s.text = [] ++ [] ++ s.text ++ [] := (List.append_nil _).symm
  have hdone : Placed s ([] ++ [] ++ s.text) [] := .done (List.append_nil _).symm .nil
  exact .token hparts .nil h hdone

theorem of_gap {s : Source} (h : Trivia.Gap [] s.text) : Placed s [] [] :=
  .done rfl h

end Placed

namespace Source

theorem tokens_of_munch {s : Source} {k : Kind} (h : Lexeme.Munch k s.text []) :
    s.tokens = [⟨k, s.wholeSpan⟩] :=
  (Placed.of_munch h).eq_tokens.symm

theorem tokens_of_token {s s' : Source} {t : Token} (ht : t ∈ s.tokens) (h : s'.text = t.text) :
    s'.tokens = [⟨t.kind, s'.wholeSpan⟩] := by
  obtain ⟨_, _, _, _, _, hmunch⟩ := (Placed.of_source s).of_mem t ht
  have halone : Lexeme.Munch t.kind s'.text [] := by
    rw [h]
    exact Lexeme.munch_of_head? (by simp) hmunch
  exact tokens_of_munch halone

theorem tokens_of_gap {s s' : Source} {g : Span} (hg : g ∈ Token.gaps s 0 s.tokens)
    (h : s'.text = g.text) : s'.tokens = [] := by
  obtain ⟨_, _, _, _, _, hgap⟩ := (Placed.of_source s).isGap_of_mem_gaps g hg
  have halone : Trivia.Gap [] s'.text := by
    rw [h]
    exact Trivia.gap_of_head? (by simp) hgap
  exact (Placed.of_gap halone).eq_tokens.symm

theorem kind_eq_of_text_eq {s s' : Source} {t t' : Token} (ht : t ∈ s.tokens)
    (ht' : t' ∈ s'.tokens) (h : t.text = t'.text) : t.kind = t'.kind := by
  let alone : Source := { number := s.number, origin := s.origin, text := t.text }
  have htokens : alone.tokens = [⟨t.kind, alone.wholeSpan⟩] := tokens_of_token ht rfl
  have htokens' : alone.tokens = [⟨t'.kind, alone.wholeSpan⟩] := tokens_of_token ht' h
  have hsame := List.singleton_inj.mp (htokens.symm.trans htokens')
  exact (Token.mk.inj hsame).1

theorem tokens_alone (s : Source) :
    (∀ t ∈ s.tokens, ∀ s' : Source, s'.text = t.text → s'.tokens = [⟨t.kind, s'.wholeSpan⟩])
      ∧ (∀ g ∈ Token.gaps s 0 s.tokens, ∀ s' : Source, s'.text = g.text → s'.tokens = [])
      ∧ ∀ s' : Source, ∀ t ∈ s.tokens, ∀ t' ∈ s'.tokens, t.text = t'.text → t.kind = t'.kind := by
  refine ⟨fun t ht s' h => ?_, fun g hg s' h => ?_, fun s' t ht t' ht' h => ?_⟩
  · exact tokens_of_token ht h
  · exact tokens_of_gap hg h
  · exact kind_eq_of_text_eq ht ht' h

end Source

end LoxReader
