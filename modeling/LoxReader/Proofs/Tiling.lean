import LoxReader.Proofs.Placement

/-!
Tokens and the gaps around them tile a source.
-/

namespace LoxReader

open Text

namespace Token

/-- The spans in front of, between and behind the tokens of a source, from the offset `start` on. -/
def gaps (s : Source) : Nat → List Token → List Span
  | start, [] => [⟨s, start, s.length⟩]
  | start, t :: ts => ⟨s, start, t.span.start⟩ :: gaps s t.span.stop ts

/-- The spans of the tokens, each behind its gap, and the last gap. -/
def tiles (s : Source) : Nat → List Token → List Span
  | start, [] => [⟨s, start, s.length⟩]
  | start, t :: ts => ⟨s, start, t.span.start⟩ :: t.span :: tiles s t.span.stop ts

end Token

def Span.IsGap (g : Span) : Prop :=
  ∃ before after, g.source.text = before ++ g.text ++ after ∧ g.start = byteLength before
    ∧ g.stop = byteLength (before ++ g.text) ∧ Trivia.Gap after g.text

theorem Span.isGap_of_parts {s : Source} {before gap after : Text}
    (h : s.text = before ++ gap ++ after) (hgap : Trivia.Gap after gap) :
    IsGap ⟨s, byteLength before, byteLength (before ++ gap)⟩ := by
  refine ⟨before, after, ?_⟩
  rw [Source.text_of_parts h]
  exact ⟨h, rfl, rfl, hgap⟩

theorem Source.length_of_parts {s : Source} {before x : Text} (h : s.text = before ++ x) :
    s.length = byteLength (before ++ x) := by
  rw [length, h]

namespace Placed

theorem pairwise {s : Source} {front : Text} {ts : List Token} (h : Placed s front ts) :
    ts.Pairwise fun t u => t.span.stop ≤ u.span.start := by
  induction h with
  | done => exact .nil
  | token _ _ _ htail ih =>
    refine .cons (fun u hu => ?_) ih
    obtain ⟨_, _, _, hle, _⟩ := htail.of_mem u hu
    exact hle

theorem isGap_of_mem_gaps {s : Source} {front : Text} {ts : List Token} (h : Placed s front ts) :
    ∀ g ∈ Token.gaps s (byteLength front) ts, g.IsGap := by
  induction h with
  | @done front gap hparts hgap =>
    intro g hg
    obtain rfl : g = ⟨s, byteLength front, s.length⟩ := by simpa [Token.gaps] using hg
    rw [Source.length_of_parts hparts]
    exact Span.isGap_of_parts (by rw [hparts, List.append_nil]) hgap
  | @token front gap x after k ts hparts hgap _ _ ih =>
    intro g hg
    rcases List.mem_cons.mp hg with rfl | hg
    · exact Span.isGap_of_parts (by rw [hparts, List.append_assoc]) hgap
    · exact ih g hg

theorem text_tiles {s : Source} {front : Text} {ts : List Token} (h : Placed s front ts) :
    front ++ (Token.tiles s (byteLength front) ts).flatMap Span.text = s.text := by
  induction h with
  | @done front gap hparts _ =>
    have hgap : Span.text ⟨s, byteLength front, byteLength (front ++ gap)⟩ = gap :=
      Source.text_of_parts (by rw [hparts, List.append_nil])
    simp only [Token.tiles, Source.length_of_parts hparts, List.flatMap_cons, List.flatMap_nil,
      hgap, List.append_nil, hparts]
  | @token front gap x after k ts hparts _ _ _ ih =>
    have hgap : Span.text ⟨s, byteLength front, byteLength (front ++ gap)⟩ = gap :=
      Source.text_of_parts (by rw [hparts, List.append_assoc])
    have hx : Span.text ⟨s, byteLength (front ++ gap), byteLength (front ++ gap ++ x)⟩ = x :=
      Source.text_of_parts hparts
    simp only [Token.tiles, List.flatMap_cons, hgap, hx]
    simpa only [List.append_assoc] using ih

end Placed

namespace Lexer

theorem drain_tiles (s : Source) :
    let (tokens, last) := (ofSource s).drain
    (∀ t ∈ tokens, t.span.source = s ∧ t.span.start < t.span.stop
        ∧ isBoundary s.text t.span.start ∧ isBoundary s.text t.span.stop)
      ∧ tokens.Pairwise (fun t u => t.span.stop ≤ u.span.start)
      ∧ (∀ g ∈ Token.gaps s 0 tokens, g.IsGap)
      ∧ (Token.tiles s 0 tokens).flatMap Span.text = s.text
      ∧ last.source = s ∧ last.index = s.length := by
  have hplaced : Placed s [] (ofSource s).drain.1 := Placed.of_source s
  refine ⟨fun t ht => ?_, hplaced.pairwise, hplaced.isGap_of_mem_gaps, hplaced.text_tiles, ?_⟩
  · obtain ⟨hsource, hsize⟩ := hplaced.span_of_mem t ht
    obtain ⟨hstart, hstop, -⟩ := hplaced.wellFormed_of_mem t ht
    rw [hsource] at hstart hstop
    exact ⟨hsource, hsize, hstart, hstop⟩
  · rw [drain_eq]
    exact ⟨rfl, Nat.zero_add _⟩

end Lexer

end LoxReader
