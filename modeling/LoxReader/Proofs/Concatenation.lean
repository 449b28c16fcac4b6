import LoxReader.Proofs.Placement

/-!
A line terminator outside of strings and comments ends all that was begun: a text is read the same
whatever follows it, and what follows is read as if nothing stood in front.
-/

namespace LoxReader

open Text Unicode

namespace Lexeme

theorem getLast?_of_munch {k : Kind} {x after : Text} (h : Munch k x after)
    (hstring : k ≠ .fault .unterminatedString) (hcomment : k ≠ .fault .unterminatedComment) :
    ∀ c ∈ x.getLast?, isLineTerminator c = false := by
  intro c hlast
  rcases isWhiteSpace_eq_false_or_string h hstring hcomment with hwhite | ⟨-, front, rfl⟩
  · exact isLineTerminator_eq_false (hwhite c (List.mem_of_getLast? hlast))
  · rw [List.getLast?_concat] at hlast
    obtain rfl := Option.some.inj hlast
    decide

end Lexeme

/-- A token as it stands in `s`, in which its source starts at the offset `n`. -/
def Token.shift (s : Source) (n : Nat) (t : Token) : Token :=
  ⟨t.kind, ⟨s, t.span.start + n, t.span.stop + n⟩⟩

theorem Token.text_shift {s s' : Source} {before after : Text} {t : Token}
    (hwhole : s'.text = before ++ s.text ++ after) (ht : t ∈ s.tokens) :
    (t.shift s' (byteLength before)).text = t.text := by
  obtain ⟨front, rest, hparts, -, hspan, -⟩ := (Placed.of_source s).of_mem t ht
  have hparts' : s'.text = (before ++ front) ++ t.text ++ (rest ++ after) := by
    rw [hwhole, hparts]
    simp only [List.append_assoc]
  have hshift : (t.shift s' (byteLength before)).span
      = ⟨s', byteLength (before ++ front), byteLength (before ++ front ++ t.text)⟩ := by
    simp only [shift, hspan, Span.mk.injEq, byteLength_append, true_and]
    omega
  rw [text, hshift, Source.text_of_parts hparts']

namespace Placed

theorem shift {s s' : Source} {before front : Text} {ts : List Token}
    (hwhole : s'.text = before ++ s.text) (h : Placed s front ts) :
    Placed s' (before ++ front) (ts.map (Token.shift s' (byteLength before))) := by
  induction h with
  | done hparts hgap => exact .done (by rw [hwhole, hparts, List.append_assoc]) hgap
  | @token front gap x after k ts hparts hgap hmunch _ ih =>
    have hparts' : s'.text = (before ++ front) ++ gap ++ x ++ after := by
      rw [hwhole, hparts]
      simp only [List.append_assoc]
    have htail : Placed s' ((before ++ front) ++ gap ++ x)
        (ts.map (Token.shift s' (byteLength before))) := by
      simpa only [List.append_assoc] using ih
    have hplaced := Placed.token hparts' hgap hmunch htail
    simpa only [List.map_cons, Token.shift, byteLength_append, Nat.add_comm, Nat.add_left_comm,
      Nat.add_assoc] using hplaced

theorem widen {s : Source} {front gap after : Text} {ts : List Token}
    (hparts : s.text = front ++ gap ++ after) (hgap : Trivia.Gap after gap)
    (h : Placed s (front ++ gap) ts) : Placed s front ts := by
  cases h with
  | @done _ gap' hparts' hgap' =>
    obtain rfl := List.append_cancel_left (hparts.symm.trans hparts')
    rw [List.append_assoc] at hparts
    rw [← List.append_nil after] at hgap
    exact .done hparts (Trivia.gap_append hgap hgap')
  | @token _ gap' x after' k ts hparts' hgap' hmunch htail =>
    have hall : s.text = front ++ gap ++ (gap' ++ (x ++ after')) := by
      rw [hparts']
      simp only [List.append_assoc]
    obtain rfl := List.append_cancel_left (hparts.symm.trans hall)
    have hwide : s.text = front ++ (gap ++ gap') ++ x ++ after' := by
      rw [hparts']
      simp only [List.append_assoc]
    have htail' : Placed s (front ++ (gap ++ gap') ++ x) ts := by
      simpa only [List.append_assoc] using htail
    have hplaced := Placed.token hwide (Trivia.gap_append hgap hgap') hmunch htail'
    simpa only [List.append_assoc] using hplaced

/-- A token with a character behind it stands in a longer text as it stood. -/
theorem token_append {s s' : Source} {t front gap x after : Text} {k : Kind} {ts : List Token}
    (hwhole : s'.text = s.text ++ t) (hparts : s.text = front ++ gap ++ x ++ after)
    (hafter : after ≠ []) (hgap : Trivia.Gap (x ++ after) gap) (hmunch : Lexeme.Munch k x after)
    (htail : Placed s' (front ++ gap ++ x) ts) :
    Placed s' front
      (⟨k, ⟨s', byteLength (front ++ gap), byteLength (front ++ gap ++ x)⟩⟩ :: ts) := by
  have hhead : ∀ c ∈ (after ++ t).head?, c ∈ after.head? := by
    obtain ⟨c, after, rfl⟩ := List.exists_cons_of_ne_nil hafter
    exact fun _ hc => hc
  have hparts' : s'.text = front ++ gap ++ x ++ (after ++ t) := by
    rw [hwhole, hparts, List.append_assoc]
  have hgap' : Trivia.Gap (x ++ (after ++ t)) gap :=
    Trivia.gap_of_head? (mem_head?_append hhead x) hgap
  exact .token hparts' hgap' (Lexeme.munch_of_head? hhead hmunch) htail

theorem append {s₁ s₂ s : Source} (hwhole : s.text = s₁.text ++ s₂.text)
    (hends : ∀ c ∈ s₁.text.getLast?, isLineTerminator c) {front : Text} {ts : List Token}
    (h : Placed s₁ front ts)
    (hclosed : ∀ t ∈ ts, t.kind ≠ .fault .unterminatedString
      ∧ t.kind ≠ .fault .unterminatedComment) :
    Placed s front (ts.map (Token.shift s 0) ++ s₂.tokens.map (Token.shift s s₁.length)) := by
  induction h with
  | @done front gap hparts hgap =>
    have hparts' : s.text = front ++ gap ++ s₂.text := by rw [hwhole, hparts]
    have hlast : ∀ c ∈ gap.getLast?, isLineTerminator c := by
      intro c hc
      apply hends
      rw [hparts, List.getLast?_append, Option.mem_def.mp hc]
      rfl
    -- the gap at the end of the first text and the one at the start of the second become one
    have hbehind := (of_source s₂).shift hwhole
    rw [List.append_nil, hparts] at hbehind
    rw [Source.length, hparts]
    exact hbehind.widen hparts' (Trivia.gap_of_getLast? hgap hlast)
  | @token front gap x after k ts hparts hgap hmunch _ ih =>
    obtain ⟨hk, hts⟩ := List.forall_mem_cons.mp hclosed
    -- no such token ends with a terminator, so a character of the first text comes next
    have hafter : after ≠ [] := by
      rintro rfl
      have hc := List.getLast?_eq_some_getLast (Lexeme.ne_nil_of_munch hmunch)
      generalize x.getLast _ = c at hc
      have hterm : isLineTerminator c := by
        apply hends
        rw [hparts, List.append_nil, List.getLast?_append, hc]
        rfl
      rw [Lexeme.getLast?_of_munch hmunch hk.1 hk.2 c hc] at hterm
      cases hterm
    exact token_append hwhole hparts hafter hgap hmunch (ih hts)

end Placed

theorem Source.tokens_append (s₁ s₂ s : Source) (hwhole : s.text = s₁.text ++ s₂.text)
    (hends : ∃ c ∈ s₁.text.getLast?, isLineTerminator c)
    (hclosed : ∀ t ∈ s₁.tokens, t.kind ≠ .fault .unterminatedString
      ∧ t.kind ≠ .fault .unterminatedComment) :
    s.tokens = s₁.tokens.map (Token.shift s 0) ++ s₂.tokens.map (Token.shift s s₁.length)
      ∧ s.tokens.map Token.text = s₁.tokens.map Token.text ++ s₂.tokens.map Token.text := by
  have hlast : ∀ c ∈ s₁.text.getLast?, isLineTerminator c := by
    obtain ⟨c, hc, hterm⟩ := hends
    intro d hd
    obtain rfl : c = d := Option.some.inj (hc.symm.trans hd)
    exact hterm
  have htokens := (Placed.append hwhole hlast (Placed.of_source s₁) hclosed).eq_tokens
  refine ⟨htokens.symm, ?_⟩
  rw [← htokens, List.map_append, List.map_map, List.map_map]
  have hfront : s.text = [] ++ s₁.text ++ s₂.text := hwhole
  have hback : s.text = s₁.text ++ s₂.text ++ [] := by rw [hwhole, List.append_nil]
  congr 1
  · exact List.map_congr_left fun t ht => Token.text_shift hfront ht
  · exact List.map_congr_left fun t ht => Token.text_shift hback ht

theorem Source.tokens_append_of_divided_pair :
    let s₁ : Source := { number := 0, origin := .synthesized [], text := "a%% // \"\r".toList }
    let s₂ : Source := { number := 1, origin := .synthesized [], text := "\né/* \"".toList }
    let s : Source := { number := 2, origin := .synthesized [], text := s₁.text ++ s₂.text }
    (∃ c ∈ s₁.text.getLast?, isLineTerminator c)
      ∧ (∀ t ∈ s₁.tokens, t.kind ≠ .fault .unterminatedString
        ∧ t.kind ≠ .fault .unterminatedComment)
      ∧ s.tokens = s₁.tokens.map (Token.shift s 0) ++ s₂.tokens.map (Token.shift s s₁.length)
      ∧ s.tokens.map Token.text = s₁.tokens.map Token.text ++ s₂.tokens.map Token.text := by
  intro s₁ s₂ s
  have hends : ∃ c ∈ s₁.text.getLast?, isLineTerminator c := ⟨'\r', rfl, rfl⟩
  have hclosed : ∀ t ∈ s₁.tokens, t.kind ≠ .fault .unterminatedString
      ∧ t.kind ≠ .fault .unterminatedComment := by decide +kernel
  exact ⟨hends, hclosed, tokens_append s₁ s₂ s rfl hends hclosed⟩

end LoxReader
