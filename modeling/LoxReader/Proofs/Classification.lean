import LoxReader.Proofs.Placement

/-!
The first character of a token decides the rule that the token was read by.
-/

namespace LoxReader

open Text Unicode

namespace Lexeme

theorem eq_slash_of_openComment {c : Char} {y : Text} (h : OpenComment (c :: y)) : c = '/' := by
  obtain ⟨body, hbody, -⟩ := openComment_iff.mp h
  exact (List.cons.inj hbody).1

theorem munch_word_iff {k : Kind} {c : Char} {y after : Text} (hc : isAlphabetic c) :
    Munch k (c :: y) after ↔
      IsRun isWordChar (c :: y) after ∧ k.IsSpelled [.keyword] (c :: y) (.literal .name) := by
  constructor
  · intro h
    cases h with
    | word _ hrun hk => exact ⟨hrun, hk⟩
    | number hd _ _ | invalidNumber hd _ _ => simp [isAlphabetic_of_isDigit hd] at hc
    | string _ | unterminatedString _ => exact absurd hc (by decide)
    | unterminatedComment hx =>
      obtain rfl := eq_slash_of_openComment hx
      exact absurd hc (by decide)
    | operator ho _ _ _ _ => simp [(class_of_isOperatorChar ho).1] at hc
    | sign ha _ _ _ _ _ => simp [ha] at hc
  · rintro ⟨hrun, hk⟩
    exact .word hc hrun hk

theorem munch_digit_iff {k : Kind} {c : Char} {y after : Text} (hc : c.isDigit) :
    Munch k (c :: y) after ↔ IsRun isNumberChar (c :: y) after ∧ k = numberKind (c :: y) := by
  constructor
  · intro h
    cases h with
    | word ha _ _ => simp [isAlphabetic_of_isDigit hc] at ha
    | number _ hrun hcount => exact ⟨hrun, (if_pos hcount).symm⟩
    | invalidNumber _ hrun hcount => exact ⟨hrun, (if_neg (by omega)).symm⟩
    | string _ | unterminatedString _ => exact absurd hc (by decide)
    | unterminatedComment hx =>
      obtain rfl := eq_slash_of_openComment hx
      exact absurd hc (by decide)
    | operator ho _ _ _ _ => simp [(class_of_isOperatorChar ho).2.1] at hc
    | sign _ hd _ _ _ _ => simp [hd] at hc
  · rintro ⟨hrun, rfl⟩
    unfold numberKind
    split
    · exact .number hc hrun (by assumption)
    · exact .invalidNumber hc hrun (by omega)

theorem munch_quote_iff {k : Kind} {y after : Text} :
    Munch k ('"' :: y) after ↔
      (k = .literal .string ∧ ∃ body, y = body ++ ['"'] ∧ '"' ∉ body)
        ∨ (k = .fault .unterminatedString ∧ '"' ∉ y ∧ after = []) := by
  constructor
  · intro h
    cases h with
    | word ha _ _ => exact absurd ha (by decide)
    | number hd _ _ | invalidNumber hd _ _ => exact absurd hd (by decide)
    | string hbody => exact .inl ⟨rfl, _, rfl, hbody⟩
    | unterminatedString hbody => exact .inr ⟨rfl, hbody, rfl⟩
    | unterminatedComment hx => exact absurd (eq_slash_of_openComment hx) (by decide)
    | operator ho _ _ _ _ => exact absurd ho (by decide)
    | sign _ _ hq _ _ _ => exact absurd rfl hq
  · rintro (⟨rfl, body, rfl, hbody⟩ | ⟨rfl, hy, rfl⟩)
    · exact .string hbody
    · exact .unterminatedString hy

theorem munch_comment_iff {k : Kind} {x after : Text} (hx : ['/', '*'] <+: x) :
    Munch k x after ↔ k = .fault .unterminatedComment ∧ OpenComment x ∧ after = [] := by
  constructor
  · obtain ⟨y, rfl⟩ := hx
    intro h
    cases h with
    | word ha _ _ => exact absurd ha (by decide)
    | number hd _ _ | invalidNumber hd _ _ => exact absurd hd (by decide)
    | unterminatedComment hx => exact ⟨rfl, hx, rfl⟩
    | operator _ _ hblock _ _ => exact absurd ⟨y, rfl⟩ hblock
  · rintro ⟨rfl, hx, rfl⟩
    exact .unterminatedComment hx

theorem munch_operator_iff {k : Kind} {c : Char} {y after : Text} (hc : isOperatorChar c)
    (hblock : ¬ ['/', '*'] <+: c :: y) :
    Munch k (c :: y) after ↔ ¬ ['/', '/'] <+: c :: y ∧ IsRun isOperatorChar (c :: y) after
      ∧ k.IsSpelled [.operator] (c :: y) (.fault .invalid) := by
  obtain ⟨halpha, hdigit, hquote, -⟩ := class_of_isOperatorChar hc
  constructor
  · intro h
    cases h with
    | word ha _ _ => simp [ha] at halpha
    | number hd _ _ | invalidNumber hd _ _ => simp [hd] at hdigit
    | string _ | unterminatedString _ => exact absurd rfl hquote
    | unterminatedComment hx => exact absurd hx.opens hblock
    | operator _ hline _ hrun hk => exact ⟨hline, hrun, hk⟩
    | sign _ _ _ ho _ _ => simp [ho] at hc
  · rintro ⟨hline, hrun, hk⟩
    exact .operator hc hline hblock hrun hk

theorem munch_sign_iff {k : Kind} {c : Char} {y after : Text} (halpha : isAlphabetic c = false)
    (hdigit : c.isDigit = false) (hquote : c ≠ '"') (hop : isOperatorChar c = false) :
    Munch k (c :: y) after ↔ y = [] ∧ isWhiteSpace c = false
      ∧ k.IsSpelled [.punctuation, .delimiter] [c] (.fault .invalid) := by
  constructor
  · intro h
    cases h with
    | word ha _ _ => simp [ha] at halpha
    | number hd _ _ | invalidNumber hd _ _ => simp [hd] at hdigit
    | string _ | unterminatedString _ => exact absurd rfl hquote
    | unterminatedComment hx =>
      obtain rfl := eq_slash_of_openComment hx
      exact absurd hop (by decide)
    | operator ho _ _ _ _ => simp [ho] at hop
    | sign _ _ _ _ hw hk => exact ⟨rfl, hw, hk⟩
  · rintro ⟨rfl, hw, hk⟩
    exact .sign halpha hdigit hquote hop hw hk

/-- What the first character `c` of a token says about the rest `y` of its text, its kind, and the
text after it. -/
structure Classified (k : Kind) (c : Char) (y after : Text) : Prop where
  word : isAlphabetic c → IsRun isWordChar (c :: y) after
    ∧ k.IsSpelled [.keyword] (c :: y) (.literal .name)
  number : c.isDigit → IsRun isNumberChar (c :: y) after
    ∧ k = if (c :: y).count '.' ≤ 1 then .literal .number else .fault .invalid
  string : c = '"' → (k = .literal .string ∧ ∃ body, y = body ++ ['"'] ∧ '"' ∉ body)
    ∨ (k = .fault .unterminatedString ∧ '"' ∉ y ∧ after = [])
  comment : ['/', '*'] <+: c :: y →
    k = .fault .unterminatedComment ∧ OpenComment (c :: y) ∧ after = []
  operator : isOperatorChar c → ¬ ['/', '*'] <+: c :: y → ¬ ['/', '/'] <+: c :: y
    ∧ IsRun isOperatorChar (c :: y) after ∧ k.IsSpelled [.operator] (c :: y) (.fault .invalid)
  sign : isAlphabetic c = false → c.isDigit = false → c ≠ '"' → isOperatorChar c = false → y = []
    ∧ isWhiteSpace c = false ∧ k.IsSpelled [.punctuation, .delimiter] [c] (.fault .invalid)

theorem classified_of_munch {k : Kind} {c : Char} {y after : Text} (h : Munch k (c :: y) after) :
    Classified k c y after where
  word hc := (munch_word_iff hc).mp h
  number hc := (munch_digit_iff hc).mp h
  string hc := by
    subst hc
    exact munch_quote_iff.mp h
  comment hx := (munch_comment_iff hx).mp h
  operator hc hblock := (munch_operator_iff hc hblock).mp h
  sign halpha hdigit hquote hop := (munch_sign_iff halpha hdigit hquote hop).mp h

end Lexeme

namespace Source

theorem tokens_grammar (s : Source) :
    (∀ t ∈ s.tokens, ∃ before c y after, s.text = before ++ t.text ++ after ∧ t.text = c :: y
        ∧ t.span = ⟨s, byteLength before, byteLength (before ++ t.text)⟩
        ∧ Lexeme.Classified t.kind c y after)
      ∧ ∃ ls, s.tokens = Token.place s 0 ls ∧ ∀ ls', Lexeme.Lexes s.text ls' ↔ ls' = ls := by
  refine ⟨fun t ht => ?_, Lexeme.all s.text, s.tokens_eq, fun ls' => Lexeme.lexes_iff⟩
  obtain ⟨before, after, htext, -, hspan, hform⟩ := (Placed.of_source s).of_mem t ht
  obtain ⟨c, y, hx⟩ := List.exists_cons_of_ne_nil (Lexeme.ne_nil_of_munch hform)
  refine ⟨before, c, y, after, htext, hx, hspan, Lexeme.classified_of_munch ?_⟩
  rwa [← hx]

end Source

end LoxReader
