import LoxReader.Proofs.CharClass
import LoxReader.Proofs.Gap
import LoxReader.Token.Lexer

/-!
The lexical grammar. `Munch` has a rule for each form of token, with what must follow it;
`Lexes` puts tokens and gaps in a row. A text can be put together in one way only, the one that the
lexer finds.
-/

namespace LoxReader

open Text Unicode

namespace Kind

def Spells (k : Kind) (t : Text) : Prop := ∃ s, k.spelling? = some s ∧ t = s.toList

/-- The kind out of `groups` that is spelled `t`, or `other` when there is none. -/
def IsSpelled (k : Kind) (groups : List Group) (t : Text) (other : Kind) : Prop :=
  (k.group ∈ groups ∧ k.Spells t) ∨ (k = other ∧ ∀ j : Kind, j.group ∈ groups → ¬ j.Spells t)

theorem isSpelled_iff {groups : List Group} {other k : Kind} {t : Text} {found : Option Kind}
    (hfound : ∀ j, found = some j ↔ j.group ∈ groups ∧ j.Spells t) :
    k.IsSpelled groups t other ↔ found.getD other = k := by
  cases hf : found with
  | none =>
    have hno : ∀ j : Kind, j.group ∈ groups → ¬ j.Spells t := by
      intro j hg hs
      have hj := (hfound j).mpr ⟨hg, hs⟩
      simp [hf] at hj
    constructor
    · rintro (⟨hg, hs⟩ | ⟨rfl, -⟩)
      · exact absurd hs (hno k hg)
      · rfl
    · rintro rfl
      exact .inr ⟨rfl, hno⟩
  | some j =>
    have hj := (hfound j).mp hf
    constructor
    · rintro (hk | ⟨-, hno⟩)
      · have hk := (hfound k).mpr hk
        exact Option.some.inj (hf.symm.trans hk)
      · exact absurd hj.2 (hno j hj.1)
    · rintro rfl
      exact .inl hj

end Kind

namespace Lexeme

theorem isSpelled_keyword_iff {t : Text} {k : Kind} :
    k.IsSpelled [.keyword] t (.literal .name) ↔ wordKind t = k := by
  have hkind : wordKind t = ((Keyword.ofSpelling? t).map Kind.keyword).getD (.literal .name) := by
    unfold wordKind
    cases Keyword.ofSpelling? t <;> rfl
  rw [hkind]
  refine Kind.isSpelled_iff fun j => ?_
  cases j <;> simp [Kind.group, Kind.Spells, Kind.spelling?, Keyword.ofSpelling?_eq_some_iff]

theorem isSpelled_operator_iff {t : Text} {k : Kind} :
    k.IsSpelled [.operator] t (.fault .invalid) ↔ operatorKind t = k := by
  have hkind : operatorKind t
      = ((Operator.ofSpelling? t).map Kind.operator).getD (.fault .invalid) := by
    unfold operatorKind
    cases Operator.ofSpelling? t <;> rfl
  rw [hkind]
  refine Kind.isSpelled_iff fun j => ?_
  cases j <;> simp [Kind.group, Kind.Spells, Kind.spelling?, Operator.ofSpelling?_eq_some_iff]

theorem isSpelled_sign_iff {c : Char} {k : Kind} :
    k.IsSpelled [.punctuation, .delimiter] [c] (.fault .invalid) ↔ signKind c = k := by
  refine Kind.isSpelled_iff fun j => ?_
  have hother : ∀ d : Delimiter, [c] = d.spelling.toList → Punctuation.ofSpelling? [c] = none := by
    intro d hd
    rw [hd]
    cases d <;> decide
  have hor : Kind.ofSign? c = some j
      ↔ (Punctuation.ofSpelling? [c]).map Kind.punctuation = some j
        ∨ Punctuation.ofSpelling? [c] = none
          ∧ (Delimiter.ofSpelling? [c]).map Kind.delimiter = some j := by
    rw [Kind.ofSign?, Option.orElse_eq_orElse, Option.orElse_eq_or, Option.or_eq_some_iff,
      Option.map_eq_none_iff]
  rw [hor]
  cases j with
  | punctuation p =>
    simp [Kind.group, Kind.Spells, Kind.spelling?, Punctuation.ofSpelling?_eq_some_iff]
  | delimiter d =>
    simp only [Kind.group, Kind.Spells, Kind.spelling?, Option.map_eq_some_iff, reduceCtorEq,
      and_false, exists_false, false_or, Kind.delimiter.injEq, exists_eq_right,
      Delimiter.ofSpelling?_eq_some_iff, List.mem_cons, List.not_mem_nil, or_false, or_true,
      true_and, Option.some.injEq, exists_eq_left']
    exact ⟨fun h => h.2, fun h => ⟨hother d h, h⟩⟩
  | _ => simp [Kind.group]

/-- A token of the kind `k` with the text `x`, in front of the text `after`. -/
inductive Munch : Kind → Text → Text → Prop
  | word {c : Char} {x after : Text} {k : Kind} : isAlphabetic c →
      IsRun isWordChar (c :: x) after →
      k.IsSpelled [.keyword] (c :: x) (.literal .name) → Munch k (c :: x) after
  | number {c : Char} {x after : Text} : c.isDigit → IsRun isNumberChar (c :: x) after →
      (c :: x).count '.' ≤ 1 → Munch (.literal .number) (c :: x) after
  | invalidNumber {c : Char} {x after : Text} : c.isDigit → IsRun isNumberChar (c :: x) after →
      1 < (c :: x).count '.' → Munch (.fault .invalid) (c :: x) after
  | string {body after : Text} : '"' ∉ body →
      Munch (.literal .string) ('"' :: (body ++ ['"'])) after
  | unterminatedString {body : Text} : '"' ∉ body →
      Munch (.fault .unterminatedString) ('"' :: body) []
  | unterminatedComment {x : Text} : OpenComment x → Munch (.fault .unterminatedComment) x []
  | operator {c : Char} {x after : Text} {k : Kind} : isOperatorChar c →
      ¬ ['/', '/'] <+: c :: x → ¬ ['/', '*'] <+: c :: x → IsRun isOperatorChar (c :: x) after →
      k.IsSpelled [.operator] (c :: x) (.fault .invalid) → Munch k (c :: x) after
  | sign {c : Char} {after : Text} {k : Kind} : isAlphabetic c = false → c.isDigit = false →
      c ≠ '"' → isOperatorChar c = false → isWhiteSpace c = false →
      k.IsSpelled [.punctuation, .delimiter] [c] (.fault .invalid) → Munch k [c] after

theorem isRun_tail {p : Char → Bool} {c : Char} {x after : Text} (h : IsRun p (c :: x) after) :
    IsRun p x after :=
  ⟨fun d hd => h.1 d (List.mem_cons_of_mem _ hd), h.2⟩

theorem isRun_cons_takeWhile {p : Char → Bool} {c : Char} (hc : p c) (t : Text) :
    IsRun p (c :: t.takeWhile p) (t.dropWhile p) := by
  have hrun := isRun_takeWhile p t
  refine ⟨fun d hd => ?_, hrun.2⟩
  rcases List.mem_cons.mp hd with rfl | hd
  · exact hc
  · exact hrun.1 d hd

theorem run_eq {p : Char → Bool} {kind : Text → Kind} {c : Char} {x after : Text}
    (h : IsRun p (c :: x) after) :
    munch?.run p kind c (x ++ after) = (kind (c :: x), c :: x, after) := by
  have hx := isRun_tail h
  rw [munch?.run, takeWhile_run hx, dropWhile_run hx]

theorem isRun_isStringChar_iff {body rest : Text} :
    IsRun isStringChar body rest ↔ '"' ∉ body ∧ ∀ c ∈ rest.head?, c = '"' := by
  constructor
  · rintro ⟨hbody, hrest⟩
    refine ⟨fun hq => ?_, fun c hc => ?_⟩
    · exact absurd (hbody _ hq) (by decide)
    · simpa [isStringChar] using hrest c hc
  · rintro ⟨hbody, hrest⟩
    refine ⟨fun c hc => ?_, fun c hc => ?_⟩
    · have hne : c ≠ '"' := fun h => hbody (h ▸ hc)
      simpa [isStringChar] using hne
    · simp [isStringChar, hrest c hc]

theorem munch?_quote (t : Text) :
    munch? ('"' :: t) = match t.dropWhile isStringChar with
      | [] => some (.fault .unterminatedString, '"' :: t, [])
      | quote :: rest =>
        some (.literal .string, '"' :: (t.takeWhile isStringChar ++ [quote]), rest) :=
  rfl

theorem munch_of_munch? {t x after : Text} {k : Kind} (hitem : Trivia.item? t = none)
    (h : munch? t = some (k, x, after)) : Munch k x after := by
  cases t with
  | nil => simp [munch?] at h
  | cons c t =>
    by_cases hopen : ['/', '*'] <+: c :: t
    · obtain ⟨t, ht⟩ := hopen
      simp only [List.cons_append, List.nil_append, List.cons.injEq] at ht
      obtain ⟨rfl, rfl⟩ := ht
      rw [Trivia.item?_opening, Option.map_eq_none_iff, Trivia.closeComments_eq_none_iff] at hitem
      simp only [munch?, Option.some.injEq, Prod.mk.injEq] at h
      obtain ⟨rfl, rfl, rfl⟩ := h
      exact .unterminatedComment (openComment_iff.mpr ⟨t, rfl, hitem⟩)
    by_cases hquote : c = '"'
    · subst hquote
      have hrun := isRun_isStringChar_iff.mp (isRun_takeWhile isStringChar t)
      have hwhole := List.takeWhile_append_dropWhile (p := isStringChar) (l := t)
      rw [munch?_quote] at h
      split at h
      · next hdrop =>
        simp only [Option.some.injEq, Prod.mk.injEq] at h
        obtain ⟨rfl, rfl, rfl⟩ := h
        rw [hdrop, List.append_nil] at hwhole
        exact .unterminatedString (hwhole ▸ hrun.1)
      · next quote rest hdrop =>
        simp only [Option.some.injEq, Prod.mk.injEq] at h
        obtain ⟨rfl, rfl, rfl⟩ := h
        obtain rfl : quote = '"' := hrun.2 quote (by simp [hdrop])
        exact .string hrun.1
    rw [munch?_other hquote hopen] at h
    have hline : ¬ ['/', '/'] <+: c :: t := by
      rintro ⟨u, hu⟩
      rw [← hu] at hitem
      exact absurd hitem (by simp [Trivia.item?_slashes])
    split at h
    · next halpha =>
      simp only [munch?.run, Option.some.injEq, Prod.mk.injEq] at h
      obtain ⟨rfl, rfl, rfl⟩ := h
      have hc : isWordChar c := by simp [isWordChar, halpha]
      exact .word halpha (isRun_cons_takeWhile hc t) (isSpelled_keyword_iff.mpr rfl)
    split at h
    · next hdigit =>
      simp only [munch?.run, Option.some.injEq, Prod.mk.injEq] at h
      obtain ⟨rfl, rfl, rfl⟩ := h
      have hc : isNumberChar c := by simp [isNumberChar, hdigit]
      have hrun := isRun_cons_takeWhile hc t
      unfold numberKind
      split
      · exact .number hdigit hrun (by assumption)
      · exact .invalidNumber hdigit hrun (by omega)
    split at h
    · next hoperator =>
      simp only [munch?.run, Option.some.injEq, Prod.mk.injEq] at h
      obtain ⟨rfl, rfl, rfl⟩ := h
      have hrest : ∀ d, ¬ ['/', d] <+: c :: t → ¬ ['/', d] <+: c :: t.takeWhile isOperatorChar := by
        intro d hd hp
        refine hd (hp.trans ?_)
        exact (List.prefix_cons_inj c).mpr (List.takeWhile_prefix _)
      exact .operator hoperator (hrest _ hline) (hrest _ hopen) (isRun_cons_takeWhile hoperator t)
        (isSpelled_operator_iff.mpr rfl)
    · rename_i halpha hdigit hoperator
      simp only [Option.some.injEq, Prod.mk.injEq] at h
      obtain ⟨rfl, rfl, rfl⟩ := h
      rw [Trivia.item?_other hline hopen] at hitem
      exact .sign (by simpa using halpha) (by simpa using hdigit) hquote
        (by simpa using hoperator) (by simpa using hitem) (isSpelled_sign_iff.mpr rfl)

theorem not_prefix_of_isRun {c d : Char} {x after : Text} (h : IsRun isOperatorChar (c :: x) after)
    (hd : isOperatorChar d) (hx : ¬ ['/', d] <+: c :: x) : ¬ ['/', d] <+: c :: (x ++ after) := by
  cases x with
  | nil =>
    rintro ⟨u, hu⟩
    simp only [List.cons_append, List.nil_append, List.cons.injEq] at hu
    have hfalse := h.2 d (by simp [← hu.2])
    simp [hd] at hfalse
  | cons e x => simpa using hx

theorem item?_of_munch {k : Kind} {x after : Text} (h : Munch k x after) :
    Trivia.item? (x ++ after) = none := by
  have hother : ∀ {c : Char} {t : Text}, c ≠ '/' → isWhiteSpace c = false →
      Trivia.item? (c :: t) = none := by
    intro c t hc hw
    rw [Trivia.item?_other (by simp [hc.symm]) (by simp [hc.symm])]
    simp [hw]
  cases h with
  | @word c x _ _ hc _ _ =>
    refine hother (by rintro rfl; exact absurd hc (by decide)) ?_
    cases hw : isWhiteSpace c with
    | false => rfl
    | true => simp [isAlphabetic_of_isWhiteSpace hw] at hc
  | number hc _ _ | invalidNumber hc _ _ =>
    exact hother (by rintro rfl; exact absurd hc (by decide)) (isWhiteSpace_of_isDigit hc)
  | string _ | unterminatedString _ => exact hother (by decide) (by decide)
  | unterminatedComment hx =>
    obtain ⟨body, rfl, hbody⟩ := openComment_iff.mp hx
    rw [List.append_nil, Trivia.item?_opening, Option.map_eq_none_iff]
    exact Trivia.closeComments_eq_none_iff.mpr hbody
  | operator hc hline hblock hrun _ =>
    have hl := not_prefix_of_isRun hrun (by decide) hline
    have hb := not_prefix_of_isRun hrun (by decide) hblock
    rw [List.cons_append, Trivia.item?_other hl hb]
    simp [(class_of_isOperatorChar hc).2.2.2]
  | sign _ _ _ hop hw _ =>
    refine hother ?_ hw
    rintro rfl
    exact absurd hop (by decide)

theorem munch?_digit {c : Char} {x after : Text} (hc : c.isDigit)
    (hrun : IsRun isNumberChar (c :: x) after) :
    munch? (c :: (x ++ after)) = some (numberKind (c :: x), c :: x, after) := by
  have hquote : c ≠ '"' := by rintro rfl; exact absurd hc (by decide)
  have hslash : '/' ≠ c := by rintro rfl; exact absurd hc (by decide)
  rw [munch?_other hquote (by simp [hslash]), run_eq hrun]
  simp [isAlphabetic_of_isDigit hc, hc]

theorem munch?_of_munch {k : Kind} {x after : Text} (h : Munch k x after) :
    munch? (x ++ after) = some (k, x, after) := by
  cases h with
  | @word c x _ _ hc hrun hk =>
    have hquote : c ≠ '"' := by rintro rfl; exact absurd hc (by decide)
    have hslash : '/' ≠ c := by rintro rfl; exact absurd hc (by decide)
    rw [List.cons_append, munch?_other hquote (by simp [hslash]), if_pos hc, run_eq hrun,
      isSpelled_keyword_iff.mp hk]
  | number hc hrun hcount =>
    rw [List.cons_append, munch?_digit hc hrun, numberKind, if_pos hcount]
  | invalidNumber hc hrun hcount =>
    rw [List.cons_append, munch?_digit hc hrun, numberKind, if_neg (by omega)]
  | @string body after hbody =>
    have hrun : IsRun isStringChar body ('"' :: after) :=
      isRun_isStringChar_iff.mpr ⟨hbody, by simp⟩
    rw [List.cons_append, List.append_assoc, List.singleton_append, munch?_quote,
      takeWhile_run hrun, dropWhile_run hrun]
  | @unterminatedString body hbody =>
    have hrun : IsRun isStringChar body [] := isRun_isStringChar_iff.mpr ⟨hbody, by simp⟩
    have hdrop := dropWhile_run hrun
    rw [List.append_nil] at hdrop
    rw [List.append_nil, munch?_quote, hdrop]
  | unterminatedComment hx =>
    obtain ⟨body, rfl, -⟩ := openComment_iff.mp hx
    rw [List.append_nil]
    rfl
  | operator hc hline hblock hrun hk =>
    obtain ⟨halpha, hdigit, hquote, -⟩ := class_of_isOperatorChar hc
    have hb := not_prefix_of_isRun hrun (by decide) hblock
    rw [List.cons_append, munch?_other hquote hb, run_eq hrun, isSpelled_operator_iff.mp hk]
    simp [halpha, hdigit, hc]
  | sign halpha hdigit hquote hop _ hk =>
    have hslash : ∀ c, isOperatorChar c = false → '/' ≠ c := by
      rintro c hc rfl
      exact absurd hc (by decide)
    rw [List.singleton_append, munch?_other hquote (by simp [hslash _ hop]),
      ← isSpelled_sign_iff.mp hk]
    simp [halpha, hdigit, hop]

theorem ne_nil_of_munch {k : Kind} {x after : Text} (h : Munch k x after) : x ≠ [] :=
  munch?_ne_nil (munch?_of_munch h)

/-- Only a string and what is never closed may hold whitespace. -/
theorem isWhiteSpace_eq_false_or_string {k : Kind} {x after : Text} (h : Munch k x after)
    (hquote : k ≠ .fault .unterminatedString) (hcomment : k ≠ .fault .unterminatedComment) :
    (∀ c ∈ x, isWhiteSpace c = false) ∨ k = .literal .string ∧ ∃ front, x = front ++ ['"'] := by
  cases h with
  | word _ hrun _ =>
    exact .inl (isWhiteSpace_eq_false_of_isRun (fun _ => isWordChar_of_isWhiteSpace) hrun)
  | number _ hrun _ | invalidNumber _ hrun _ =>
    exact .inl (isWhiteSpace_eq_false_of_isRun (fun _ => isNumberChar_of_isWhiteSpace) hrun)
  | operator _ _ _ hrun _ =>
    exact .inl (isWhiteSpace_eq_false_of_isRun (fun _ => isOperatorChar_of_isWhiteSpace) hrun)
  | @string body _ _ => exact .inr ⟨rfl, '"' :: body, rfl⟩
  | unterminatedString _ => exact absurd rfl hquote
  | unterminatedComment _ => exact absurd rfl hcomment
  | sign _ _ _ _ hwhite _ => exact .inl (List.forall_mem_singleton.mpr hwhite)

/-- A token is delimited by the character behind it or by the end of the text. -/
theorem munch_of_head? {k : Kind} {x after after' : Text}
    (hhead : ∀ c ∈ after'.head?, c ∈ after.head?) (h : Munch k x after) : Munch k x after' := by
  have hend : after = [] → after' = [] := by
    rintro rfl
    exact List.head?_eq_none_iff.mp (Option.eq_none_iff_forall_not_mem.mpr fun c hc => by
      simpa using hhead c hc)
  cases h with
  | word hc hrun hk => exact .word hc (isRun_of_head? hhead hrun) hk
  | number hc hrun hcount => exact .number hc (isRun_of_head? hhead hrun) hcount
  | invalidNumber hc hrun hcount => exact .invalidNumber hc (isRun_of_head? hhead hrun) hcount
  | string hbody => exact .string hbody
  | unterminatedString hbody =>
    obtain rfl := hend rfl
    exact .unterminatedString hbody
  | unterminatedComment hx =>
    obtain rfl := hend rfl
    exact .unterminatedComment hx
  | operator hc hline hblock hrun hk =>
    exact .operator hc hline hblock (isRun_of_head? hhead hrun) hk
  | sign halpha hdigit hquote hop hw hk => exact .sign halpha hdigit hquote hop hw hk

/-- Tokens that make up a text, each with the gap in front of it. -/
inductive Lexes : Text → List Lexeme → Prop
  | done {gap : Text} : Trivia.Gap [] gap → Lexes gap []
  | token {l : Lexeme} {rest : Text} {ls : List Lexeme} : Trivia.Gap (l.text ++ rest) l.gap →
      Munch l.kind l.text rest → Lexes rest ls → Lexes (l.gap ++ (l.text ++ rest)) (l :: ls)

theorem next?_eq_some_iff {t rest : Text} {l : Lexeme} :
    next? t = some (l, rest) ↔ t = l.gap ++ (l.text ++ rest)
      ∧ Trivia.Gap (l.text ++ rest) l.gap ∧ Munch l.kind l.text rest := by
  constructor
  · intro h
    have ht := append_of_next? h
    obtain ⟨⟨kind, text, tail⟩, hm, he⟩ := Option.map_eq_some_iff.mp h
    simp only [Prod.mk.injEq] at he
    obtain ⟨rfl, rfl⟩ := he
    have hgap := Trivia.gap_split t
    rw [append_of_munch? hm] at hgap
    exact ⟨ht.trans (List.append_assoc ..), hgap, munch_of_munch? (Trivia.item?_split t) hm⟩
  · rintro ⟨rfl, hgap, hmunch⟩
    rw [next?, Trivia.split_of_gap hgap (item?_of_munch hmunch)]
    simp only [munch?_of_munch hmunch, Option.map_some]

theorem next?_eq_none_iff {t : Text} : next? t = none ↔ Trivia.Gap [] t := by
  constructor
  · intro h
    have hbody : (Trivia.split t).2 = [] := munch?_eq_none_iff.mp (Option.map_eq_none_iff.mp h)
    have hgap := Trivia.gap_split t
    have ht := Trivia.append_split t
    rw [hbody] at hgap ht
    rwa [← ht, List.append_nil]
  · intro h
    have hsplit := Trivia.split_of_gap h rfl
    rw [List.append_nil] at hsplit
    rw [next?, hsplit]
    rfl

theorem lexes_all (t : Text) : Lexes t (all t) := by
  fun_induction all t with
  | case1 t l rest h _ ih =>
    obtain ⟨rfl, hgap, hmunch⟩ := next?_eq_some_iff.mp h
    exact .token hgap hmunch ih
  | case2 t h => exact .done (next?_eq_none_iff.mp h)

theorem all_of_lexes {t : Text} {ls : List Lexeme} (h : Lexes t ls) : all t = ls := by
  induction h with
  | done hgap => exact all_of_next?_eq_none (next?_eq_none_iff.mpr hgap)
  | token hgap hmunch _ ih =>
    have hnext := next?_eq_some_iff.mpr ⟨rfl, hgap, hmunch⟩
    rw [all_of_next? hnext, ih]

theorem lexes_iff {t : Text} {ls : List Lexeme} : Lexes t ls ↔ ls = all t := by
  constructor
  · intro h
    exact (all_of_lexes h).symm
  · rintro rfl
    exact lexes_all t

end Lexeme

end LoxReader
