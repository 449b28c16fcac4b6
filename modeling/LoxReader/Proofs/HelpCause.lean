import LoxReader.Proofs.Classification
import LoxReader.Proofs.Isolation
import LoxReader.Proofs.Reports

/-!
Why a text is no token, and whether the help that stands under it says so.
-/

namespace LoxReader

open Text Unicode Lexeme

/-- What makes a text an invalid token. -/
inductive Cause where
  | number
  | operator
  | character
  deriving DecidableEq, Repr

namespace Cause

/-- The help that names a cause. -/
def help : Cause → String
  | number => "a number can contain at most one `.`"
  | operator => "this is not one of the operators `!= == >= <= > < = + - * / %`"
  | character => "this character can't start a token"

/-- A run of digits and points with more than one point, a run of operator characters that spells no
operator, or a character that no token begins with. -/
def Explains : Cause → Text → Prop
  | number, t => (∃ c ∈ t.head?, c.isDigit) ∧ (∀ c ∈ t, isNumberChar c) ∧ 1 < t.count '.'
  | operator, t => t ≠ [] ∧ (∀ c ∈ t, isOperatorChar c) ∧ ∀ o : Operator, t ≠ o.spelling.toList
  | character, t => ∃ c, t = [c] ∧ ∀ s : Source, ∀ u ∈ s.tokens, u.isError = false →
      u.text.head? ≠ some c

end Cause

theorem Source.text_wholeSpan (s : Source) : s.wholeSpan.text = s.text := by
  have hparts : s.text = [] ++ s.text ++ [] := (List.append_nil _).symm
  exact text_of_parts hparts

theorem Lexeme.exists_token {k : Kind} {x : Text} (h : Munch k x []) :
    ∃ s : Source, ∃ t ∈ s.tokens, t.kind = k ∧ t.text = x := by
  let s : Source := { number := 0, origin := .synthesized [], text := x }
  have htokens : s.tokens = [⟨k, s.wholeSpan⟩] := Source.tokens_of_munch h
  refine ⟨s, ⟨k, s.wholeSpan⟩, ?_, rfl, s.text_wholeSpan⟩
  rw [htokens]
  exact List.mem_singleton_self _

namespace Cause

theorem help_injective {a b : Cause} (h : a.help = b.help) : a = b := by
  revert h
  cases a <;> cases b <;> decide

theorem not_character_of_munch {k : Kind} {c : Char} {y : Text} (h : Munch k (c :: y) [])
    (hk : k.isError = false) : ¬ character.Explains [c] := by
  rintro ⟨d, hd, hnone⟩
  obtain rfl := List.singleton_inj.mp hd
  obtain ⟨s, t, ht, rfl, htext⟩ := exists_token h
  exact hnone s t ht hk (by rw [htext]; rfl)

theorem eq_bang_of_operator {c : Char} (h : operator.Explains [c]) : c = '!' := by
  obtain ⟨-, hchars, hspell⟩ := h
  have hc := isOperatorChar_iff.mp (hchars c (List.mem_singleton_self c))
  simp only [List.mem_cons, List.not_mem_nil, or_false] at hc
  rcases hc with rfl | rfl | rfl | rfl | rfl | rfl | rfl | rfl | rfl
  · exact absurd rfl (hspell .less)
  · exact absurd rfl (hspell .greater)
  · rfl
  · exact absurd rfl (hspell .assign)
  · exact absurd rfl (hspell .plus)
  · exact absurd rfl (hspell .minus)
  · exact absurd rfl (hspell .multiply)
  · exact absurd rfl (hspell .divide)
  · exact absurd rfl (hspell .modulo)

theorem explains_bang : operator.Explains ['!'] :=
  ⟨List.cons_ne_nil _ _, List.forall_mem_singleton.mpr (by decide), fun o => by cases o <;> decide⟩

theorem munch_bang : Munch (.fault .invalid) ['!'] [] := by
  have hrun : IsRun isOperatorChar ['!'] [] := ⟨explains_bang.2.1, by simp⟩
  exact .operator (by decide) (by decide) (by decide) hrun (isSpelled_operator_iff.mpr (by decide))

theorem munch_notEquals : Munch (.operator .notEquals) ['!', '='] [] := by
  have hchars : ∀ c ∈ ['!', '='], isOperatorChar c :=
    List.forall_mem_cons.mpr ⟨by decide, List.forall_mem_singleton.mpr (by decide)⟩
  have hrun : IsRun isOperatorChar ['!', '='] [] := ⟨hchars, by simp⟩
  exact .operator (by decide) (by decide) (by decide) hrun (isSpelled_operator_iff.mpr (by decide))

theorem not_operator_of_number {t : Text} (h : number.Explains t) : ¬ operator.Explains t := by
  rintro ⟨-, hchars, -⟩
  obtain ⟨⟨c, hhead, hdigit⟩, -, -⟩ := h
  have hc := class_of_isOperatorChar (hchars c (List.mem_of_mem_head? hhead))
  rw [hdigit] at hc
  exact absurd hc.2.1 (by decide)

theorem not_character_of_number {t : Text} (h : number.Explains t) : ¬ character.Explains t := by
  rintro ⟨c, rfl, -⟩
  have hle := List.count_le_length (a := '.') (l := [c])
  exact absurd h.2.2 (Nat.not_lt.mpr hle)

theorem not_character_of_operator {t : Text} (h : operator.Explains t) :
    ¬ character.Explains t := by
  intro hchar
  have hone := hchar
  obtain ⟨c, rfl, -⟩ := hone
  obtain rfl := eq_bang_of_operator h
  exact not_character_of_munch munch_notEquals rfl hchar

theorem unique {a b : Cause} {t : Text} (ha : a.Explains t) (hb : b.Explains t) : a = b := by
  cases a with
  | number =>
    cases b with
    | number => rfl
    | operator => exact absurd hb (not_operator_of_number ha)
    | character => exact absurd hb (not_character_of_number ha)
  | operator =>
    cases b with
    | number => exact absurd ha (not_operator_of_number hb)
    | operator => rfl
    | character => exact absurd hb (not_character_of_operator ha)
  | character =>
    cases b with
    | number => exact absurd ha (not_character_of_number hb)
    | operator => exact absurd ha (not_character_of_operator hb)
    | character => rfl

theorem exists_of_munch {x after : Text} (h : Munch (.fault .invalid) x after) :
    ∃ cause : Cause, cause.Explains x := by
  cases h with
  | word _ _ hk => cases eq_of_isSpelled_fault (by decide) hk
  | invalidNumber hc hrun hcount => exact ⟨number, ⟨_, rfl, hc⟩, hrun.1, hcount⟩
  | operator _ _ _ hrun hk =>
    refine ⟨operator, List.cons_ne_nil _ _, hrun.1, fun o ho => ?_⟩
    rcases hk with ⟨hgroup, -⟩ | ⟨-, hno⟩
    · exact absurd hgroup (by decide)
    · exact hno (.operator o) (List.mem_singleton_self _) ⟨o.spelling, rfl, ho⟩
  | @sign c _ _ halpha hdigit hquote hop _ hk =>
    refine ⟨character, c, rfl, fun s u hu hok hhead => ?_⟩
    -- a token which begins with the character is that character alone, and invalid too
    obtain ⟨_, _, _, _, _, hmunch⟩ := (Placed.of_source s).of_mem u hu
    obtain ⟨y, htext⟩ := List.head?_eq_some_iff.mp hhead
    rw [htext] at hmunch
    have hother := ((munch_sign_iff halpha hdigit hquote hop).mp hmunch).2.2
    have hkind := (isSpelled_sign_iff.mp hother).symm.trans (isSpelled_sign_iff.mp hk)
    rw [Token.isError, hkind] at hok
    cases hok

theorem invalidHelp_eq {cause : Cause} {t : Text} (h : cause.Explains t) (ht : t ≠ ['!']) :
    Diagnostic.invalidHelp t = cause.help := by
  cases cause with
  | number =>
    obtain ⟨⟨c, hhead, hdigit⟩, -, -⟩ := h
    rw [Diagnostic.invalidHelp, Option.mem_def.mp hhead, if_pos (by simpa using hdigit)]
    rfl
  | operator =>
    obtain ⟨c, y, rfl⟩ := List.exists_cons_of_ne_nil h.1
    have hc := class_of_isOperatorChar (h.2.1 c List.mem_cons_self)
    have hlong : 1 < (c :: y).length := by
      cases y with
      | nil => exact absurd (congrArg (fun d => [d]) (eq_bang_of_operator h)) ht
      | cons d y => simp
    rw [Diagnostic.invalidHelp, if_neg (by simp [hc.2.1]), if_pos hlong]
    rfl
  | character =>
    have hchar := h
    obtain ⟨c, rfl, -⟩ := h
    have hdigit : ¬ c.isDigit := by
      intro hc
      have hcount := List.count_le_length (a := '.') (l := [c])
      have hrun : IsRun isNumberChar [c] [] := ⟨by simp [isNumberChar, hc], by simp⟩
      exact not_character_of_munch (.number hc hrun hcount) rfl hchar
    rw [Diagnostic.invalidHelp, if_neg (by simpa using hdigit), if_neg (by simp)]
    rfl

end Cause

/-- The help of an invalid token names its cause, except under a single bang: that is a run which
spells no operator, but it is as short as a character that begins nothing. -/
theorem Source.help_causes (s : Source) :
    ∀ t ∈ s.tokens, t.kind = .fault .invalid → ∃ d, Diagnostic.ofToken? t = some d
      ∧ ((∀ cause : Cause, d.help = cause.help ↔ cause.Explains t.text) ↔ t.text ≠ ['!'])
      ∧ (t.text = ['!'] → d.help = Cause.character.help ∧ Cause.operator.Explains t.text) := by
  intro t ht hkind
  obtain ⟨_, _, _, _, _, hmunch⟩ := (Placed.of_source s).of_mem t ht
  rw [hkind] at hmunch
  obtain ⟨cause, hcause⟩ := Cause.exists_of_munch hmunch
  have hbang : t.text = ['!'] →
      Diagnostic.invalidHelp t.text = Cause.character.help ∧ Cause.operator.Explains t.text := by
    intro h
    rw [h]
    exact ⟨rfl, Cause.explains_bang⟩
  refine ⟨.invalidToken t.span, by rw [Diagnostic.ofToken?, hkind], ?_, hbang⟩
  constructor
  · intro hall h
    obtain ⟨hhelp, hoperator⟩ := hbang h
    have hnamed := (hall .operator).mpr hoperator
    exact absurd (Cause.help_injective (hhelp.symm.trans hnamed)) (by decide)
  · intro h other
    have hhelp : Diagnostic.help (.invalidToken t.span) = cause.help := Cause.invalidHelp_eq hcause h
    rw [hhelp]
    constructor
    · intro hsame
      exact Cause.help_injective hsame ▸ hcause
    · intro hother
      rw [Cause.unique hcause hother]

theorem Source.help_causes_of_long_run :
    let s : Source := { number := 0, origin := .synthesized [], text := ">>>==abc".toList }
    let t : Token := ⟨.fault .invalid, ⟨s, 0, 5⟩⟩
    t ∈ s.tokens ∧ t.kind = .fault .invalid ∧ ∃ d, Diagnostic.ofToken? t = some d
      ∧ ((∀ cause : Cause, d.help = cause.help ↔ cause.Explains t.text) ↔ t.text ≠ ['!'])
      ∧ (t.text = ['!'] → d.help = Cause.character.help ∧ Cause.operator.Explains t.text) := by
  intro s t
  have hall : Lexeme.all s.text = [⟨[], .fault .invalid, ">>>==".toList⟩,
      ⟨[], .literal .name, "abc".toList⟩] := by decide +kernel
  have hmem : t ∈ s.tokens := by
    rw [s.tokens_eq, hall]
    exact List.mem_cons_self
  exact ⟨hmem, rfl, help_causes s t hmem rfl⟩

theorem Source.help_of_bang :
    let s : Source := { number := 0, origin := .synthesized [], text := ['!'] }
    let t : Token := ⟨.fault .invalid, s.wholeSpan⟩
    let d : Diagnostic := .invalidToken t.span
    s.tokens = [t] ∧ Diagnostic.ofToken? t = some d ∧ d.help = Cause.character.help
      ∧ Cause.operator.Explains t.text
      ∧ (∃ s' : Source, ∃ u ∈ s'.tokens, u.isError = false ∧ u.text.head? = some '!')
      ∧ ¬ ∀ cause : Cause, d.help = cause.help ↔ cause.Explains t.text := by
  intro s t d
  have htext : t.text = ['!'] := s.text_wholeSpan
  have hhelp : d.help = Cause.character.help := congrArg Diagnostic.invalidHelp htext
  have hoperator : Cause.operator.Explains t.text := htext ▸ Cause.explains_bang
  refine ⟨tokens_of_munch Cause.munch_bang, rfl, hhelp, hoperator, ?_, fun hall => ?_⟩
  · obtain ⟨s', u, hu, hkind, hu'⟩ := exists_token Cause.munch_notEquals
    exact ⟨s', u, hu, by rw [Token.isError, hkind]; rfl, by rw [hu']; rfl⟩
  · have hnamed := (hall .operator).mpr hoperator
    exact absurd (Cause.help_injective (hhelp.symm.trans hnamed)) (by decide)

end LoxReader
