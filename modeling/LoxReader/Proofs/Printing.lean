import LoxReader.Proofs.Placement

/-!
Reading undoes printing: tokens printed one behind the other, each followed by trivia that starts
with whitespace, are read back with their kinds and texts, where they were printed.
-/

namespace LoxReader

open Text Unicode Mark

/-- A part of a block comment in which no mark begins or ends. -/
structure IsPlain (segment : Text) : Prop where
  opens : ¬ ['/', '*'] <:+: segment
  closes : ¬ ['*', '/'] <:+: segment
  ends : ∀ c ∈ segment.getLast?, c ≠ '/' ∧ c ≠ '*'

/-- What stands between the marks of a block comment. -/
inductive CommentBody where
  | plain (segment : Text) (valid : IsPlain segment)
  | nest (segment : Text) (valid : IsPlain segment) (inner rest : CommentBody)

namespace CommentBody

def text : CommentBody → Text
  | plain segment _ => segment
  | nest segment _ inner rest => segment ++ '/' :: '*' :: inner.text ++ '*' :: '/' :: rest.text

def marks : CommentBody → List Mark
  | plain segment _ => segment.map Mark.plain
  | nest segment _ inner rest =>
      segment.map Mark.plain ++ opening :: inner.marks ++ closing :: rest.marks

end CommentBody

theorem isPlain_tail {c : Char} {segment : Text} (h : IsPlain (c :: segment)) :
    IsPlain segment := by
  refine ⟨fun hp => ?_, fun hp => ?_, fun d hd => ?_⟩
  · exact h.opens (hp.trans (List.suffix_cons c segment).isInfix)
  · exact h.closes (hp.trans (List.suffix_cons c segment).isInfix)
  · refine h.ends d ?_
    cases segment with
    | nil => simp at hd
    | cons e segment => simpa [List.getLast?_cons_cons] using hd

theorem marks_append_of_isPlain {segment : Text} (h : IsPlain segment) (t : Text) :
    Text.marks (segment ++ t) = segment.map Mark.plain ++ Text.marks t := by
  induction segment with
  | nil => rfl
  | cons c segment ih =>
    have hplain : Text.marks (c :: (segment ++ t)) = Mark.plain c :: Text.marks (segment ++ t) := by
      cases segment with
      | nil =>
        have hc := h.ends c rfl
        exact marks_plain (fun he => absurd he hc.1) (fun he => absurd he hc.2)
      | cons d segment =>
        refine marks_plain (fun hc hd => h.opens ?_) (fun hc hd => h.closes ?_)
        · obtain rfl : d = '*' := by simpa using hd
          exact ⟨[], segment, by simp [hc]⟩
        · obtain rfl : d = '/' := by simpa using hd
          exact ⟨[], segment, by simp [hc]⟩
    rw [List.cons_append, hplain, ih (isPlain_tail h)]
    rfl

theorem marks_append_text (b : CommentBody) (t : Text) :
    Text.marks (b.text ++ t) = b.marks ++ Text.marks t := by
  induction b generalizing t with
  | plain segment hvalid => exact marks_append_of_isPlain hvalid t
  | nest segment hvalid inner rest ihInner ihRest =>
    simp only [CommentBody.text, CommentBody.marks, List.append_assoc, List.cons_append]
    rw [marks_append_of_isPlain hvalid, Text.marks, ihInner, Text.marks, ihRest]

theorem closes_plain_append {d : Int} (hd : 0 < d) (segment : Text) (ms : List Mark) :
    Closes d (segment.map Mark.plain ++ ms) ↔ Closes d ms := by
  induction segment with
  | nil => rfl
  | cons c segment ih =>
    rw [List.map_cons, List.cons_append, closes_cons]
    simp [weight, hd, ih]

theorem closes_marks_append {d : Int} (hd : 0 < d) (b : CommentBody) (ms : List Mark) :
    Closes d (b.marks ++ ms) ↔ Closes d ms := by
  induction b generalizing d ms with
  | plain segment hvalid => exact closes_plain_append hd segment ms
  | nest segment hvalid inner rest ihInner ihRest =>
    simp only [CommentBody.marks, List.append_assoc, List.cons_append]
    rw [closes_plain_append hd, closes_cons, ihInner (by simp only [weight]; omega), closes_cons]
    simp only [weight, Int.add_neg_cancel_right]
    rw [ihRest hd]
    exact ⟨fun h => h.2.2, fun h => ⟨hd, by omega, h⟩⟩

theorem blockComment_text (b : CommentBody) :
    BlockComment ('/' :: '*' :: (b.text ++ ['*', '/'])) := by
  refine blockComment_iff.mpr ⟨_, rfl, ?_⟩
  rw [marks_append_text, closes_marks_append (by decide)]
  exact closes_cons.mpr ⟨by decide, closes_nil.mpr rfl⟩

/-- An item of printed trivia. -/
inductive Filler where
  | space (c : Char) (valid : isWhiteSpace c)
  | lineComment (body : Text) (stop : Char) (valid : ∀ c ∈ body, isLineTerminator c = false)
      (ends : isLineTerminator stop)
  | blockComment (body : CommentBody)

namespace Filler

def text : Filler → Text
  | space c _ => [c]
  | lineComment body stop _ _ => '/' :: '/' :: (body ++ [stop])
  | blockComment body => '/' :: '*' :: (body.text ++ ['*', '/'])

theorem gap_text_append (f : Filler) {gap after : Text} (h : Trivia.Gap after gap) :
    Trivia.Gap after (f.text ++ gap) := by
  cases f with
  | space c hvalid => exact .cons (.whiteSpace hvalid) h
  | lineComment body stop hvalid hends =>
    have hstop : Trivia.Gap after (stop :: gap) :=
      .cons (.whiteSpace (isWhiteSpace_of_isLineTerminator hends)) h
    have hcomment : Trivia.Item (stop :: gap ++ after) ('/' :: '/' :: body) :=
      .lineComment hvalid (by simpa using hends)
    simpa [text] using Trivia.Gap.cons hcomment hstop
  | blockComment body => exact .cons (.blockComment (blockComment_text body)) h

theorem gap_flatMap_text (fs : List Filler) (after : Text) :
    Trivia.Gap after (fs.flatMap text) := by
  induction fs with
  | nil => exact .nil
  | cons f fs ih => exact f.gap_text_append ih

end Filler

/-- The texts of the tokens that are no faults. -/
inductive IsWord : Kind → Text → Prop
  | spelled {k : Kind} {x : Text} : k.Spells x → IsWord k x
  | name {c : Char} {x : Text} : isAlphabetic c → (∀ d ∈ x, isAlphabetic d ∨ d.isDigit) →
      (∀ w : Keyword, c :: x ≠ w.spelling.toList) → IsWord (.literal .name) (c :: x)
  | number {c : Char} {x : Text} : c.isDigit → (∀ d ∈ x, d.isDigit ∨ d = '.') →
      (c :: x).count '.' ≤ 1 → IsWord (.literal .number) (c :: x)
  | string {body : Text} : '"' ∉ body → IsWord (.literal .string) ('"' :: (body ++ ['"']))

structure Word where
  kind : Kind
  text : Text
  valid : IsWord kind text

/-- Trivia that no token in front of it can take in. -/
structure Separator where
  fillers : List Filler
  starts : ∃ c ∈ (fillers.flatMap Filler.text).head?, isWhiteSpace c

namespace Separator

def text (g : Separator) : Text := g.fillers.flatMap Filler.text

end Separator

namespace Lexeme

theorem isRun_of_isWhiteSpace {p : Char → Bool} {x after : Text} (hx : ∀ c ∈ x, p c)
    (hp : ∀ c, isWhiteSpace c → p c = false) (hafter : ∃ c ∈ after.head?, isWhiteSpace c) :
    IsRun p x after := by
  obtain ⟨c, hc, hw⟩ := hafter
  refine ⟨hx, fun d hd => ?_⟩
  obtain rfl : c = d := Option.some.inj (hc.symm.trans hd)
  exact hp c hw

theorem munch_of_spells {k : Kind} {x after : Text} (h : k.Spells x)
    (hafter : ∃ c ∈ after.head?, isWhiteSpace c) : Munch k x after := by
  obtain ⟨s, hs, rfl⟩ := h
  have hsign : ∀ c : Char, k.group ∈ [Group.punctuation, .delimiter] → s.toList = [c] →
      isAlphabetic c = false ∧ c.isDigit = false ∧ c ≠ '"' ∧ isOperatorChar c = false
        ∧ isWhiteSpace c = false → Munch k s.toList after := by
    rintro c hg hc ⟨halpha, hdigit, hquote, hop, hw⟩
    rw [hc]
    exact .sign halpha hdigit hquote hop hw (.inl ⟨hg, s, hs, hc.symm⟩)
  cases k with
  | fault f => simp [Kind.spelling?] at hs
  | literal l => simp [Kind.spelling?] at hs
  | keyword w =>
    obtain rfl : w.spelling = s := Option.some.inj hs
    have hall : ∀ d ∈ w.spelling.toList, isAlphabetic d :=
      List.all_eq_true.mp (by cases w <;> decide)
    have hne : w.spelling.toList ≠ [] := by cases w <;> decide
    obtain ⟨c, y, hcy⟩ := List.exists_cons_of_ne_nil hne
    have hrun : IsRun isWordChar w.spelling.toList after :=
      isRun_of_isWhiteSpace (fun d hd => by simp [isWordChar, hall d hd])
        (fun _ => isWordChar_of_isWhiteSpace) hafter
    rw [hcy] at hrun ⊢
    exact .word (hall c (by simp [hcy])) hrun
      (.inl ⟨by simp [Kind.group], w.spelling, rfl, hcy.symm⟩)
  | operator o =>
    obtain rfl : o.spelling = s := Option.some.inj hs
    have hall : ∀ d ∈ o.spelling.toList, isOperatorChar d :=
      List.all_eq_true.mp (by cases o <;> decide)
    have hne : o.spelling.toList ≠ [] := by cases o <;> decide
    have hline : ¬ ['/', '/'] <+: o.spelling.toList := by cases o <;> decide
    have hblock : ¬ ['/', '*'] <+: o.spelling.toList := by cases o <;> decide
    obtain ⟨c, y, hcy⟩ := List.exists_cons_of_ne_nil hne
    have hrun : IsRun isOperatorChar o.spelling.toList after :=
      isRun_of_isWhiteSpace hall (fun _ => isOperatorChar_of_isWhiteSpace) hafter
    rw [hcy] at hline hblock hrun ⊢
    exact .operator (hall c (by simp [hcy])) hline hblock hrun
      (.inl ⟨by simp [Kind.group], o.spelling, rfl, hcy.symm⟩)
  | punctuation p =>
    obtain rfl : p.spelling = s := Option.some.inj hs
    cases p with
    | comma => exact hsign ',' (by decide) rfl (by decide)
    | dot => exact hsign '.' (by decide) rfl (by decide)
  | delimiter d =>
    obtain rfl : d.spelling = s := Option.some.inj hs
    cases d with
    | semicolon => exact hsign ';' (by decide) rfl (by decide)
    | leftParen => exact hsign '(' (by decide) rfl (by decide)
    | rightParen => exact hsign ')' (by decide) rfl (by decide)
    | leftBrace => exact hsign '\x7b' (by decide) rfl (by decide)
    | rightBrace => exact hsign '\x7d' (by decide) rfl (by decide)
    | leftBracket => exact hsign '[' (by decide) rfl (by decide)
    | rightBracket => exact hsign ']' (by decide) rfl (by decide)

theorem munch_of_isWord {k : Kind} {x after : Text} (h : IsWord k x)
    (hafter : ∃ c ∈ after.head?, isWhiteSpace c) : Munch k x after := by
  cases h with
  | spelled h => exact munch_of_spells h hafter
  | @name c x hc hx hk =>
    have hall : ∀ d ∈ c :: x, isWordChar d := by
      intro d hd
      rcases List.mem_cons.mp hd with rfl | hd
      · simp [isWordChar, hc]
      · simpa [isWordChar] using hx d hd
    have hspelled : Kind.IsSpelled (.literal .name) [.keyword] (c :: x) (.literal .name) := by
      refine .inr ⟨rfl, fun j hj => ?_⟩
      rintro ⟨s, hs, hx⟩
      cases j with
      | keyword w =>
        obtain rfl : w.spelling = s := Option.some.inj hs
        exact hk w hx
      | _ => simp [Kind.group] at hj
    have hrun := isRun_of_isWhiteSpace hall (fun _ => isWordChar_of_isWhiteSpace) hafter
    exact .word hc hrun hspelled
  | @number c x hc hx hcount =>
    have hall : ∀ d ∈ c :: x, isNumberChar d := by
      intro d hd
      rcases List.mem_cons.mp hd with rfl | hd
      · simp [isNumberChar, hc]
      · simpa [isNumberChar] using hx d hd
    have hrun := isRun_of_isWhiteSpace hall (fun _ => isNumberChar_of_isWhiteSpace) hafter
    exact .number hc hrun hcount
  | string hbody => exact .string hbody

end Lexeme

def printWords (ps : List (Word × Separator)) : Text := ps.flatMap fun (w, g) => w.text ++ g.text

/-- Words, each followed by its separator, behind the trivia `fillers`. -/
def print (fillers : List Filler) (ps : List (Word × Separator)) : Text :=
  fillers.flatMap Filler.text ++ printWords ps

@[simp]
theorem printWords_cons (w : Word) (g : Separator) (ps : List (Word × Separator)) :
    printWords ((w, g) :: ps) = w.text ++ (g.text ++ printWords ps) := by
  simp [printWords]

theorem printWords_append (ps qs : List (Word × Separator)) :
    printWords (ps ++ qs) = printWords ps ++ printWords qs := List.flatMap_append

theorem eq_take_append_cons_drop {α : Type} {xs : List α} {i : Nat} {x : α} (h : xs[i]? = some x) :
    xs = xs.take i ++ x :: xs.drop (i + 1) := by
  obtain ⟨hi, rfl⟩ := List.getElem?_eq_some_iff.mp h
  rw [← List.drop_eq_getElem_cons hi, List.take_append_drop]

/-- Printed words as lexemes, the first of them behind `gap`. -/
def printed : Text → List (Word × Separator) → List Lexeme
  | _, [] => []
  | gap, (w, g) :: ps => ⟨gap, w.kind, w.text⟩ :: printed g.text ps

theorem length_printed (gap : Text) (ps : List (Word × Separator)) :
    (printed gap ps).length = ps.length := by
  induction ps generalizing gap with
  | nil => rfl
  | cons p ps ih => rw [printed, List.length_cons, ih, List.length_cons]

theorem lexes_printed {gap : Text} (hgap : ∀ after, Trivia.Gap after gap)
    (ps : List (Word × Separator)) : Lexeme.Lexes (gap ++ printWords ps) (printed gap ps) := by
  induction ps generalizing gap with
  | nil => exact .done (by simpa [printWords] using hgap [])
  | cons p ps ih =>
    obtain ⟨w, g⟩ := p
    have htail := ih (fun after => Filler.gap_flatMap_text g.fillers after)
    have hstart : ∃ c ∈ (g.text ++ printWords ps).head?, isWhiteSpace c := by
      obtain ⟨c, hc, hw⟩ := g.starts
      have hhead : g.text.head? = some c := hc
      exact ⟨c, by simp [List.head?_append, hhead], hw⟩
    have hmunch := Lexeme.munch_of_isWord w.valid hstart
    rw [printWords_cons]
    exact .token (l := ⟨gap, w.kind, w.text⟩) (hgap _) hmunch htail

theorem length_place (s : Source) (start : Nat) (ls : List Lexeme) :
    (Token.place s start ls).length = ls.length := by
  induction ls generalizing start with
  | nil => rfl
  | cons l ls ih => rw [Token.place, List.length_cons, ih, List.length_cons]

theorem getElem?_place_printed (s : Source) {start i : Nat} {gap : Text}
    {ps : List (Word × Separator)} {w : Word} {g : Separator} (h : ps[i]? = some (w, g)) :
    (Token.place s start (printed gap ps))[i]?
      = some ⟨w.kind, ⟨s, start + byteLength (gap ++ printWords (ps.take i)),
          start + byteLength (gap ++ printWords (ps.take i) ++ w.text)⟩⟩ := by
  induction ps generalizing start gap i with
  | nil => simp at h
  | cons p ps ih =>
    obtain ⟨w', g'⟩ := p
    cases i with
    | zero =>
      simp only [List.getElem?_cons_zero, Option.some.injEq, Prod.mk.injEq] at h
      obtain ⟨rfl, rfl⟩ := h
      simp [printed, printWords, Token.place, Nat.add_assoc]
    | succ i =>
      have hi : ps[i]? = some (w, g) := by simpa using h
      simp [printed, Token.place, ih hi, Nat.add_assoc]

theorem Source.tokens_print (number : Nat) (origin : Origin) (fillers : List Filler)
    (ps : List (Word × Separator)) :
    let s : Source := { number, origin, text := print fillers ps }
    s.tokens.length = ps.length
      ∧ ∀ i w g, ps[i]? = some (w, g) → ∃ t, s.tokens[i]? = some t ∧ t.kind = w.kind
        ∧ t.text = w.text ∧ t.span.start = byteLength (print fillers (ps.take i)) := by
  intro s
  have hlexes : Lexeme.Lexes s.text (printed (fillers.flatMap Filler.text) ps) :=
    lexes_printed (Filler.gap_flatMap_text fillers) ps
  have htokens : s.tokens = Token.place s 0 (printed (fillers.flatMap Filler.text) ps) := by
    rw [s.tokens_eq, Lexeme.all_of_lexes hlexes]
  refine ⟨by rw [htokens, length_place, length_printed], fun i w g h => ?_⟩
  refine ⟨_, by rw [htokens, getElem?_place_printed s h], rfl, ?_, ?_⟩
  · have hparts : s.text = print fillers (ps.take i) ++ w.text
        ++ (g.text ++ printWords (ps.drop (i + 1))) := by
      have hwords := congrArg printWords (eq_take_append_cons_drop h)
      simp only [printWords_append, printWords_cons] at hwords
      change print fillers ps = _
      rw [print, hwords, print]
      simp only [List.append_assoc]
    simpa [Token.text, print] using text_of_parts hparts
  · simp [print]

end LoxReader
