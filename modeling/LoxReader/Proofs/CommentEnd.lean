import LoxReader.Proofs.Checked.Cursor
import LoxReader.Proofs.Grammar

/-!
Where a block comment ends. Behind the mark that opens it, its end is the first mark by which more
have closed than opened; without one it takes all that is left.
-/

namespace LoxReader

open Text

namespace Mark

def text : Mark → Text
  | opening => ['/', '*']
  | closing => ['*', '/']
  | plain c => [c]

/-- One more of the marks closes than opens. -/
def Exceeds (ms : List Mark) : Prop := ms.count closing = ms.count opening + 1

/-- The first part of the marks in which more close than open. -/
structure Ends (p ms : List Mark) : Prop where
  starts : p <+: ms
  exceeds : Exceeds p
  first : ∀ q, q <+: p → q ≠ p → ¬ Exceeds q

theorem depth_eq (ms : List Mark) :
    depth ms = (ms.count opening : Int) - (ms.count closing : Int) := by
  induction ms with
  | nil => rfl
  | cons m ms ih =>
    cases m with
    | opening =>
      rw [depth_cons, ih, List.count_cons_self, List.count_cons_of_ne (by simp)]
      simp only [weight]
      omega
    | closing =>
      rw [depth_cons, ih, List.count_cons_self, List.count_cons_of_ne (by simp)]
      simp only [weight]
      omega
    | plain c =>
      rw [depth_cons, ih, List.count_cons_of_ne (by simp), List.count_cons_of_ne (by simp)]
      simp only [weight]
      omega

theorem exceeds_iff {ms : List Mark} : Exceeds ms ↔ 1 + depth ms = 0 := by
  rw [Exceeds, depth_eq]
  omega

theorem weight_ge (m : Mark) : -1 ≤ m.weight := by
  cases m <;> simp [weight]

/-- A mark changes the depth by at most one, so it does not pass the end of a comment. -/
theorem depth_pos {d : Int} (hd : 0 ≤ d) {p : List Mark} (h : ∀ q, q <+: p → d + depth q ≠ 0) :
    0 < d + depth p := by
  induction p generalizing d with
  | nil =>
    have hne := h [] List.nil_prefix
    rw [depth_nil] at hne ⊢
    omega
  | cons m p ih =>
    -- a depth that is not zero is positive, so behind the mark it is still not negative
    have hne := h [] List.nil_prefix
    have hweight := m.weight_ge
    rw [depth_nil] at hne
    rw [depth_cons, ← Int.add_assoc]
    refine ih (by omega) fun q hq => ?_
    have hm := h (m :: q) ((List.prefix_cons_inj m).mpr hq)
    rwa [depth_cons, ← Int.add_assoc] at hm

theorem stays_iff {ms : List Mark} : Stays 1 ms ↔ ∀ p, p <+: ms → ¬ Exceeds p := by
  constructor
  · intro h p hp he
    have hpos := h p hp
    rw [exceeds_iff.mp he] at hpos
    exact absurd hpos (by decide)
  · intro h p hp
    exact depth_pos (by decide) fun q hq he => h q (hq.trans hp) (exceeds_iff.mpr he)

theorem closes_iff {p : List Mark} :
    Closes 1 p ↔ Exceeds p ∧ ∀ q, q <+: p → q ≠ p → ¬ Exceeds q := by
  constructor
  · rintro ⟨hsum, hpos⟩
    refine ⟨exceeds_iff.mpr hsum, fun q hq hne he => ?_⟩
    have hlt := hpos q hq hne
    rw [exceeds_iff.mp he] at hlt
    exact absurd hlt (by decide)
  · rintro ⟨he, hfirst⟩
    refine ⟨exceeds_iff.mp he, fun q hq hne => depth_pos (by decide) fun r hr hsum => ?_⟩
    refine hfirst r (hr.trans hq) ?_ (exceeds_iff.mpr hsum)
    rintro rfl
    exact hne (hq.eq_of_length_le hr.length_le)

theorem ends_iff {p ms : List Mark} : Ends p ms ↔ p <+: ms ∧ Closes 1 p := by
  rw [closes_iff]
  exact ⟨fun h => ⟨h.starts, h.exceeds, h.first⟩, fun h => ⟨h.1, h.2.1, h.2.2⟩⟩

theorem Ends.unique {p q ms : List Mark} (hp : Ends p ms) (hq : Ends q ms) : p = q := by
  refine Decidable.byContradiction fun hne => ?_
  rcases List.prefix_or_prefix_of_prefix hp.starts hq.starts with h | h
  · exact hq.first p h hne hp.exceeds
  · exact hp.first q h (Ne.symm hne) hq.exceeds

theorem Ends.getLast? {p ms : List Mark} (h : Ends p ms) : p.getLast? = some closing := by
  obtain ⟨hsum, hpos⟩ := (ends_iff.mp h).2
  rcases List.eq_nil_or_concat p with rfl | ⟨q, m, rfl⟩
  · exact absurd hsum (by decide)
  rw [List.concat_eq_append] at hsum hpos ⊢
  have hq := hpos q (List.prefix_append q [m]) (by simp)
  rw [depth_append, depth_cons, depth_nil] at hsum
  cases m with
  | closing => exact List.getLast?_concat ..
  | opening => simp only [weight] at hsum; omega
  | plain c => simp only [weight] at hsum; omega

end Mark

open Mark

namespace Trivia

theorem marks_of_closeComments {d : Nat} {t body rest : Text}
    (h : closeComments d t = some (body, rest)) :
    ∃ p, Closes d p ∧ t.marks = p ++ rest.marks ∧ body = p.flatMap Mark.text := by
  fun_induction closeComments d t generalizing body with
  | case1 t =>
    simp only [Option.some.injEq, Prod.mk.injEq] at h
    obtain ⟨rfl, rfl⟩ := h
    exact ⟨[], closes_nil.mpr rfl, rfl, rfl⟩
  | case2 d => cases h
  | case3 d t ih =>
    obtain ⟨b, rfl, hb⟩ := (map_front_eq_some_iff ('/' :: '*' :: ·)).mp h
    obtain ⟨p, hp, hmarks, rfl⟩ := ih hb
    refine ⟨opening :: p, closes_cons.mpr ⟨by omega, ?_⟩, by rw [marks, hmarks]; rfl, rfl⟩
    simpa [weight, Int.add_assoc] using hp
  | case4 d t ih =>
    obtain ⟨b, rfl, hb⟩ := (map_front_eq_some_iff ('*' :: '/' :: ·)).mp h
    obtain ⟨p, hp, hmarks, rfl⟩ := ih hb
    refine ⟨closing :: p, closes_cons.mpr ⟨by omega, ?_⟩, by rw [marks, hmarks]; rfl, rfl⟩
    simpa [weight, Int.add_neg_cancel_right] using hp
  | case5 d c t hopen hclose ih =>
    obtain ⟨b, rfl, hb⟩ := (map_front_eq_some_iff (c :: ·)).mp h
    obtain ⟨p, hp, hmarks, rfl⟩ := ih hb
    have hc : marks (c :: t) = plain c :: marks t := by
      rw [marks]
      · exact hopen
      · exact hclose
    refine ⟨plain c :: p, closes_cons.mpr ⟨by omega, ?_⟩, by rw [hc, hmarks]; rfl, rfl⟩
    simpa [weight] using hp

theorem closeComments_none_iff {t : Text} :
    closeComments 1 t = none ↔ ∀ p, p <+: t.marks → ¬ Exceeds p :=
  closeComments_eq_none_iff.trans stays_iff

theorem closeComments_some_iff {t body rest : Text} :
    closeComments 1 t = some (body, rest) ↔
      ∃ p, Ends p t.marks ∧ body = p.flatMap Mark.text ∧ t = body ++ rest := by
  constructor
  · intro h
    obtain ⟨p, hp, hmarks, hbody⟩ := marks_of_closeComments h
    exact ⟨p, ends_iff.mpr ⟨⟨rest.marks, hmarks.symm⟩, hp⟩, hbody, append_of_closeComments h⟩
  · rintro ⟨p, hp, rfl, hparts⟩
    cases hclose : closeComments 1 t with
    | none => exact absurd hp.exceeds (closeComments_none_iff.mp hclose p hp.starts)
    | some result =>
      obtain ⟨body, rest'⟩ := result
      obtain ⟨q, hq, hmarks, rfl⟩ := marks_of_closeComments hclose
      obtain rfl : q = p := Ends.unique (ends_iff.mpr ⟨⟨rest'.marks, hmarks.symm⟩, hq⟩) hp
      obtain rfl := List.append_cancel_left (hparts.symm.trans (append_of_closeComments hclose))
      rfl

end Trivia

namespace Lexer

theorem next_of_gap {l : Lexer} {gap rest : Text} (hrest : l.rest = gap ++ rest)
    (hgap : Trivia.Gap rest gap) : l.next = (l.after gap rest).next := by
  cases hfound : Lexeme.next? rest with
  | none =>
    have hnone := Lexeme.next?_eq_none_iff.mp hfound
    have hwhole : Lexeme.next? l.rest = none := by
      rw [← List.append_nil rest] at hgap
      rw [hrest]
      exact Lexeme.next?_eq_none_iff.mpr (Trivia.gap_append hgap hnone)
    rw [next_of_none hwhole, next_of_none (l := l.after gap rest) hfound, after_after]
    rw [hrest]
    rfl
  | some result =>
    obtain ⟨lexeme, rest'⟩ := result
    obtain ⟨rfl, hgap', hmunch⟩ := Lexeme.next?_eq_some_iff.mp hfound
    have hwhole : Lexeme.next? l.rest
        = some (⟨gap ++ lexeme.gap, lexeme.kind, lexeme.text⟩, rest') := by
      refine Lexeme.next?_eq_some_iff.mpr ⟨?_, Trivia.gap_append hgap hgap', hmunch⟩
      rw [hrest, List.append_assoc]
    rw [next_of_lexeme hwhole, next_of_lexeme (l := l.after gap _) hfound]
    simp only [after_after]
    rfl

theorem next_of_closed {l : Lexer} {gap r body rest : Text}
    (hrest : l.rest = gap ++ '/' :: '*' :: r) (hgap : Trivia.Gap ('/' :: '*' :: r) gap)
    (hclose : Trivia.closeComments 1 r = some (body, rest)) :
    BlockComment ('/' :: '*' :: body) ∧ l.next = (l.after (gap ++ '/' :: '*' :: body) rest).next := by
  obtain ⟨rfl, hcloses⟩ := Trivia.closeComments_eq_some_iff.mp hclose
  have hcomment : BlockComment ('/' :: '*' :: body) := blockComment_iff.mpr ⟨body, rfl, hcloses⟩
  have hpassed : l.rest = gap ++ '/' :: '*' :: body ++ rest := by
    rw [hrest]
    simp only [List.append_assoc, List.cons_append]
  have hall : Trivia.Gap rest (gap ++ '/' :: '*' :: body) :=
    Trivia.gap_append hgap (Trivia.gap_of_item (.blockComment hcomment))
  exact ⟨hcomment, next_of_gap hpassed hall⟩

/-- A block comment that is never closed is the last token. -/
theorem drain_of_open {l : Lexer} (h : l.WellFormed) {gap r : Text}
    (hrest : l.rest = gap ++ '/' :: '*' :: r) (hgap : Trivia.Gap ('/' :: '*' :: r) gap)
    (hopen : Trivia.closeComments 1 r = none) :
    l.drain = ([⟨.fault .unterminatedComment,
      ⟨l.source, l.index + byteLength gap, l.source.length⟩⟩], ⟨l.source, l.source.length, []⟩) := by
  have hmunch : Lexeme.Munch (.fault .unterminatedComment) ('/' :: '*' :: r) [] :=
    .unterminatedComment
      (openComment_iff.mpr ⟨r, rfl, Trivia.closeComments_eq_none_iff.mp hopen⟩)
  have hlexes : Lexeme.Lexes l.rest [⟨gap, .fault .unterminatedComment, '/' :: '*' :: r⟩] := by
    have hall := Lexeme.Lexes.token (l := ⟨gap, .fault .unterminatedComment, '/' :: '*' :: r⟩)
      (by rwa [List.append_nil]) hmunch (.done .nil)
    rw [hrest]
    rwa [List.append_nil] at hall
  have hend := index_add_rest h
  rw [drain_eq, Lexeme.all_of_lexes hlexes, hend]
  rw [hrest, byteLength_append, ← Nat.add_assoc] at hend
  simp only [Token.place, hend]

theorem comment_ends {l : Lexer} (h : l.WellFormed) {gap r : Text}
    (hrest : l.rest = gap ++ '/' :: '*' :: r) (hgap : Trivia.Gap ('/' :: '*' :: r) gap) :
    let inside := l.after (gap ++ ['/', '*']) r
    (∀ body rest, Trivia.closeComments 1 r = some (body, rest) ↔
        ∃ p, Ends p (marks r) ∧ body = p.flatMap Mark.text ∧ r = body ++ rest)
      ∧ (∀ p, Ends p (marks r) → p.getLast? = some .closing)
      ∧ (Trivia.closeComments 1 r = none ↔ ∀ p, p <+: marks r → ¬ Exceeds p)
      ∧ (∀ body rest, Trivia.closeComments 1 r = some (body, rest) →
        BlockComment ('/' :: '*' :: body) ∧ l.next = (inside.after body rest).next)
      ∧ (Trivia.closeComments 1 r = none → l.drain = ([⟨.fault .unterminatedComment,
          ⟨l.source, l.index + byteLength gap, l.source.length⟩⟩],
        ⟨l.source, l.source.length, []⟩))
      ∧ (l.source.length < 2 ^ 63 → Cursor.closeComments inside.cursor.turns inside.cursor 1
        = some (inside.closed (Trivia.closeComments 1 r))) := by
  intro inside
  have hparts : l.rest = gap ++ ['/', '*'] ++ r := by rw [hrest, List.append_assoc]; rfl
  refine ⟨fun body rest => Trivia.closeComments_some_iff, fun p => Ends.getLast?,
    Trivia.closeComments_none_iff, fun body rest hclose => ?_, drain_of_open h hrest hgap,
    fun hfits => ?_⟩
  · obtain ⟨hcomment, hnext⟩ := next_of_closed hrest hgap hclose
    refine ⟨hcomment, ?_⟩
    rw [hnext, after_after, List.append_assoc]
    rfl
  · have hinside : inside.WellFormed := wellFormed_after h (gap ++ ['/', '*']) hparts
    have hshort : r.length ≤ l.source.length := length_rest_le hinside
    exact closeComments_cursor hinside hfits (Nat.lt_succ_of_le hshort)
      (show 1 + r.length < 2 ^ 64 by omega)

theorem comment_ends_of_overlap :
    let s : Source :=
      { number := 0, origin := .synthesized [], text := "// \"\n/*/**//*/ */*/é".toList }
    let l := ofSource s
    let gap := "// \"\n".toList
    let body := "/**//*/ */*/".toList
    let rest := "é".toList
    let inside := l.after (gap ++ ['/', '*']) (body ++ rest)
    l.WellFormed ∧ l.rest = gap ++ '/' :: '*' :: (body ++ rest)
      ∧ Trivia.Gap ('/' :: '*' :: (body ++ rest)) gap
      ∧ Trivia.closeComments 1 (body ++ rest) = some (body, rest)
      ∧ BlockComment ('/' :: '*' :: body) ∧ l.next = (inside.after body rest).next
      ∧ Cursor.closeComments inside.cursor.turns inside.cursor 1
        = some (true, (inside.after body rest).cursor) := by
  intro s l gap body rest inside
  have hwell : l.WellFormed := wellFormed_ofSource s
  have hrest : l.rest = gap ++ '/' :: '*' :: (body ++ rest) := rfl
  have hbody : ∀ c ∈ [' ', '"'], isLineTerminator c = false := by simp [isLineTerminator]
  have hline : Trivia.Item ('\n' :: '/' :: '*' :: (body ++ rest)) "// \"".toList :=
    .lineComment hbody (by simp [isLineTerminator])
  have hbreak : Trivia.Gap ('/' :: '*' :: (body ++ rest)) ['\n'] :=
    Trivia.gap_of_item (.whiteSpace (by decide))
  have hgap : Trivia.Gap ('/' :: '*' :: (body ++ rest)) gap := .cons hline hbreak
  have hclose : Trivia.closeComments 1 (body ++ rest) = some (body, rest) := by decide
  obtain ⟨-, -, -, hends, -, hmachine⟩ := comment_ends hwell hrest hgap
  obtain ⟨hcomment, hnext⟩ := hends body rest hclose
  refine ⟨hwell, hrest, hgap, hclose, hcomment, hnext, ?_⟩
  have hloop := hmachine (by decide)
  rwa [hclose] at hloop

end Lexer

end LoxReader
