import LoxReader.Proofs.LineTable
import LoxReader.Token.Lexer

/-!
Well-formed values stand on character boundaries of their source. Every operation that makes one
keeps to that, those that check nothing included.
-/

namespace LoxReader

open Text

def Position.WellFormed (p : Position) : Prop := isBoundary p.source.text p.index

structure Span.WellFormed (s : Span) : Prop where
  start : isBoundary s.source.text s.start
  stop : isBoundary s.source.text s.stop
  ordered : s.start ≤ s.stop

/-- What is still to be read is the text behind the index. -/
def Lexer.WellFormed (l : Lexer) : Prop :=
  ∃ before, l.source.text = before ++ l.rest ∧ byteLength before = l.index

namespace Text

theorem isBoundary_zero (t : Text) : isBoundary t 0 := by
  simp [isBoundary]

theorem isBoundary_byteLength (t : Text) : isBoundary t (byteLength t) :=
  isBoundary_iff.2 ⟨t, [], by simp, rfl⟩

theorem isBoundary_append (before after : Text) :
    isBoundary (before ++ after) (byteLength before) :=
  isBoundary_iff.2 ⟨before, after, rfl, rfl⟩

end Text

theorem bind_eq_ok_iff {ε α β : Type} {x : Except ε α} {f : α → Except ε β} {b : β} :
    x >>= f = .ok b ↔ ∃ a, x = .ok a ∧ f a = .ok b := by
  cases x with
  | error e =>
    constructor
    · intro hmade
      cases hmade
    · rintro ⟨a, hmade, _⟩
      cases hmade
  | ok a =>
    constructor
    · intro hmade
      exact ⟨a, rfl, hmade⟩
    · rintro ⟨_, ⟨⟩, hmade⟩
      exact hmade

theorem bind_eq_error_iff {ε α β : Type} {x : Except ε α} {f : α → Except ε β} {e : ε} :
    x >>= f = .error e ↔ x = .error e ∨ ∃ a, x = .ok a ∧ f a = .error e := by
  cases x with
  | error e' =>
    constructor
    · intro hfailed
      cases hfailed
      exact .inl rfl
    · rintro (⟨⟨⟩⟩ | ⟨a, hmade, _⟩)
      · rfl
      · cases hmade
  | ok a =>
    constructor
    · intro hfailed
      exact .inr ⟨a, rfl, hfailed⟩
    · rintro (hfailed | ⟨_, ⟨⟩, hfailed⟩)
      · cases hfailed
      · exact hfailed

namespace Source

theorem check_eq_ok_iff {s : Source} {index : Nat} :
    s.check index = .ok () ↔ isBoundary s.text index := by
  unfold check
  split <;> simp_all

theorem position_eq_ok_iff {s : Source} {index : Nat} {p : Position} :
    s.position index = .ok p ↔ isBoundary s.text index ∧ p = ⟨s, index⟩ := by
  rw [← check_eq_ok_iff, position, bind_eq_ok_iff]
  constructor
  · rintro ⟨_, hboundary, hmade⟩
    cases hmade
    exact ⟨hboundary, rfl⟩
  · rintro ⟨hboundary, rfl⟩
    exact ⟨(), hboundary, rfl⟩

theorem span_eq_ok_iff {s : Source} {start stop : Nat} {span : Span} :
    s.span start stop = .ok span ↔
      isBoundary s.text start ∧ isBoundary s.text stop ∧ start ≤ stop
        ∧ span = ⟨s, start, stop⟩ := by
  rw [← check_eq_ok_iff, ← check_eq_ok_iff, Source.span, bind_eq_ok_iff]
  constructor
  · rintro ⟨_, hfirst, hmade⟩
    obtain ⟨_, hlast, hmade⟩ := bind_eq_ok_iff.1 hmade
    by_cases horder : stop < start
    · rw [if_pos horder] at hmade
      cases hmade
    · rw [if_neg horder] at hmade
      cases hmade
      exact ⟨hfirst, hlast, Nat.le_of_not_lt horder, rfl⟩
  · rintro ⟨hfirst, hlast, horder, rfl⟩
    refine ⟨(), hfirst, bind_eq_ok_iff.2 ⟨(), hlast, ?_⟩⟩
    rw [if_neg (Nat.not_lt.2 horder)]
    rfl

theorem checkSame_eq_ok_iff {a b : Source} : a.checkSame b = .ok () ↔ a.number = b.number := by
  unfold checkSame
  split <;> simp_all [pure, Except.pure, throw, throwThe, MonadExceptOf.throw]

theorem wellFormed_position {s : Source} {index : Nat} {p : Position}
    (h : s.position index = .ok p) : p.WellFormed := by
  obtain ⟨hboundary, rfl⟩ := position_eq_ok_iff.1 h
  exact hboundary

theorem wellFormed_endPosition (s : Source) : s.endPosition.WellFormed :=
  isBoundary_byteLength s.text

theorem wellFormed_span {s : Source} {start stop : Nat} {span : Span}
    (h : s.span start stop = .ok span) : span.WellFormed := by
  obtain ⟨hfirst, hlast, horder, rfl⟩ := span_eq_ok_iff.1 h
  exact ⟨hfirst, hlast, horder⟩

theorem wellFormed_wholeSpan (s : Source) : s.wholeSpan.WellFormed :=
  ⟨isBoundary_zero s.text, isBoundary_byteLength s.text, Nat.zero_le _⟩

end Source

namespace Position

theorem location_of_wellFormed {p : Position} (h : p.WellFormed) :
    ∃ line front back, p.source.line? (p.source.lineNumber p.index) = some line
      ∧ line.text = front ++ back ∧ p.index = line.start + byteLength front
      ∧ p.location = ⟨p.source.lineNumber p.index, front.length + 1⟩ := by
  obtain ⟨line, _, front, back, _, hfound, _, hparts, _, hplace⟩ := Source.line_of_isBoundary h
  have hlocated := Source.location?_of_line hfound hparts hplace
  refine ⟨line, front, back, hfound, hparts, hplace, ?_⟩
  rw [location, hlocated]
  rfl

theorem upTo_eq_ok_iff {p q : Position} {span : Span} :
    p.upTo q = .ok span ↔
      p.source.number = q.source.number ∧ p.source.span p.index q.index = .ok span := by
  rw [← Source.checkSame_eq_ok_iff, upTo, bind_eq_ok_iff]
  constructor
  · rintro ⟨_, hsame, hmade⟩
    exact ⟨hsame, hmade⟩
  · rintro ⟨hsame, hmade⟩
    exact ⟨(), hsame, hmade⟩

end Position

namespace Span

theorem parts_of_wellFormed {s : Span} (h : s.WellFormed) :
    ∃ before after, s.source.text = before ++ s.text ++ after ∧ s.start = byteLength before
      ∧ s.stop = byteLength (before ++ s.text) := by
  obtain ⟨before, rest, hwhole, hstart⟩ := isBoundary_iff.1 h.start
  obtain ⟨parts, hdivided⟩ := Option.isSome_iff_exists.1 h.stop
  have horder := h.ordered
  rw [hwhole, splitAt?_append (by omega), Option.map_eq_some_iff] at hdivided
  obtain ⟨⟨inside, after⟩, hdivided, _⟩ := hdivided
  obtain ⟨rfl, hsize⟩ := splitAt?_eq_some_iff.1 hdivided
  have hstop : s.stop = byteLength (before ++ inside) := by
    rw [byteLength_append]
    omega
  rw [← List.append_assoc] at hwhole
  have hshown : s.text = inside := by
    have hcut := Source.text_of_parts hwhole
    rwa [hstart, ← hstop] at hcut
  exact ⟨before, after, by rw [hshown]; exact hwhole, hstart.symm, by rw [hshown]; exact hstop⟩

theorem wellFormed_startPosition {s : Span} (h : s.WellFormed) : s.startPosition.WellFormed :=
  h.start

theorem wellFormed_stopPosition {s : Span} (h : s.WellFormed) : s.stopPosition.WellFormed :=
  h.stop

theorem byteLength_text_le {s : Span} (h : s.WellFormed) :
    byteLength s.text ≤ s.source.length := by
  obtain ⟨before, after, hwhole, _, _⟩ := parts_of_wellFormed h
  rw [Source.length, hwhole, byteLength_append, byteLength_append]
  omega

theorem extendUpTo_eq_ok_iff {s span : Span} {stop : Nat} :
    s.extendUpTo stop = .ok span ↔ s.stop ≤ stop ∧ s.source.span s.start stop = .ok span := by
  unfold extendUpTo
  constructor
  · intro h
    split at h
    · cases h
    · next hfurther => exact ⟨Nat.le_of_not_lt hfurther, h⟩
  · rintro ⟨hfurther, h⟩
    rw [if_neg (Nat.not_lt.2 hfurther)]
    exact h

theorem cover_eq_ok_iff {s t span : Span} :
    s.cover t = .ok span ↔
      s.source.number = t.source.number
        ∧ span = ⟨s.source, min s.start t.start, max s.stop t.stop⟩ := by
  rw [← Source.checkSame_eq_ok_iff, cover, bind_eq_ok_iff]
  constructor
  · rintro ⟨_, hsame, hmade⟩
    cases hmade
    exact ⟨hsame, rfl⟩
  · rintro ⟨hsame, rfl⟩
    exact ⟨(), hsame, rfl⟩

theorem wellFormed_cover {s t span : Span} (hs : s.WellFormed) (ht : t.WellFormed)
    (hsame : s.source.number = t.source.number → s.source = t.source)
    (h : s.cover t = .ok span) : span.WellFormed := by
  obtain ⟨hnumbers, rfl⟩ := cover_eq_ok_iff.1 h
  have hthere := hsame hnumbers
  -- A cover is not checked, but each of its ends is one of the two spans'.
  have hfirst : isBoundary s.source.text (min s.start t.start) := by
    rcases Nat.le_total s.start t.start with hleft | hright
    · rw [Nat.min_eq_left hleft]
      exact hs.start
    · rw [Nat.min_eq_right hright, hthere]
      exact ht.start
  have hlast : isBoundary s.source.text (max s.stop t.stop) := by
    rcases Nat.le_total s.stop t.stop with hleft | hright
    · rw [Nat.max_eq_right hleft, hthere]
      exact ht.stop
    · rw [Nat.max_eq_left hright]
      exact hs.stop
  have horder : min s.start t.start ≤ max s.stop t.stop := by
    have := hs.ordered
    omega
  exact ⟨hfirst, hlast, horder⟩

end Span

namespace Lexer

def after (l : Lexer) (passed rest : Text) : Lexer :=
  ⟨l.source, l.index + byteLength passed, rest⟩

theorem wellFormed_ofSource (s : Source) : (ofSource s).WellFormed := ⟨[], rfl, rfl⟩

theorem wellFormed_after {l : Lexer} (h : l.WellFormed) (passed : Text) {rest : Text}
    (hparts : l.rest = passed ++ rest) : (l.after passed rest).WellFormed := by
  obtain ⟨before, hwhole, hplace⟩ := h
  refine ⟨before ++ passed, ?_, ?_⟩
  · rw [hparts, ← List.append_assoc] at hwhole
    exact hwhole
  · rw [byteLength_append, hplace]
    rfl

theorem index_add_rest {l : Lexer} (h : l.WellFormed) :
    l.index + byteLength l.rest = l.source.length := by
  obtain ⟨before, hwhole, hplace⟩ := h
  rw [Source.length, hwhole, byteLength_append, hplace]

theorem isBoundary_index {l : Lexer} (h : l.WellFormed) : isBoundary l.source.text l.index := by
  obtain ⟨before, hwhole, hplace⟩ := h
  rw [hwhole, ← hplace]
  exact isBoundary_append before l.rest

theorem wellFormed_span_after {l : Lexer} (h : l.WellFormed) (passed : Text) {rest : Text}
    (hparts : l.rest = passed ++ rest) :
    Span.WellFormed ⟨l.source, l.index, (l.after passed rest).index⟩ where
  start := isBoundary_index h
  stop := isBoundary_index (wellFormed_after h passed hparts)
  ordered := Nat.le_add_right ..

theorem next_of_lexeme {l : Lexer} {lexeme : Lexeme} {rest : Text}
    (h : Lexeme.next? l.rest = some (lexeme, rest)) :
    l.next = (some ⟨lexeme.kind, ⟨l.source, (l.after lexeme.gap (lexeme.text ++ rest)).index,
        ((l.after lexeme.gap (lexeme.text ++ rest)).after lexeme.text rest).index⟩⟩,
      (l.after lexeme.gap (lexeme.text ++ rest)).after lexeme.text rest) := by
  unfold next
  rw [h]
  rfl

theorem next_of_none {l : Lexer} (h : Lexeme.next? l.rest = none) :
    l.next = (none, l.after l.rest []) := by
  unfold next
  rw [h]
  rfl

theorem wellFormed_next {l : Lexer} (h : l.WellFormed) :
    l.next.2.WellFormed ∧ ∀ token, l.next.1 = some token → token.span.WellFormed := by
  cases hfound : Lexeme.next? l.rest with
  | some result =>
    obtain ⟨lexeme, rest⟩ := result
    have hparts := Lexeme.append_of_next? hfound
    rw [List.append_assoc] at hparts
    have hhere := wellFormed_after h lexeme.gap hparts
    rw [next_of_lexeme hfound]
    constructor
    · exact wellFormed_after hhere lexeme.text rfl
    · rintro token ⟨rfl⟩
      exact wellFormed_span_after hhere lexeme.text rfl
  | none =>
    rw [next_of_none hfound]
    constructor
    · exact wellFormed_after h l.rest (by simp)
    · intro token hnothing
      cases hnothing

theorem source_next (l : Lexer) :
    l.next.2.source = l.source ∧ ∀ token, l.next.1 = some token → token.span.source = l.source := by
  cases hfound : Lexeme.next? l.rest with
  | some result =>
    obtain ⟨lexeme, rest⟩ := result
    rw [next_of_lexeme hfound]
    constructor
    · rfl
    · rintro token ⟨rfl⟩
      rfl
  | none =>
    rw [next_of_none hfound]
    constructor
    · rfl
    · intro token hnothing
      cases hnothing

end Lexer

end LoxReader
