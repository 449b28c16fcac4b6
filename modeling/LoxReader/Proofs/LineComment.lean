import LoxReader.Proofs.CommentEnd
import LoxReader.Proofs.Lines
import LoxReader.Proofs.Progress
import LoxReader.Proofs.Reports

/-!
The lexer and the line table agree on lines. A line comment that is passed takes the rest of the one
line that it stands in, and only tokens that may hold whitespace reach beyond the line that they
start on.
-/

namespace LoxReader

open Text Unicode

namespace Text

/-- In a closed line all that stands behind an open part and begins with a terminator is the end of
the line. -/
theorem isLineEnd_of_closed {body rest : Text} (h : IsClosedLine (body ++ rest))
    (hbody : IsOpenLine body) (hne : rest ≠ []) (hrest : ∀ c ∈ rest.head?, isLineTerminator c) :
    IsLineEnd rest := by
  generalize hline : body ++ rest = line at h
  obtain @⟨body', stop, hbody', hstop⟩ := h
  rcases List.append_eq_append_iff.mp hline with ⟨inner, rfl, rfl⟩ | ⟨inner, rfl, rfl⟩
  · cases inner with
    | nil => exact hstop
    | cons c inner =>
      have hterm := hrest c rfl
      rw [hbody' c (by simp)] at hterm
      cases hterm
  · cases inner with
    | nil => exact hstop
    | cons c inner =>
      have hterm := isLineTerminator_of_mem_lineEnd hstop c (by simp)
      rw [hbody c (by simp)] at hterm
      cases hterm

/-- What holds no terminator and stands in front of one, or at the end of a text, takes the rest of
a line. -/
theorem exists_cut_of_open {t front x after : Text} (h : t = front ++ x ++ after)
    (hne : x ≠ []) (hx : IsOpenLine x) (hafter : ∀ c ∈ after.head?, isLineTerminator c) :
    ∃ above left stop below, front = above.flatten ++ left ∧ after = stop ++ below.flatten
      ∧ IsCut t above left (x ++ stop) below ∧ IsCut t above (left ++ x) stop below
      ∧ IsOpenLine (left ++ x) ∧ (stop = [] ∧ below = [] ∨ IsLineEnd stop ∧ below ≠ []) := by
  have hparts : t = front ++ (x ++ after) := by rw [h, List.append_assoc]
  obtain ⟨above, left, right, below, hstart, rfl⟩ := exists_cut hparts
  obtain ⟨stop, rfl, hstop⟩ := hstart.extend hparts hx
  have hbehind : after = stop ++ below.flatten := by
    have hwhole := h.symm.trans hstop.text_eq
    rw [← List.append_assoc above.flatten] at hwhole
    exact List.append_cancel_left hwhole
  have hopen : IsOpenLine (left ++ x) := by
    rcases hstart.open_left with hleft | ⟨hpair, -⟩
    · exact fun c hc => (List.mem_append.mp hc).elim (hleft c) (hx c)
    · -- the second half of a pair is no part of `x`
      obtain ⟨c, x', rfl⟩ := List.exists_cons_of_ne_nil hne
      obtain ⟨rfl, -⟩ := List.cons.inj hpair
      exact absurd (hx '\n' (List.mem_cons_self ..)) (by decide)
  have hhead : ∀ c ∈ stop.head?, isLineTerminator c := by
    intro c hc
    apply hafter
    rw [hbehind, List.head?_append, Option.mem_def.mp hc]
    rfl
  refine ⟨above, left, stop, below, rfl, hbehind, hstart, hstop, hopen, ?_⟩
  by_cases hbelow : below = []
  · subst hbelow
    cases stop with
    | nil => exact .inl ⟨rfl, rfl⟩
    | cons c stop =>
      have hterm := hhead c rfl
      rw [hstop.isOpenLine_of_last c (by simp)] at hterm
      cases hterm
  · rcases hstop.closed_or_last with ⟨hne, hclosed⟩ | ⟨hlast, -⟩
    · exact .inr ⟨isLineEnd_of_closed hclosed hopen hne hhead, hbelow⟩
    · exact absurd hlast hbelow

end Text

namespace Source

theorem line_location_of_open {s : Source} {front x after : Text}
    (h : s.text = front ++ x ++ after) (hx : IsOpenLine x) :
    (Position.location ⟨s, byteLength front⟩).line
      = (Position.location ⟨s, byteLength (front ++ x)⟩).line := by
  have hparts : s.text = front ++ (x ++ after) := by rw [h, List.append_assoc]
  obtain ⟨above, left, right, below, hstart, rfl⟩ := exists_cut hparts
  obtain ⟨right', -, hstop⟩ := hstart.extend hparts hx
  rw [location_of_cut hstart, List.append_assoc, location_of_cut hstop]

theorem lineStart?_of_cut {s : Source} {above below : List Text} {left right line : Text}
    (h : IsCut s.text above left right (line :: below)) :
    s.lineStart? (above.length + 2)
      = some (byteLength above.flatten + byteLength (left ++ right)) := by
  have hlines : s.text.lines = (above ++ [left ++ right]) ++ line :: below := by simp [h.lines_eq]
  have hline := line?_of_lines hlines
  rw [List.length_append, List.flatten_append, List.flatten_singleton, byteLength_append] at hline
  rw [lineStart?, show above.length + 2 = above.length + [left ++ right].length + 1 from rfl, hline]
  rfl

end Source

namespace Trivia

/-- The items that `split` takes off a text which stands at the offset `start` of a source. -/
def items (s : Source) (start : Nat) (t : Text) : List Span :=
  match h : item? t with
  | some (item, rest) =>
      have := length_of_item? h
      ⟨s, start, start + byteLength item⟩ :: items s (start + byteLength item) rest
  | none => []
termination_by t.length

theorem flatMap_text_items {s : Source} {front t : Text} (h : s.text = front ++ t) :
    (items s (byteLength front) t).flatMap Span.text = (split t).1 := by
  generalize hstart : byteLength front = start
  fun_induction items s start t generalizing front with
  | case1 start t item rest hitem _ ih =>
    subst hstart
    have hparts : s.text = front ++ item ++ rest := by
      rw [h, append_of_item? hitem, List.append_assoc]
    rw [List.flatMap_cons, ih hparts (byteLength_append ..), ← byteLength_append,
      Source.text_of_parts hparts, split_of_item? hitem]
  | case2 start t hitem =>
    rw [split_of_item?_eq_none hitem]
    rfl

theorem exists_of_mem_items {s : Source} {start : Nat} {t : Text} {c : Span}
    (h : c ∈ items s start t) : ∃ before item after, t = before ++ item ++ after
      ∧ Gap (item ++ after) before ∧ Item after item
      ∧ c = ⟨s, start + byteLength before, start + byteLength (before ++ item)⟩ := by
  fun_induction items s start t with
  | case1 start t item rest hitem _ ih =>
    obtain ⟨rfl, hfirst⟩ := item?_eq_some_iff.mp hitem
    rcases List.mem_cons.mp h with rfl | h
    · exact ⟨[], item, rest, rfl, .nil, hfirst, rfl⟩
    · obtain ⟨before, item', after, rfl, hgap, hitem', rfl⟩ := ih h
      rw [List.append_assoc] at hfirst
      refine ⟨item ++ before, item', after, by simp only [List.append_assoc],
        .cons hfirst hgap, hitem', ?_⟩
      simp only [byteLength_append, Nat.add_assoc]
  | case2 => cases h

theorem eq_lineComment {item rest : Text} (h : Item rest item) (hslashes : ['/', '/'] <+: item) :
    IsOpenLine item ∧ ∀ c ∈ rest.head?, isLineTerminator c := by
  cases h with
  | whiteSpace _ => exact absurd hslashes.length_le (by simp)
  | @lineComment body hbody hrest =>
    have hslash : isLineTerminator '/' = false := by decide
    exact ⟨isOpenLine_cons hslash (isOpenLine_cons hslash hbody), hrest⟩
  | blockComment hc =>
    obtain ⟨body, rfl, -⟩ := blockComment_iff.mp hc
    exact absurd hslashes (by simp)

theorem gap_of_isLineEnd {stop : Text} (h : IsLineEnd stop) (after : Text) : Gap after stop := by
  cases h with
  | crlf =>
    have hreturn : Gap ('\n' :: after) ['\r'] := gap_of_item (.whiteSpace (by decide))
    exact gap_append hreturn (gap_of_item (.whiteSpace (by decide)))
  | single hc => exact gap_of_item (.whiteSpace (isWhiteSpace_of_isLineTerminator hc))

end Trivia

namespace Lexer

/-- The trivia that the next call passes, item by item. -/
def passed (l : Lexer) : List Span := Trivia.items l.source l.index l.rest

theorem drain_of_some {l l' : Lexer} {t : Token} (h : l.next = (some t, l')) :
    l.drain.1 = t :: l'.drain.1 := by
  rw [drain]
  split <;> simp_all

theorem drain_of_none {l l' : Lexer} (h : l.next = (none, l')) : l.drain.1 = [] := by
  rw [drain]
  split <;> simp_all

theorem drain_of_next_eq {l l' : Lexer} (h : l.next = l'.next) : l.drain.1 = l'.drain.1 := by
  cases hnext : l'.next with
  | mk found last =>
    cases found with
    | none => rw [drain_of_none (h.trans hnext), drain_of_none hnext]
    | some t => rw [drain_of_some (h.trans hnext), drain_of_some hnext]

theorem index_le_start_of_mem_drain (l : Lexer) : ∀ t ∈ l.drain.1, l.index ≤ t.span.start := by
  fun_induction drain l with
  | case1 l t l' h _ tokens last hdrain ih =>
    rw [hdrain] at ih
    obtain ⟨hstart, hfilled, hstop⟩ := next_token h
    intro u hu
    rcases List.mem_cons.mp hu with rfl | hu
    · exact hstart
    · have hrest := ih u hu
      omega
  | case2 => simp

theorem index_le_next (l : Lexer) : l.index ≤ l.next.2.index := by
  cases hfound : Lexeme.next? l.rest with
  | none =>
    rw [next_of_none hfound]
    exact Nat.le_add_right ..
  | some result =>
    rw [next_of_lexeme hfound]
    exact Nat.le_trans (Nat.le_add_right ..) (Nat.le_add_right ..)

theorem index_le_advance (l : Lexer) (n : Nat) : l.index ≤ (l.advance n).index := by
  induction n generalizing l with
  | zero => exact Nat.le_refl _
  | succ n ih => exact Nat.le_trans l.index_le_next (ih l.next.2)

/-- The tokens that calls have read end in front of the lexer, and the others are still to be
read. -/
theorem drain_advance (l : Lexer) (n : Nat) : ∃ read, l.drain.1 = read ++ (l.advance n).drain.1
    ∧ ∀ t ∈ read, t.span.stop ≤ (l.advance n).index := by
  induction n generalizing l with
  | zero => exact ⟨[], rfl, by simp⟩
  | succ n ih =>
    obtain ⟨read, hdrain, hread⟩ := ih l.next.2
    cases hnext : l.next with
    | mk found l' =>
      rw [hnext] at hdrain hread
      rw [advance, hnext]
      cases found with
      | some t =>
        refine ⟨t :: read, by rw [drain_of_some hnext, hdrain]; rfl, ?_⟩
        refine List.forall_mem_cons.mpr ⟨?_, hread⟩
        rw [← (next_token hnext).2.2]
        exact index_le_advance l' n
      | none =>
        obtain ⟨-, rfl⟩ := next_none hnext
        refine ⟨[], ?_, by simp⟩
        rw [drain_of_none hnext, advance_of_rest_eq_nil rfl,
          drain_of_none (next_of_rest_eq_nil rfl)]
        rfl

end Lexer

/-- A span stands in the line `n` and takes all of it up to the terminator `stop`, or up to the end
of the source. -/
structure Span.TakesRest (c : Span) (n : Nat) (stop : Text) : Prop where
  line : ∃ line left, c.source.line? n = some line ∧ line.text = left ++ c.text ++ stop
    ∧ c.start = line.start + byteLength left ∧ IsOpenLine (left ++ c.text)
  startLocation : c.startLocation.line = n
  stopLocation : c.stopLocation.line = n
  ends : IsLineEnd stop ∨ stop = [] ∧ c.stop = c.source.length

namespace Lexer

theorem index_le_of_gap {l : Lexer} {gap rest : Text} (hrest : l.rest = gap ++ rest)
    (hgap : Trivia.Gap rest gap) :
    ∀ t ∈ l.drain.1, rest ≠ [] ∧ l.index + byteLength gap ≤ t.span.start := by
  have hsame := drain_of_next_eq (next_of_gap hrest hgap)
  intro t ht
  rw [hsame] at ht
  refine ⟨?_, index_le_start_of_mem_drain (l.after gap rest) t ht⟩
  rintro rfl
  rw [drain_of_none (next_of_rest_eq_nil rfl)] at ht
  cases ht

theorem source_of_mem_passed {l : Lexer} {c : Span} (hc : c ∈ l.passed) : c.source = l.source := by
  obtain ⟨before, item, after, -, -, -, rfl⟩ := Trivia.exists_of_mem_items hc
  rfl

theorem comment_takesRest {l : Lexer} (h : l.WellFormed) {c : Span} (hc : c ∈ l.passed)
    (hslashes : ['/', '/'] <+: c.text) :
    ∃ n stop, c.TakesRest n stop ∧ l.index ≤ c.start
      ∧ ∀ t ∈ l.drain.1, ∃ start, l.source.lineStart? (n + 1) = some start
        ∧ start ≤ t.span.start := by
  obtain ⟨front, hwhole, hindex⟩ := h
  obtain ⟨before, item, after, hrest, hgap, hitem, rfl⟩ := Trivia.exists_of_mem_items hc
  rw [← hindex, ← byteLength_append, ← byteLength_append, ← List.append_assoc] at hslashes ⊢
  have hparts : l.source.text = front ++ before ++ item ++ after := by
    rw [hwhole, hrest]
    simp only [List.append_assoc]
  have htext := Source.text_of_parts hparts
  rw [htext] at hslashes
  obtain ⟨hopen, hafter⟩ := Trivia.eq_lineComment hitem hslashes
  have hne : item ≠ [] := by
    rintro rfl
    exact absurd hslashes (by decide)
  obtain ⟨above, left, stop, below, hfront, rfl, hstart, hstop, hleft, hend⟩ :=
    exists_cut_of_open hparts hne hopen hafter
  refine ⟨above.length + 1, stop, ⟨?_, ?_, ?_, ?_⟩, ?_, fun t ht => ?_⟩
  · refine ⟨_, left, Source.line?_of_lines hstart.lines_eq, ?_, ?_, ?_⟩
    · rw [htext]
      exact (List.append_assoc ..).symm
    · rw [hfront, byteLength_append]
    · rwa [htext]
  · have hlocation := Source.location_of_cut hstart
    rw [← hfront] at hlocation
    exact congrArg Location.line hlocation
  · have hlocation := Source.location_of_cut hstop
    rw [← List.append_assoc, ← hfront] at hlocation
    exact congrArg Location.line hlocation
  · rcases hend with ⟨rfl, rfl⟩ | ⟨hend, -⟩
    · refine .inr ⟨rfl, ?_⟩
      rw [Source.length, hparts, List.flatten_nil, List.append_nil, List.append_nil]
    · exact .inl hend
  · rw [byteLength_append]
    exact Nat.le_add_right ..
  · have hall : Trivia.Gap below.flatten (before ++ (item ++ stop)) := by
      have hlast : Trivia.Gap below.flatten stop := by
        rcases hend with ⟨rfl, -⟩ | ⟨hend, -⟩
        · exact .nil
        · exact Trivia.gap_of_isLineEnd hend below.flatten
      have hmiddle := Trivia.gap_append (Trivia.gap_of_item hitem) hlast
      rw [← List.append_assoc] at hgap
      exact Trivia.gap_append hgap hmiddle
    have hpassed : l.rest = before ++ (item ++ stop) ++ below.flatten := by
      rw [hrest]
      simp only [List.append_assoc]
    obtain ⟨hbelow, hle⟩ := index_le_of_gap hpassed hall t ht
    cases below with
    | nil => exact absurd rfl hbelow
    | cons line below =>
      refine ⟨_, Source.lineStart?_of_cut hstart, ?_⟩
      have hsize := congrArg byteLength hfront
      simp only [byteLength_append] at hsize hle ⊢
      omega

end Lexer

theorem Source.comments_take_lines (s : Source) :
    (∀ n, let l := (Lexer.ofSource s).advance n
      l.passed.flatMap Span.text = (Trivia.split l.rest).1
        ∧ ∀ c ∈ l.passed, c.source = s ∧ (['/', '/'] <+: c.text →
          ∃ number stop, c.TakesRest number stop
            ∧ ∀ t ∈ s.tokens, t.span.start < c.start
              ∨ ∃ start, s.lineStart? (number + 1) = some start ∧ start ≤ t.span.start))
      ∧ ∀ t ∈ s.tokens, t.kind ≠ .literal .string → t.kind ≠ .fault .unterminatedString →
        t.kind ≠ .fault .unterminatedComment →
          t.span.startLocation.line = t.span.stopLocation.line := by
  refine ⟨fun n => ?_, fun t ht hstring hquote hcomment => ?_⟩
  · intro l
    have hformed : l.WellFormed := Lexer.wellFormed_advance (Lexer.wellFormed_ofSource s) n
    have hsource : l.source = s := Lexer.source_advance (Lexer.ofSource s) n
    refine ⟨?_, fun c hc => ⟨(Lexer.source_of_mem_passed hc).trans hsource, fun hslashes => ?_⟩⟩
    · obtain ⟨front, hwhole, hindex⟩ := hformed
      rw [Lexer.passed, ← hindex, Trivia.flatMap_text_items hwhole]
    · obtain ⟨number, stop, htakes, hstart, hbehind⟩ := Lexer.comment_takesRest hformed hc hslashes
      rw [hsource] at hbehind
      refine ⟨number, stop, htakes, fun t ht => ?_⟩
      obtain ⟨read, hdrain, hread⟩ := Lexer.drain_advance (Lexer.ofSource s) n
      have hmem : t ∈ read ++ l.drain.1 := hdrain ▸ ht
      rcases List.mem_append.mp hmem with hmem | hmem
      · have hstop : t.span.stop ≤ l.index := hread t hmem
        have hfilled := ((Placed.of_source s).span_of_mem t ht).2
        exact .inl (by omega)
      · exact .inr (hbehind t hmem)
  · obtain ⟨before, after, hparts, -, hspan, hmunch⟩ := (Placed.of_source s).of_mem t ht
    have hwhite := (Lexeme.isWhiteSpace_eq_false_or_string hmunch hquote hcomment).resolve_right
      fun h => hstring h.1
    rw [hspan]
    exact line_location_of_open hparts fun c hc => isLineTerminator_eq_false (hwhite c hc)

end LoxReader
