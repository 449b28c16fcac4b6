import LoxReader.Proofs.LineTable

/-!
The shape of the lines of a text: each but the last ends with one terminator, and no terminator
stands anywhere else. A place in a text is a place in one of its lines, which gives its location.
-/

namespace LoxReader

open Text

namespace Text

inductive IsLineEnd : Text → Prop
  | crlf : IsLineEnd ['\r', '\n']
  | single {c : Char} : isLineTerminator c → IsLineEnd [c]

theorem isLineTerminator_of_mem_lineEnd {stop : Text} (h : IsLineEnd stop) :
    ∀ c ∈ stop, isLineTerminator c := by
  cases h with
  | crlf => simp [isLineTerminator]
  | single hc => simpa using hc

def IsOpenLine (t : Text) : Prop := ∀ c ∈ t, isLineTerminator c = false

inductive IsClosedLine : Text → Prop
  | mk {body stop : Text} : IsOpenLine body → IsLineEnd stop → IsClosedLine (body ++ stop)

theorem isOpenLine_nil : IsOpenLine [] := by simp [IsOpenLine]

theorem isOpenLine_cons {c : Char} {t : Text} (hc : isLineTerminator c = false)
    (ht : IsOpenLine t) : IsOpenLine (c :: t) := by
  intro d hd
  rcases List.mem_cons.mp hd with rfl | hd
  · exact hc
  · exact ht d hd

theorem isClosedLine_of_isLineEnd {stop : Text} (h : IsLineEnd stop) : IsClosedLine stop :=
  .mk isOpenLine_nil h

theorem endsLine_of_open {c : Char} {line : Text} (hline : IsOpenLine line) :
    endsLine c line = isLineTerminator c := by
  have hhead : line.head? ≠ some '\n' := by
    intro h
    exact absurd (hline '\n' (List.mem_of_mem_head? h)) (by decide)
  simp [endsLine, hhead]

theorem isClosedLine_cons {c : Char} {line : Text} (hline : IsClosedLine line)
    (hc : endsLine c line = false) : IsClosedLine (c :: line) := by
  obtain @⟨body, stop, hbody, hstop⟩ := hline
  rcases hterm : isLineTerminator c with _ | _
  · exact .mk (isOpenLine_cons hterm hbody) hstop
  · -- a terminator that ends no line is the first half of a pair
    simp only [endsLine, hterm, Bool.true_and, Bool.not_eq_false', Bool.and_eq_true,
      beq_iff_eq] at hc
    obtain ⟨rfl, hhead⟩ := hc
    cases body with
    | cons d body =>
      obtain rfl : d = '\n' := by simpa using hhead
      exact absurd (hbody '\n' (by simp)) (by decide)
    | nil =>
      cases hstop with
      | crlf => simp at hhead
      | @single d hd =>
        obtain rfl : d = '\n' := by simpa using hhead
        exact isClosedLine_of_isLineEnd .crlf

theorem lines_eq_closed_append (t : Text) : ∃ closed last, lines t = closed ++ [last]
    ∧ (∀ line ∈ closed, IsClosedLine line) ∧ IsOpenLine last := by
  induction t with
  | nil => exact ⟨[], [], rfl, by simp, isOpenLine_nil⟩
  | cons c t ih =>
    obtain ⟨closed, last, hlines, hclosed, hlast⟩ := ih
    rw [lines_cons, hlines]
    cases closed with
    | nil =>
      rw [List.nil_append, consLine, endsLine_of_open hlast]
      rcases hterm : isLineTerminator c with _ | _
      · exact ⟨[], c :: last, rfl, by simp, isOpenLine_cons hterm hlast⟩
      · refine ⟨[[c]], last, rfl, ?_, hlast⟩
        intro line hmem
        obtain rfl : line = [c] := by simpa using hmem
        exact isClosedLine_of_isLineEnd (.single hterm)
    | cons line closed =>
      rw [List.cons_append, consLine]
      have hfirst := hclosed line (by simp)
      have hrest : ∀ l ∈ closed, IsClosedLine l := fun l hl => hclosed l (by simp [hl])
      rcases hends : endsLine c line with _ | _
      · refine ⟨(c :: line) :: closed, last, rfl, ?_, hlast⟩
        intro l hl
        rcases List.mem_cons.mp hl with rfl | hl
        · exact isClosedLine_cons hfirst hends
        · exact hrest l hl
      · have hterm : isLineTerminator c := by
          simp only [endsLine, Bool.and_eq_true] at hends
          exact hends.1
        refine ⟨[c] :: line :: closed, last, rfl, ?_, hlast⟩
        intro l hl
        rcases List.mem_cons.mp hl with rfl | hl
        · exact isClosedLine_of_isLineEnd (.single hterm)
        · exact hclosed l hl

theorem ne_nil_of_isClosedLine {line : Text} (h : IsClosedLine line) : line ≠ [] := by
  obtain ⟨-, hstop⟩ := h
  cases hstop <;> simp

/-- A place in a line: behind `left`, with `right` still to come. The end of a line is a place of
the next one. -/
structure IsCut (t : Text) (above : List Text) (left right : Text) (below : List Text) : Prop where
  lines_eq : lines t = above ++ (left ++ right) :: below
  inside : right = [] → below = []

theorem exists_cut_of_flatten {closed : List Text} {last front after : Text}
    (hclosed : ∀ line ∈ closed, line ≠ []) (h : (closed ++ [last]).flatten = front ++ after) :
    ∃ above left right below, closed ++ [last] = above ++ (left ++ right) :: below
      ∧ front = above.flatten ++ left ∧ (right = [] → below = []) := by
  induction closed generalizing front after with
  | nil => exact ⟨[], front, after, [], by simpa using h, rfl, by simp⟩
  | cons line closed ih =>
    rw [List.cons_append, List.flatten_cons, List.append_eq_append_iff] at h
    rcases h with ⟨inner, rfl, hrest⟩ | ⟨right, rfl, -⟩
    · obtain ⟨above, left, right, below, hlines, rfl, hinside⟩ :=
        ih (fun l hl => hclosed l (by simp [hl])) hrest
      exact ⟨line :: above, left, right, below, by simp [hlines], by simp, hinside⟩
    · by_cases hright : right = []
      · subst hright
        obtain ⟨above, left, right, below, hlines, hfront, hinside⟩ :=
          ih (fun l hl => hclosed l (by simp [hl])) (List.nil_append _).symm
        exact ⟨front :: above, left, right, below, by simp [hlines], by simp [← hfront], hinside⟩
      · exact ⟨[], front, right, closed ++ [last], rfl, by simp, fun h => absurd h hright⟩

theorem exists_cut {t front after : Text} (h : t = front ++ after) :
    ∃ above left right below, IsCut t above left right below ∧ front = above.flatten ++ left := by
  obtain ⟨closed, last, hlines, hclosed, -⟩ := lines_eq_closed_append t
  have hwhole := flatten_lines t
  rw [hlines, h] at hwhole
  have hne : ∀ line ∈ closed, line ≠ [] := fun l hl => ne_nil_of_isClosedLine (hclosed l hl)
  obtain ⟨above, left, right, below, heq, hfront, hinside⟩ := exists_cut_of_flatten hne hwhole
  exact ⟨above, left, right, below, ⟨hlines.trans heq, hinside⟩, hfront⟩

theorem open_left_of_closed {left right : Text} (h : IsClosedLine (left ++ right))
    (hright : right ≠ []) :
    IsOpenLine left ∨ right = ['\n'] ∧ ∃ body, left = body ++ ['\r'] ∧ IsOpenLine body := by
  generalize hline : left ++ right = line at h
  obtain @⟨body, stop, hbody, hstop⟩ := h
  rcases List.append_eq_append_iff.mp hline with ⟨inner, rfl, -⟩ | ⟨inner, rfl, hstop'⟩
  · exact .inl fun c hc => hbody c (by simp [hc])
  · cases inner with
    | nil =>
      left
      simpa using hbody
    | cons c inner =>
      cases hstop with
      | crlf =>
        simp only [List.cons_append, List.cons.injEq] at hstop'
        obtain ⟨rfl, hstop'⟩ := hstop'
        rcases List.append_eq_cons_iff.mp hstop'.symm with ⟨rfl, rfl⟩ | ⟨_, -, hnil⟩
        · exact .inr ⟨rfl, body, rfl, hbody⟩
        · exact absurd (List.append_eq_nil_iff.mp hnil.symm).2 hright
      | single _ =>
        simp only [List.cons_append, List.cons.injEq] at hstop'
        exact absurd (List.append_eq_nil_iff.mp hstop'.2.symm).2 hright

theorem IsCut.text_eq {t left right : Text} {above below : List Text}
    (h : IsCut t above left right below) :
    t = above.flatten ++ left ++ (right ++ below.flatten) := by
  rw [← flatten_lines t, h.lines_eq]
  simp

theorem IsCut.isOpenLine_of_last {t left right : Text} {above : List Text}
    (h : IsCut t above left right []) : IsOpenLine (left ++ right) := by
  obtain ⟨closed, last, hlines, -, hlast⟩ := lines_eq_closed_append t
  obtain ⟨-, hline⟩ := List.append_inj' (hlines.symm.trans h.lines_eq) rfl
  rwa [← List.singleton_inj.mp hline]

theorem IsCut.closed_or_last {t left right : Text} {above below : List Text}
    (h : IsCut t above left right below) :
    right ≠ [] ∧ IsClosedLine (left ++ right) ∨ below = [] ∧ IsOpenLine (left ++ right) := by
  rcases List.eq_nil_or_concat below with rfl | ⟨below, line, rfl⟩
  · exact .inr ⟨rfl, h.isOpenLine_of_last⟩
  · obtain ⟨closed, last, hlines, hclosed, -⟩ := lines_eq_closed_append t
    have heq := hlines.symm.trans h.lines_eq
    have hright : right ≠ [] := fun hnil => by simpa using h.inside hnil
    rw [List.concat_eq_append, ← List.cons_append, ← List.append_assoc] at heq
    obtain ⟨rfl, -⟩ := List.append_inj' heq rfl
    exact .inl ⟨hright, hclosed _ (by simp)⟩

/-- Between the start of a line and a place in it only the first half of a pair can be a
terminator. -/
theorem IsCut.open_left {t left right : Text} {above below : List Text}
    (h : IsCut t above left right below) :
    IsOpenLine left ∨ right = ['\n'] ∧ ∃ body, left = body ++ ['\r'] ∧ IsOpenLine body := by
  rcases h.closed_or_last with ⟨hright, hclosed⟩ | ⟨-, hopen⟩
  · exact open_left_of_closed hclosed hright
  · exact .inl fun c hc => hopen c (by simp [hc])

theorem exists_terminator_getLast? {line : Text} (h : IsClosedLine line) :
    ∃ c ∈ line.getLast?, isLineTerminator c := by
  obtain ⟨-, hstop⟩ := h
  cases hstop with
  | crlf => exact ⟨'\n', by simp, by decide⟩
  | @single c hc => exact ⟨c, by simp, hc⟩

theorem not_isOpenLine_of_closed {left right : Text} (h : IsClosedLine (left ++ right))
    (hright : right ≠ []) : ¬ IsOpenLine right := by
  intro hopen
  obtain ⟨c, hc, hterm⟩ := exists_terminator_getLast? h
  rw [List.getLast?_append, List.getLast?_eq_some_getLast hright, Option.some_or] at hc
  obtain rfl := Option.some.inj hc
  rw [hopen _ (List.getLast_mem hright)] at hterm
  cases hterm

/-- What holds no terminator ends in the line that it starts in. -/
theorem IsCut.extend {t left right x rest : Text} {above below : List Text}
    (h : IsCut t above left right below) (hparts : t = above.flatten ++ left ++ (x ++ rest))
    (hx : IsOpenLine x) :
    ∃ right', right = x ++ right' ∧ IsCut t above (left ++ x) right' below := by
  have hright : right ++ below.flatten = x ++ rest :=
    List.append_cancel_left (h.text_eq.symm.trans hparts)
  -- a line without a terminator is the last one
  have hlast (hopen : IsOpenLine right) : below = [] := by
    rcases h.closed_or_last with ⟨hright, hclosed⟩ | ⟨hbelow, -⟩
    · exact absurd hopen (not_isOpenLine_of_closed hclosed hright)
    · exact hbelow
  obtain ⟨right', rfl⟩ : ∃ right', right = x ++ right' := by
    rcases List.append_eq_append_iff.mp hright with ⟨inner, rfl, hinner⟩ | ⟨inner, rfl, -⟩
    · have hbelow := hlast fun c hc => hx c (by simp [hc])
      subst hbelow
      obtain ⟨rfl, -⟩ := List.append_eq_nil_iff.mp hinner.symm
      exact ⟨[], by simp⟩
    · exact ⟨inner, rfl⟩
  refine ⟨right', rfl, ⟨by rw [h.lines_eq, List.append_assoc], ?_⟩⟩
  rintro rfl
  exact hlast (by rwa [List.append_nil])

end Text

namespace Source

theorem line?_of_lines {s : Source} {above below : List Text} {text : Text}
    (h : s.text.lines = above ++ text :: below) :
    s.line? (above.length + 1) = some ⟨byteLength above.flatten, text, text ++ below.flatten⟩ :=
  line?_eq_some_iff.mpr ⟨text, by simp [h], by simp [h]⟩

theorem lineNumber_of_cut {s : Source} {above below : List Text} {left right : Text}
    (h : IsCut s.text above left right below) :
    s.lineNumber (byteLength (above.flatten ++ left)) = above.length + 1 := by
  have hlow : above.length < s.lineNumber (byteLength (above.flatten ++ left)) :=
    (start_le_iff (line?_of_lines h.lines_eq)).mp (by simp)
  cases below with
  | nil =>
    have hcount := s.lineNumber_le (byteLength (above.flatten ++ left))
    rw [lineCount_eq, h.lines_eq] at hcount
    simp only [List.length_append, List.length_cons, List.length_nil] at hcount
    omega
  | cons line below =>
    have hlines : s.text.lines = (above ++ [left ++ right]) ++ line :: below := by
      simp [h.lines_eq]
    have hnext : _ ↔ _ < s.lineNumber (byteLength (above.flatten ++ left)) :=
      start_le_iff (line?_of_lines hlines)
    have hright : right ≠ [] := fun hnil => by simpa using h.inside hnil
    have hpos : 0 < byteLength right := by
      have hlen := length_le_byteLength right
      have := List.length_pos_iff.mpr hright
      omega
    simp only [List.flatten_append, List.flatten_singleton, byteLength_append, List.length_append,
      List.length_singleton] at hlow hnext ⊢
    omega

theorem location_of_cut {s : Source} {above below : List Text} {left right : Text}
    (h : IsCut s.text above left right below) :
    Position.location ⟨s, byteLength (above.flatten ++ left)⟩
      = ⟨above.length + 1, left.length + 1⟩ := by
  have hnumber := lineNumber_of_cut h
  have hline := line?_of_lines h.lines_eq
  rw [← hnumber] at hline
  have hplace := location?_of_line hline rfl (byteLength_append ..)
  rw [Position.location, hplace, hnumber]
  rfl

end Source

end LoxReader
