import LoxReader.Proofs.Lines

/-!
The location of an offset against a scan of the text: the line counts the terminators that end no
later than the offset, the column the characters behind the last of them.
-/

namespace LoxReader

open Text

namespace Text

def lineTerminators : List Char := ['\n', '\r', '\x0B', '\x0C', '\x85', '\u2028', '\u2029']

theorem isLineTerminator_iff {c : Char} : isLineTerminator c ↔ c ∈ lineTerminators := by
  simp [isLineTerminator, lineTerminators, or_assoc]

/-- The offsets at which the terminators of a text end, from left to right, when the text starts
at the offset `start`. A pair is one terminator. -/
def terminatorStops (start : Nat) : Text → List Nat
  | '\r' :: '\n' :: t => (start + 2) :: terminatorStops (start + 2) t
  | c :: t =>
    if c ∈ lineTerminators then (start + c.utf8Size) :: terminatorStops (start + c.utf8Size) t
    else terminatorStops (start + c.utf8Size) t
  | [] => []

def InsideChar (t : Text) (n : Nat) : Prop :=
  ∃ before c after, t = before ++ c :: after ∧ byteLength before < n
    ∧ n < byteLength before + c.utf8Size

theorem insideChar_cons {c : Char} {t : Text} {n : Nat} (h : c.utf8Size ≤ n) :
    InsideChar (c :: t) n ↔ InsideChar t (n - c.utf8Size) := by
  constructor
  · rintro ⟨before, d, after, hparts, hlow, hhigh⟩
    cases before with
    | nil =>
      obtain ⟨rfl, rfl⟩ := List.cons.inj hparts
      rw [byteLength_nil] at hhigh
      omega
    | cons e before =>
      obtain ⟨rfl, rfl⟩ := List.cons.inj hparts
      rw [byteLength_cons] at hlow hhigh
      exact ⟨before, d, after, rfl, by omega, by omega⟩
  · rintro ⟨before, d, after, rfl, hlow, hhigh⟩
    refine ⟨c :: before, d, after, rfl, ?_, ?_⟩
    · rw [byteLength_cons]
      omega
    · rw [byteLength_cons]
      omega

theorem splitAt?_eq_none_iff {n : Nat} {t : Text} :
    splitAt? n t = none ↔ byteLength t < n ∨ InsideChar t n := by
  fun_induction splitAt? n t with
  | case1 t =>
    simp [InsideChar]
  | case2 n =>
    simp
  | case3 n c t hfits ih =>
    rw [Option.map_eq_none_iff, ih, insideChar_cons hfits, byteLength_cons]
    refine or_congr_left ?_
    omega
  | case4 n c t hfits =>
    have hinside : InsideChar (c :: t) (n + 1) :=
      ⟨[], c, t, rfl, Nat.succ_pos n, by rw [byteLength_nil]; omega⟩
    simp [hinside]

theorem not_isBoundary_iff {t : Text} {n : Nat} :
    ¬ isBoundary t n ↔ byteLength t < n ∨ InsideChar t n := by
  rw [← splitAt?_eq_none_iff, isBoundary, Bool.not_eq_true, Option.isSome_eq_false_iff,
    Option.isNone_iff_eq_none]

/-- The offsets at which texts start that stand one behind the other. -/
def starts (start : Nat) : List Text → List Nat
  | [] => []
  | line :: ls => start :: starts (start + byteLength line) ls

theorem starts_append (start : Nat) (ls ls' : List Text) :
    starts start (ls ++ ls') = starts start ls ++ starts (start + byteLength ls.flatten) ls' := by
  induction ls generalizing start with
  | nil => rfl
  | cons line ls ih =>
    rw [List.cons_append, starts, starts, ih, List.flatten_cons, byteLength_append,
      Nat.add_assoc, List.cons_append]

theorem length_starts (start : Nat) (ls : List Text) : (starts start ls).length = ls.length := by
  induction ls generalizing start with
  | nil => rfl
  | cons line ls ih => rw [starts, List.length_cons, List.length_cons, ih]

theorem bounds_of_mem_starts {start n : Nat} {ls : List Text} (h : n ∈ starts start ls) :
    start ≤ n ∧ n ≤ start + byteLength ls.flatten := by
  induction ls generalizing start with
  | nil => simp [starts] at h
  | cons line ls ih =>
    rw [List.flatten_cons, byteLength_append]
    rcases List.mem_cons.mp h with rfl | h
    · omega
    · have hrest := ih h
      omega

theorem head?_of_lines {t line : Text} {ls : List Text} (h : lines t = line :: ls) :
    line.head? = t.head? := by
  cases t with
  | nil =>
    obtain ⟨rfl, -⟩ := List.cons.inj h
    rfl
  | cons c t =>
    rw [lines_cons] at h
    obtain ⟨first, rest, hrest⟩ := List.exists_cons_of_ne_nil (lines_ne_nil t)
    rw [hrest, consLine] at h
    split at h
    · obtain ⟨rfl, -⟩ := List.cons.inj h
      rfl
    · obtain ⟨rfl, -⟩ := List.cons.inj h
      rfl

theorem starts_lines (start : Nat) (t : Text) :
    starts start (lines t) = start :: terminatorStops start t := by
  fun_induction terminatorStops start t with
  | case1 start t ih =>
    obtain ⟨line, ls, hlines⟩ := List.exists_cons_of_ne_nil (lines_ne_nil t)
    have hpair : lines ('\r' :: '\n' :: t) = ['\r', '\n'] :: lines t := by
      rw [lines_cons, lines_cons, hlines]
      rfl
    rw [hpair, starts, ← ih]
    rfl
  | case2 start c t hpair hc ih =>
    obtain ⟨line, ls, hlines⟩ := List.exists_cons_of_ne_nil (lines_ne_nil t)
    have hends : endsLine c line := by
      have hhead := head?_of_lines hlines
      have hterm := isLineTerminator_iff.mpr hc
      simp only [endsLine, hterm, hhead, Bool.true_and, Bool.not_eq_true', Bool.and_eq_false_iff,
        beq_eq_false_iff_ne]
      by_cases hr : c = '\r'
      · right
        intro hn
        obtain ⟨u, rfl⟩ := List.head?_eq_some_iff.mp hn
        exact hpair u hr rfl
      · exact .inl hr
    rw [lines_cons, hlines, consLine, if_pos hends, ← hlines, starts]
    simpa using ih
  | case3 start c t hpair hc ih =>
    obtain ⟨line, ls, hlines⟩ := List.exists_cons_of_ne_nil (lines_ne_nil t)
    have hends : endsLine c line = false := by
      have hterm : isLineTerminator c = false := by
        rw [← Bool.not_eq_true, isLineTerminator_iff]
        exact hc
      simp [endsLine, hterm]
    rw [hlines, starts] at ih
    rw [lines_cons, hlines, consLine, if_neg (by simp [hends]), starts, byteLength_cons,
      ← Nat.add_assoc, (List.cons.inj ih).2]
  | case4 start => rfl

/-- The terminators in front of a place are those of the lines above its own. -/
theorem terminatorStops_of_cut {t left right : Text} {above below : List Text}
    (h : IsCut t above left right below) :
    0 :: (terminatorStops 0 t).filter (· ≤ byteLength (above.flatten ++ left))
      = starts 0 above ++ [byteLength above.flatten] := by
  have hstarts := starts_lines 0 t
  rw [h.lines_eq, starts_append, starts, Nat.zero_add] at hstarts
  have hfirst : 0 :: (terminatorStops 0 t).filter (· ≤ byteLength (above.flatten ++ left))
      = (0 :: terminatorStops 0 t).filter (· ≤ byteLength (above.flatten ++ left)) := by simp
  have habove : (starts 0 above).filter (· ≤ byteLength (above.flatten ++ left))
      = starts 0 above := by
    refine List.filter_eq_self.mpr fun n hn => ?_
    have hbounds := bounds_of_mem_starts hn
    rw [byteLength_append, decide_eq_true_eq]
    omega
  have hbelow : (starts (byteLength above.flatten + byteLength (left ++ right)) below).filter
      (· ≤ byteLength (above.flatten ++ left)) = [] := by
    refine List.filter_eq_nil_iff.mpr fun n hn => ?_
    have hbounds := bounds_of_mem_starts hn
    have hright : right ≠ [] := by
      intro hnil
      rw [h.inside hnil] at hn
      simp [starts] at hn
    have hlength := length_le_byteLength right
    have hpos := List.length_pos_iff.mpr hright
    simp only [byteLength_append] at hbounds
    rw [byteLength_append, decide_eq_true_eq]
    omega
  rw [hfirst, ← hstarts, List.filter_append, habove, List.filter_cons_of_pos (by simp), hbelow]

theorem passed_of_cut {t left right : Text} {above below : List Text}
    (h : IsCut t above left right below) :
    let passed := (terminatorStops 0 t).filter (· ≤ byteLength (above.flatten ++ left))
    passed.length = above.length ∧ passed.getLast?.getD 0 = byteLength above.flatten := by
  intro passed
  have hpassed : 0 :: passed = starts 0 above ++ [byteLength above.flatten] :=
    terminatorStops_of_cut h
  constructor
  · have hlength := congrArg List.length hpassed
    rw [List.length_cons, List.length_append, length_starts] at hlength
    exact Nat.succ.inj hlength
  · have hlast := congrArg List.getLast? hpassed
    rw [List.getLast?_cons, List.getLast?_concat] at hlast
    exact Option.some.inj hlast

theorem append_inj_of_byteLength {before after before' after' : Text}
    (h : before ++ after = before' ++ after') (hsize : byteLength before = byteLength before') :
    before = before' ∧ after = after' := by
  have hsplit := splitAt?_byteLength_append before after
  rw [h, hsize, splitAt?_byteLength_append] at hsplit
  simp only [Option.some.injEq, Prod.mk.injEq] at hsplit
  exact ⟨hsplit.1.symm, hsplit.2.symm⟩

end Text

namespace Source

theorem location_eq_error_iff {s : Source} {index : Nat} {e : RangeError} :
    s.location index = .error e ↔
      e = .outOfRange index s.length ∧ (s.length < index ∨ InsideChar s.text index) := by
  rw [length, ← not_isBoundary_iff]
  cases hplace : s.location? index with
  | none =>
    have houtside : ¬ isBoundary s.text index := by
      intro hinside
      obtain ⟨line, _, front, back, _, hfound, _, hparts, _, hindex⟩ := line_of_isBoundary hinside
      rw [location?_of_line hfound hparts hindex] at hplace
      cases hplace
    simp only [location, hplace, houtside, Except.error.injEq]
    simp [length, eq_comm]
  | some place =>
    simp [location, hplace, isBoundary_of_location? hplace]

theorem location_eq_ok_iff {s : Source} {before after : Text} (h : s.text = before ++ after)
    {place : Location} : s.location (byteLength before) = .ok place ↔
      place = Position.location ⟨s, byteLength before⟩ := by
  have hinside : isBoundary s.text (byteLength before) := isBoundary_iff.mpr ⟨before, after, h, rfl⟩
  obtain ⟨_, _, _, _, _, hfound, _, hparts, _, hindex⟩ := line_of_isBoundary hinside
  have hplace := location?_of_line hfound hparts hindex
  simp [Position.location, location, hplace, eq_comm]

theorem exists_parts_of_location {s : Source} {index : Nat} {place : Location}
    (h : s.location index = .ok place) :
    ∃ before after, s.text = before ++ after ∧ byteLength before = index := by
  rw [← isBoundary_iff]
  cases hplace : s.location? index with
  | none => simp [location, hplace] at h
  | some place => exact isBoundary_of_location? hplace

theorem location_scan (s : Source) (index : Nat) :
    let passed := (terminatorStops 0 s.text).filter (· ≤ index)
    (∀ e, s.location index = .error e ↔
        e = .outOfRange index s.length ∧ (s.length < index ∨ InsideChar s.text index))
      ∧ (∀ place, s.location index = .ok place ↔ ∃ front behind after,
        s.text = front ++ behind ++ after ∧ byteLength front = passed.getLast?.getD 0
          ∧ byteLength (front ++ behind) = index
          ∧ place = ⟨1 + passed.length, 1 + behind.length⟩)
      ∧ ∀ place, s.location index = .ok place → 1 ≤ place.line ∧ place.line ≤ s.lineCount := by
  intro passed
  refine ⟨fun e => location_eq_error_iff, fun place => ?_, fun place hplace => ?_⟩
  · constructor
    · intro hplace
      obtain ⟨before, after, hparts, rfl⟩ := exists_parts_of_location hplace
      obtain ⟨above, left, right, below, hcut, rfl⟩ := exists_cut hparts
      obtain ⟨hlength, hlast⟩ := passed_of_cut hcut
      rw [location_eq_ok_iff hparts, location_of_cut hcut] at hplace
      refine ⟨above.flatten, left, after, hparts, hlast.symm, rfl, ?_⟩
      rw [hplace, hlength, Nat.add_comm, Nat.add_comm 1 left.length]
    · rintro ⟨front, behind, after, hparts, hfront, rfl, rfl⟩
      obtain ⟨above, left, right, below, hcut, hwhole⟩ := exists_cut hparts
      obtain ⟨hlength, hlast⟩ := passed_of_cut hcut
      rw [← hwhole] at hlength hlast
      obtain ⟨rfl, rfl⟩ := append_inj_of_byteLength hwhole (hfront.trans hlast)
      rw [location_eq_ok_iff hparts, location_of_cut hcut, hlength, Nat.add_comm,
        Nat.add_comm 1 behind.length]
  · obtain ⟨before, after, hparts, rfl⟩ := exists_parts_of_location hplace
    obtain ⟨above, left, right, below, hcut, rfl⟩ := exists_cut hparts
    rw [location_eq_ok_iff hparts, location_of_cut hcut] at hplace
    rw [hplace, lineCount_eq, hcut.lines_eq]
    simp

end Source

end LoxReader
