import LoxReader.Proofs.Checked.Source
import LoxReader.Proofs.LineScan

/-!
The offsets at which lines start. They cut a text between its terminators, and the table of two
texts in a row is the row of their tables, unless a pair of carriage return and line feed stands
across the seam.
-/

namespace LoxReader

open Text

namespace Text

def lineStarts (t : Text) : List Nat := (Line.table t).map Line.start

theorem map_start_place (start : Nat) (rest : Text) (ls : List Text) :
    (Line.place start rest ls).map Line.start = starts start ls := by
  induction ls generalizing start rest with
  | nil => rfl
  | cons line ls ih => rw [Line.place, List.map_cons, ih, starts]

theorem lineStarts_eq_starts (t : Text) : lineStarts t = starts 0 (lines t) :=
  map_start_place 0 t (lines t)

theorem lineStarts_eq (t : Text) : lineStarts t = 0 :: terminatorStops 0 t := by
  rw [lineStarts_eq_starts, starts_lines]

theorem bounds_of_mem_terminatorStops {start n : Nat} {t : Text}
    (h : n ∈ terminatorStops start t) : start ≤ n ∧ n ≤ start + byteLength t := by
  have hmem : n ∈ starts start (lines t) := by
    rw [starts_lines]
    exact List.mem_cons_of_mem start h
  have hbounds := bounds_of_mem_starts hmem
  rwa [flatten_lines] at hbounds

theorem pairwise_starts {closed : List Text} (hclosed : ∀ line ∈ closed, line ≠ [])
    (start : Nat) (last : Text) : (starts start (closed ++ [last])).Pairwise (· < ·) := by
  induction closed generalizing start with
  | nil => exact List.pairwise_singleton _ _
  | cons line closed ih =>
    obtain ⟨hline, hrest⟩ := List.forall_mem_cons.mp hclosed
    refine .cons (fun n hn => ?_) (ih hrest _)
    have hbounds := bounds_of_mem_starts hn
    have hlength := length_le_byteLength line
    have hpos := List.length_pos_iff.mpr hline
    omega

theorem pairwise_lineStarts (t : Text) : (lineStarts t).Pairwise (· < ·) := by
  obtain ⟨closed, last, hlines, hclosed, -⟩ := lines_eq_closed_append t
  rw [lineStarts_eq_starts, hlines]
  exact pairwise_starts (fun line hline => ne_nil_of_isClosedLine (hclosed line hline)) 0 last

theorem isBoundary_of_mem_lineStarts {t : Text} {n : Nat} (h : n ∈ lineStarts t) :
    isBoundary t n := by
  obtain ⟨line, hline, rfl⟩ := List.mem_map.mp h
  obtain ⟨before, hparts, hstart⟩ := Line.rest_of_mem_table hline
  exact isBoundary_iff.mpr ⟨before, line.rest, hparts, hstart.symm⟩

/-- A pair of carriage return and line feed stands across the seam of two texts. -/
def PairAcross (s t : Text) : Prop := s.getLast? = some '\r' ∧ t.head? = some '\n'

instance (s t : Text) : Decidable (PairAcross s t) :=
  inferInstanceAs (Decidable (_ ∧ _))

theorem pairAcross_of_cons {c : Char} {s t : Text} (h : PairAcross s t) :
    PairAcross (c :: s) t := by
  refine ⟨?_, h.2⟩
  rw [List.getLast?_cons, h.1]
  rfl

theorem not_pair_of_append {c : Char} {s t : Text} (h : ¬ PairAcross (c :: s) t)
    (hpair : ∀ u, c = '\r' → s = '\n' :: u → False) :
    ∀ u, c = '\r' → s ++ t = '\n' :: u → False := by
  rintro u rfl happend
  cases s with
  | nil => exact h ⟨rfl, by rw [← List.nil_append t, happend]; rfl⟩
  | cons d s =>
    obtain ⟨rfl, -⟩ := List.cons.inj happend
    exact hpair s rfl rfl

theorem terminatorStops_append {s t : Text} (h : ¬ PairAcross s t) (start : Nat) :
    terminatorStops start (s ++ t)
      = terminatorStops start s ++ terminatorStops (start + byteLength s) t := by
  fun_induction terminatorStops start s with
  | case1 start s ih =>
    have htail : ¬ PairAcross s t := fun hs => h (pairAcross_of_cons (pairAcross_of_cons hs))
    have hsize : byteLength ('\r' :: '\n' :: s) = 2 + byteLength s := (Nat.add_assoc 1 1 _).symm
    rw [List.cons_append, List.cons_append, terminatorStops, ih htail, hsize, Nat.add_assoc,
      List.cons_append]
  | case2 start c s hpair hc ih =>
    have htail : ¬ PairAcross s t := fun hs => h (pairAcross_of_cons hs)
    rw [List.cons_append, terminatorStops, if_pos hc, ih htail, byteLength_cons, Nat.add_assoc,
      List.cons_append]
    exact not_pair_of_append h hpair
  | case3 start c s hpair hc ih =>
    have htail : ¬ PairAcross s t := fun hs => h (pairAcross_of_cons hs)
    rw [List.cons_append, terminatorStops, if_neg hc, ih htail, byteLength_cons, Nat.add_assoc]
    exact not_pair_of_append h hpair
  | case4 start => rfl

theorem terminatorStops_add (n start : Nat) (t : Text) :
    terminatorStops (start + n) t = (terminatorStops start t).map (· + n) := by
  fun_induction terminatorStops start t with
  | case1 start t ih =>
    rw [terminatorStops, List.map_cons, ← ih, Nat.add_right_comm]
  | case2 start c t hpair hc ih =>
    rw [terminatorStops, if_pos hc, List.map_cons, ← ih, Nat.add_right_comm]
    exact hpair
  | case3 start c t hpair hc ih =>
    rw [terminatorStops, if_neg hc, ← ih, Nat.add_right_comm]
    exact hpair
  | case4 start => rfl

theorem terminatorStops_pair (start : Nat) (t : Text) :
    terminatorStops start ('\r' :: '\n' :: t) = terminatorStops (start + 1) ('\n' :: t) := rfl

theorem lineStarts_append_of_apart {s t : Text} (h : ¬ PairAcross s t) :
    lineStarts (s ++ t) = lineStarts s ++ terminatorStops (byteLength s) t := by
  have hstops := terminatorStops_append h 0
  rw [lineStarts_eq, lineStarts_eq, hstops, Nat.zero_add, List.cons_append]

theorem not_pairAcross_return (s t : Text) : ¬ PairAcross s ('\r' :: t) :=
  fun h => absurd h.2 (by simp)

theorem lineStarts_append (s t : Text) :
    lineStarts (s ++ t)
      = (if PairAcross s t then (lineStarts s).dropLast else lineStarts s)
        ++ (lineStarts t).tail.map (· + byteLength s) := by
  rw [lineStarts_eq t, List.tail_cons, ← terminatorStops_add, Nat.zero_add]
  split
  · next hpair =>
    obtain ⟨s, rfl⟩ := List.getLast?_eq_some_iff.mp hpair.1
    obtain ⟨t, rfl⟩ := List.head?_eq_some_iff.mp hpair.2
    -- alone, the first half of the pair ends a line; the pair ends one behind its second half
    have halone : lineStarts (s ++ ['\r']) = lineStarts s ++ [byteLength s + 1] :=
      lineStarts_append_of_apart (not_pairAcross_return s [])
    have hwhole := lineStarts_append_of_apart (not_pairAcross_return s ('\n' :: t))
    rw [halone, List.dropLast_concat, List.append_assoc, List.singleton_append, hwhole,
      terminatorStops_pair, byteLength_append]
    rfl
  · next hapart => exact lineStarts_append_of_apart hapart

example : lineStarts "a\r".toList = [0, 2] ∧ lineStarts "\nb".toList = [0, 1]
    ∧ lineStarts "a\r\nb".toList = [0, 3] := by decide

theorem not_mem_lineStarts_of_pair {before after : Text} :
    byteLength before + 1 ∉ lineStarts (before ++ '\r' :: '\n' :: after) := by
  rw [lineStarts_append_of_apart (not_pairAcross_return before _), lineStarts_eq_starts,
    List.mem_append, terminatorStops, List.mem_cons, not_or, not_or]
  refine ⟨fun hfront => ?_, by omega, fun hbehind => ?_⟩
  · have hbounds := bounds_of_mem_starts hfront
    rw [flatten_lines] at hbounds
    omega
  · have hbounds := bounds_of_mem_terminatorStops hbehind
    omega

end Text

namespace Source

theorem lineText?_eq_bind (s : Source) (n : Nat) :
    s.lineText? n = (s.lineStart? n).bind fun start =>
      s.slice? start ((s.lineStart? (n + 1)).getD s.length) := by
  cases hfound : s.line? n with
  | none => rw [lineText?, lineStart?, hfound, Option.map_none, Option.map_none, Option.bind_none]
  | some line =>
    rw [lineText?, lineStart?, hfound, Option.map_some, Option.map_some, Option.bind_some,
      slice?_of_line? hfound]

theorem lines_partition (s : Source) :
    ((List.range' 1 s.lineCount).map s.lineStart? = (lineStarts s.text).map some
        ∧ (lineStarts s.text).head? = some 0 ∧ (lineStarts s.text).Pairwise (· < ·)
        ∧ ∀ n ∈ lineStarts s.text, isBoundary s.text n ∧ n ≤ s.length)
      ∧ (∃ closed last, (List.range' 1 s.lineCount).map s.lineText? = (closed ++ [last]).map some
        ∧ (closed ++ [last]).flatten = s.text
        ∧ (∀ line ∈ closed, IsClosedLine line) ∧ IsOpenLine last)
      ∧ (∀ before after, s.text = before ++ '\r' :: '\n' :: after →
        byteLength before + 1 ∉ lineStarts s.text)
      ∧ ∀ n, (s.lineText? n = none ↔ n = 0 ∨ s.lineCount < n)
        ∧ (s.lineStart? n = none ↔ n = 0 ∨ s.lineCount < n)
        ∧ s.lineText? n = (s.lineStart? n).bind (fun start =>
          s.slice? start ((s.lineStart? (n + 1)).getD s.length))
        ∧ (s.length < 2 ^ 63 → Checked.lineText s n = some (s.lineText? n)) := by
  refine ⟨⟨s.map_line?_range' Line.start, ?_, pairwise_lineStarts s.text, fun n hn => ?_⟩,
    ?_, ?_, ?_⟩
  · rw [lineStarts_eq, List.head?_cons]
  · have hboundary := isBoundary_of_mem_lineStarts hn
    exact ⟨hboundary, le_of_isBoundary hboundary⟩
  · obtain ⟨closed, last, hlines, hclosed, hlast⟩ := lines_eq_closed_append s.text
    have hwhole := flatten_lines s.text
    rw [hlines] at hwhole
    have htexts := s.map_line?_range' Line.text
    rw [Line.map_text_table, hlines] at htexts
    exact ⟨closed, last, htexts, hwhole, hclosed, hlast⟩
  · intro before after hparts
    rw [hparts]
    exact not_mem_lineStarts_of_pair
  · intro n
    refine ⟨?_, ?_, s.lineText?_eq_bind n, fun hfits => Checked.lineText_eq hfits n⟩
    · rw [lineText?, Option.map_eq_none_iff, line?_eq_none_iff]
    · rw [lineStart?, Option.map_eq_none_iff, line?_eq_none_iff]

end Source

end LoxReader
