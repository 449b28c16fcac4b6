import LoxReader.Source.Basic

/-!
What the line table says about a text: the line of an offset is the last one that starts no later,
and a slice found through it is a slice of the text.
-/

namespace LoxReader

open Text

namespace Line

theorem start_le_of_mem_place {start : Nat} {rest : Text} {ls : List Text} {line : Line}
    (h : line ∈ place start rest ls) : start ≤ line.start := by
  induction ls generalizing start rest with
  | nil => simp [place] at h
  | cons first ls ih =>
      simp only [place, List.mem_cons] at h
      rcases h with rfl | h
      · exact Nat.le_refl _
      · exact Nat.le_trans (Nat.le_add_right ..) (ih h)

theorem pairwise_place (start : Nat) (rest : Text) (ls : List Text) :
    (place start rest ls).Pairwise fun a b => a.start ≤ b.start := by
  induction ls generalizing start rest with
  | nil => exact .nil
  | cons first ls ih =>
      refine .cons (fun line h => ?_) (ih _ _)
      exact Nat.le_trans (Nat.le_add_right ..) (start_le_of_mem_place h)

theorem table_eq_cons (t : Text) :
    ∃ first lines, t.lines = first :: lines
      ∧ table t = ⟨0, first, t⟩ :: place (byteLength first) (t.drop first.length) lines := by
  obtain ⟨first, lines, h⟩ : ∃ first lines, t.lines = first :: lines := by
    cases h : t.lines with
    | nil => exact absurd h (lines_ne_nil t)
    | cons first lines => exact ⟨first, lines, rfl⟩
  exact ⟨first, lines, h, by simp [table, h, place]⟩

end Line

namespace Source

theorem line?_eq (s : Source) (n : Nat) : s.line? (n + 1) = (Line.table s.text)[n]? := by
  simp [line?, s.lines_eq]

theorem lineNumber_eq (s : Source) (index : Nat) :
    s.lineNumber index = ((Line.table s.text).takeWhile (·.start ≤ index)).length := by
  rw [lineNumber, s.lines_eq]
  refine bisect_eq_length_takeWhile ((Line.pairwise_place ..).imp fun {a b} h => ?_)
  simp only [decide_eq_true_eq]
  exact Nat.le_trans h

theorem line?_lineNumber (s : Source) (index : Nat) :
    ∃ line, s.line? (s.lineNumber index) = some line ∧ line ∈ Line.table s.text
      ∧ line.start ≤ index := by
  obtain ⟨first, lines, _, htable⟩ := Line.table_eq_cons s.text
  obtain ⟨n, hn⟩ : ∃ n, s.lineNumber index = n + 1 := by
    refine ⟨s.lineNumber index - 1, ?_⟩
    simp [lineNumber_eq, htable]
  have hshorter : n < ((Line.table s.text).takeWhile (·.start ≤ index)).length := by
    rw [← lineNumber_eq]
    omega
  have hfound := (List.takeWhile_prefix (l := Line.table s.text) (·.start ≤ index)).getElem hshorter
  have hinside := List.getElem_mem hshorter
  have holds := List.all_eq_true.1 List.all_takeWhile _ hinside
  refine ⟨_, ?_, (List.takeWhile_sublist _).subset hinside, by simpa using holds⟩
  rw [hn, line?_eq, List.getElem?_eq_some_iff]
  exact ⟨Nat.lt_of_lt_of_le hshorter (List.takeWhile_sublist _).length_le, hfound.symm⟩

theorem slice?_eq (s : Source) (start stop : Nat) :
    s.slice? start stop = if stop < start then none else Text.slice? s.text start (stop - start) := by
  unfold slice?
  split
  · rfl
  · obtain ⟨line, hline, hmem, hle⟩ := s.line?_lineNumber start
    obtain ⟨before, htext, hstart⟩ := Line.rest_of_mem_table hmem
    rw [hline, htext, slice?_append (s := before) (by omega), ← hstart]
    rfl

end Source

end LoxReader
