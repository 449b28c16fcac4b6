import LoxReader.Proofs.LineScan
import LoxReader.Proofs.WellFormed

/-!
A location leads back to its offset: the line gives a start, and the characters in front of the
column give the way from there. So locations stand in the order of the offsets that they belong to.
-/

namespace LoxReader

open Text

namespace Location

theorem compare_eq_lt_iff {a b : Location} :
    a.compare b = .lt ↔ a.line < b.line ∨ a.line = b.line ∧ a.column < b.column := by
  rw [compare, Ordering.then_eq_lt, Nat.compare_eq_lt, Nat.compare_eq_eq, Nat.compare_eq_lt]

theorem compare_self (a : Location) : a.compare a = .eq := by
  rw [compare, Ordering.then_eq_eq, Nat.compare_eq_eq, Nat.compare_eq_eq]
  exact ⟨rfl, rfl⟩

theorem swap_compare (a b : Location) : (a.compare b).swap = b.compare a := by
  rw [compare, compare, Ordering.swap_then, Nat.compare_swap, Nat.compare_swap]

end Location

theorem Text.byteLength_take_le {m n : Nat} (h : m ≤ n) (t : Text) :
    byteLength (t.take m) ≤ byteLength (t.take n) := by
  obtain ⟨u, hu⟩ := List.take_prefix_take_left (l := t) h
  rw [← hu, byteLength_append]
  exact Nat.le_add_right _ _

namespace Source

theorem location_eq_ok_iff_isBoundary {s : Source} {index : Nat} {place : Location} :
    s.location index = .ok place ↔
      isBoundary s.text index ∧ place = Position.location ⟨s, index⟩ := by
  constructor
  · intro h
    obtain ⟨before, after, hparts, rfl⟩ := exists_parts_of_location h
    exact ⟨isBoundary_iff.mpr ⟨before, after, hparts, rfl⟩, (location_eq_ok_iff hparts).mp h⟩
  · rintro ⟨h, rfl⟩
    obtain ⟨before, after, hparts, rfl⟩ := isBoundary_iff.mp h
    exact (location_eq_ok_iff hparts).mpr rfl

theorem exists_line_of_location {s : Source} {index : Nat} {place : Location}
    (h : s.location index = .ok place) : ∃ line, s.line? place.line = some line
      ∧ place.line = s.lineNumber index ∧ 1 ≤ place.column
      ∧ place.column - 1 ≤ line.text.length
      ∧ line.start + byteLength (line.text.take (place.column - 1)) = index := by
  obtain ⟨hboundary, rfl⟩ := location_eq_ok_iff_isBoundary.mp h
  obtain ⟨line, front, back, hline, hparts, hindex, hplace⟩ :=
    Position.location_of_wellFormed (p := ⟨s, index⟩) hboundary
  rw [hplace]
  refine ⟨line, hline, rfl, Nat.succ_pos front.length, ?_, ?_⟩
  · simp [hparts]
  · simpa [hparts] using hindex.symm

theorem location_lt {s : Source} {i j : Nat} {a b : Location} (hi : s.location i = .ok a)
    (hj : s.location j = .ok b) (h : i < j) : a.compare b = .lt := by
  obtain ⟨line, hline, hnumber, -, -, hindex⟩ := exists_line_of_location hi
  obtain ⟨line', hline', hnumber', -, -, hindex'⟩ := exists_line_of_location hj
  have hlines : a.line ≤ b.line := by
    rw [hnumber, hnumber']
    exact lineNumber_mono (Nat.le_of_lt h)
  rw [Location.compare_eq_lt_iff]
  rcases Nat.lt_or_eq_of_le hlines with hlines | hlines
  · exact .inl hlines
  · -- in one line, more characters in front are no fewer bytes
    refine .inr ⟨hlines, Nat.lt_of_not_le fun hcolumns => ?_⟩
    rw [hlines] at hline
    obtain rfl := Option.some.inj (hline.symm.trans hline')
    have hbytes := byteLength_take_le (Nat.sub_le_sub_right hcolumns 1) line.text
    omega

theorem compare_location {s : Source} {i j : Nat} {a b : Location} (hi : s.location i = .ok a)
    (hj : s.location j = .ok b) : a.compare b = compare i j := by
  rcases Nat.lt_trichotomy i j with h | rfl | h
  · rw [location_lt hi hj h, Nat.compare_eq_lt.mpr h]
  · obtain rfl := Except.ok.inj (hi.symm.trans hj)
    rw [Location.compare_self, Nat.compare_eq_eq.mpr rfl]
  · rw [← Location.swap_compare, location_lt hj hi h, Nat.compare_eq_gt.mpr h]
    rfl

theorem location_inverse (s : Source) :
    (∀ i, s.check i = .ok () → ∃ place start text, s.location i = .ok place
        ∧ s.lineStart? place.line = some start ∧ s.lineText? place.line = some text
        ∧ 1 ≤ place.column ∧ place.column - 1 ≤ text.length
        ∧ start + byteLength (text.take (place.column - 1)) = i)
      ∧ (∀ i j a b, s.location i = .ok a → s.location j = .ok b → i < j → a.compare b = .lt)
      ∧ ∀ p q : Position, p.source = s → q.source = s → p.WellFormed → q.WellFormed →
        p.compare? q = some (compare p.index q.index)
          ∧ p.location.compare q.location = compare p.index q.index := by
  refine ⟨fun i hi => ?_, fun i j a b hi hj h => location_lt hi hj h, ?_⟩
  · have hplace := location_eq_ok_iff_isBoundary.mpr ⟨check_eq_ok_iff.mp hi, rfl⟩
    obtain ⟨line, hline, -, hcolumn, hlength, hindex⟩ := exists_line_of_location hplace
    refine ⟨_, line.start, line.text, hplace, ?_, ?_, hcolumn, hlength, hindex⟩
    · rw [lineStart?, hline, Option.map_some]
    · rw [lineText?, hline, Option.map_some]
  · rintro ⟨source, i⟩ ⟨source', j⟩ rfl hsource hi hj
    obtain rfl : source' = source := hsource
    have hplace := location_eq_ok_iff_isBoundary.mpr ⟨hi, rfl⟩
    have hplace' := location_eq_ok_iff_isBoundary.mpr ⟨hj, rfl⟩
    exact ⟨if_pos rfl, compare_location hplace hplace'⟩

end Source

end LoxReader
