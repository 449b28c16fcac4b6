import LoxReader.Proofs.LineScan
import LoxReader.Proofs.WellFormed
import Mathlib.Order.Bounds.Basic

/-!
The well-formed spans of a source are ordered by inclusion, and the cover of two of them is their
least upper bound. Where one ends in front of the other, the cover runs from the first to the
second.
-/

namespace LoxReader

open Text

@[ext]
structure Source.Part (s : Source) where
  start : Nat
  stop : Nat
  wellFormed : Span.WellFormed ⟨s, start, stop⟩

namespace Source.Part

variable {s : Source}

def span (a : s.Part) : Span := ⟨s, a.start, a.stop⟩

/-- A part lies in one that starts no later and ends no earlier. -/
instance : PartialOrder s.Part where
  le a b := b.start ≤ a.start ∧ a.stop ≤ b.stop
  le_refl a := ⟨Nat.le_refl _, Nat.le_refl _⟩
  le_trans _ _ _ hab hbc := ⟨Nat.le_trans hbc.1 hab.1, Nat.le_trans hab.2 hbc.2⟩
  le_antisymm _ _ hab hba :=
    Part.ext (Nat.le_antisymm hba.1 hab.1) (Nat.le_antisymm hab.2 hba.2)

theorem cover_span (a b : s.Part) :
    a.span.cover b.span = .ok ⟨s, min a.start b.start, max a.stop b.stop⟩ :=
  Span.cover_eq_ok_iff.mpr ⟨rfl, rfl⟩

instance : SemilatticeSup s.Part where
  sup a b := ⟨min a.start b.start, max a.stop b.stop,
    Span.wellFormed_cover a.wellFormed b.wellFormed (fun _ => rfl) (cover_span a b)⟩
  le_sup_left _ _ := ⟨Nat.min_le_left .., Nat.le_max_left ..⟩
  le_sup_right _ _ := ⟨Nat.min_le_right .., Nat.le_max_right ..⟩
  sup_le _ _ _ hac hbc := ⟨Nat.le_min.mpr ⟨hac.1, hbc.1⟩, Nat.max_le.mpr ⟨hac.2, hbc.2⟩⟩

theorem cover_eq_sup (a b : s.Part) : a.span.cover b.span = .ok (a ⊔ b).span := cover_span a b

theorem cover_bind (a b c : s.Part) :
    (a.span.cover b.span >>= (·.cover c.span)) = .ok (a ⊔ b ⊔ c).span := by
  rw [bind_eq_ok_iff]
  exact ⟨(a ⊔ b).span, cover_eq_sup a b, cover_eq_sup (a ⊔ b) c⟩

theorem bind_cover (a b c : s.Part) :
    (b.span.cover c.span >>= a.span.cover) = .ok (a ⊔ (b ⊔ c)).span := by
  rw [bind_eq_ok_iff]
  exact ⟨(b ⊔ c).span, cover_eq_sup b c, cover_eq_sup a (b ⊔ c)⟩

theorem span_eq_ok (a : s.Part) : s.span a.start a.stop = .ok a.span :=
  span_eq_ok_iff.mpr ⟨a.wellFormed.start, a.wellFormed.stop, a.wellFormed.ordered, rfl⟩

end Source.Part

namespace Span

theorem contains_eq_ok_true_iff {s : Span} {p : Position} :
    s.contains p = .ok true ↔
      s.source.number = p.source.number ∧ s.start ≤ p.index ∧ p.index < s.stop := by
  rw [← Source.checkSame_eq_ok_iff, contains, bind_eq_ok_iff]
  constructor
  · rintro ⟨_, hsame, hinside⟩
    have hbounds := Except.ok.inj hinside
    rw [Bool.and_eq_true, decide_eq_true_eq, decide_eq_true_eq] at hbounds
    exact ⟨hsame, hbounds⟩
  · rintro ⟨hsame, hbounds⟩
    refine ⟨(), hsame, congrArg Except.ok ?_⟩
    rw [Bool.and_eq_true, decide_eq_true_eq, decide_eq_true_eq]
    exact hbounds

theorem text_of_adjacent {s : Source} {i j k : Nat} (hfront : WellFormed ⟨s, i, j⟩)
    (hback : WellFormed ⟨s, j, k⟩) : text ⟨s, i, k⟩ = text ⟨s, i, j⟩ ++ text ⟨s, j, k⟩ := by
  obtain ⟨before, after, hparts, hi, hj⟩ := parts_of_wellFormed hfront
  obtain ⟨before', after', hparts', hj', hk⟩ := parts_of_wellFormed hback
  dsimp only at hparts hparts' hi hj hj' hk
  generalize text ⟨s, i, j⟩ = x at *
  generalize text ⟨s, j, k⟩ = y at *
  have hsame : before ++ x ++ after = before' ++ (y ++ after') := by
    rw [← hparts, hparts', List.append_assoc]
  obtain ⟨rfl, -⟩ := append_inj_of_byteLength hsame (hj.symm.trans hj')
  have hwhole : s.text = before ++ (x ++ y) ++ after' := by
    rw [hparts']
    simp only [List.append_assoc]
  have htext := Source.text_of_parts hwhole
  rwa [← List.append_assoc, ← hi, ← hk] at htext

end Span

namespace Source.Part

variable {s : Source}

theorem contains_of_le {a b : s.Part} (h : a ≤ b) {p : Position}
    (hp : a.span.contains p = .ok true) : b.span.contains p = .ok true := by
  obtain ⟨hsame, hstart, hstop⟩ := Span.contains_eq_ok_true_iff.mp hp
  exact Span.contains_eq_ok_true_iff.mpr
    ⟨hsame, Nat.le_trans h.1 hstart, Nat.lt_of_lt_of_le hstop h.2⟩

theorem sup_of_apart {a b : s.Part} (h : a.stop ≤ b.start) :
    (a ⊔ b).start = a.start ∧ (a ⊔ b).stop = b.stop := by
  have ha := a.wellFormed.ordered
  have hb := b.wellFormed.ordered
  dsimp only at ha hb
  exact ⟨Nat.min_eq_left (by omega), Nat.max_eq_right (by omega)⟩

/-- What stands between two parts. -/
def between (a b : s.Part) (h : a.stop ≤ b.start) : s.Part :=
  ⟨a.stop, b.start, a.wellFormed.stop, b.wellFormed.start, h⟩

theorem text_sup_of_apart {a b : s.Part} (h : a.stop ≤ b.start) :
    (a ⊔ b).span.text = a.span.text ++ (a.between b h).span.text ++ b.span.text := by
  obtain ⟨hstart, hstop⟩ := sup_of_apart h
  have hfront : Span.WellFormed ⟨s, a.start, b.start⟩ :=
    ⟨a.wellFormed.start, b.wellFormed.start, Nat.le_trans a.wellFormed.ordered h⟩
  have hinner : Span.text ⟨s, a.start, b.start⟩ = a.span.text ++ (a.between b h).span.text :=
    Span.text_of_adjacent a.wellFormed (a.between b h).wellFormed
  have houter : Span.text ⟨s, a.start, b.stop⟩ = Span.text ⟨s, a.start, b.start⟩ ++ b.span.text :=
    Span.text_of_adjacent hfront b.wellFormed
  rw [span, hstart, hstop, houter, hinner]

theorem cover_isLUB (a b c : s.Part) :
    (∃ m : s.Part, a.span.cover b.span = .ok m.span ∧ IsLUB {a, b} m
        ∧ ∀ p, a.span.contains p = .ok true ∨ b.span.contains p = .ok true →
          m.span.contains p = .ok true)
      ∧ a.span.cover b.span = b.span.cover a.span
      ∧ (∃ m : s.Part, (a.span.cover b.span >>= (·.cover c.span)) = .ok m.span
        ∧ (b.span.cover c.span >>= a.span.cover) = .ok m.span)
      ∧ a.span.cover a.span = .ok a.span
      ∧ a.span.startPosition.upTo a.span.stopPosition = .ok a.span
      ∧ (a.stop ≤ b.start → ∃ m gap : s.Part, a.span.cover b.span = .ok m.span
        ∧ a.span.startPosition.upTo b.span.stopPosition = .ok m.span
        ∧ a.span.extendUpTo b.stop = .ok m.span
        ∧ s.span a.stop b.start = .ok gap.span
        ∧ m.span.text = a.span.text ++ gap.span.text ++ b.span.text) := by
  refine ⟨⟨a ⊔ b, cover_eq_sup a b, isLUB_pair, fun p hp => ?_⟩, ?_,
    ⟨a ⊔ b ⊔ c, cover_bind a b c, ?_⟩, ?_, ?_, fun h => ?_⟩
  · rcases hp with hp | hp
    · exact contains_of_le le_sup_left hp
    · exact contains_of_le le_sup_right hp
  · rw [cover_eq_sup, cover_eq_sup, sup_comm]
  · rw [bind_cover, sup_assoc]
  · rw [cover_eq_sup, sup_idem]
  · exact Position.upTo_eq_ok_iff.mpr ⟨rfl, span_eq_ok a⟩
  · obtain ⟨hstart, hstop⟩ := sup_of_apart h
    have hmade := span_eq_ok (a ⊔ b)
    rw [hstart, hstop] at hmade
    refine ⟨a ⊔ b, a.between b h, cover_eq_sup a b, ?_, ?_, span_eq_ok (a.between b h),
      text_sup_of_apart h⟩
    · exact Position.upTo_eq_ok_iff.mpr ⟨rfl, hmade⟩
    · exact Span.extendUpTo_eq_ok_iff.mpr ⟨Nat.le_trans h b.wellFormed.ordered, hmade⟩

end Source.Part

end LoxReader
