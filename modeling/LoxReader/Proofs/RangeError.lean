import LoxReader.Proofs.LineScan
import LoxReader.Proofs.Session

/-!
When the operations on places and ranges of a source fail, and which error they give where several
checks fail.
-/

namespace LoxReader

open Text

namespace Source

/-- An offset past the text or inside a character is no place of a source. -/
def Excludes (s : Source) (index : Nat) : Prop := s.length < index ∨ InsideChar s.text index

section

variable {s t : Source} {start stop index : Nat} {e : RangeError} {α : Type}

theorem excludes_iff : s.Excludes index ↔ ¬ isBoundary s.text index := not_isBoundary_iff.symm

theorem not_excludes_iff : ¬ s.Excludes index ↔ isBoundary s.text index := by
  rw [excludes_iff, Decidable.not_not]

theorem not_excludes_length : ¬ s.Excludes s.length :=
  not_excludes_iff.mpr (isBoundary_byteLength s.text)

theorem check_bind_eq_error_iff {x : Except RangeError α} :
    (s.check index >>= fun _ => x) = .error e ↔
      s.Excludes index ∧ e = .outOfRange index s.length ∨ ¬ s.Excludes index ∧ x = .error e := by
  rw [not_excludes_iff, excludes_iff, check]
  by_cases h : isBoundary s.text index
  · simp [h, bind, Except.bind]
  · simp [h, bind, Except.bind, eq_comm]

theorem checkSame_bind_eq_error_iff {x : Except RangeError α} :
    (s.checkSame t >>= fun _ => x) = .error e ↔
      s.number ≠ t.number ∧ e = .invalidOperation .differentSources
        ∨ s.number = t.number ∧ x = .error e := by
  rw [checkSame]
  by_cases h : s.number = t.number
  · simp [h]
  · simp [h, throw, throwThe, MonadExceptOf.throw, bind, Except.bind, eq_comm]

/-- The start is looked at first, then the end, then their order. -/
theorem span_eq_error_iff :
    s.span start stop = .error e ↔
      s.Excludes start ∧ e = .outOfRange start s.length
        ∨ ¬ s.Excludes start ∧ (s.Excludes stop ∧ e = .outOfRange stop s.length
          ∨ ¬ s.Excludes stop ∧ stop < start ∧ e = .invalidOperation .startAfterEnd) := by
  rw [span, check_bind_eq_error_iff, check_bind_eq_error_iff]
  by_cases h : stop < start
  · simp [h, throw, throwThe, MonadExceptOf.throw, bind, Except.bind, eq_comm]
  · simp [h, pure, Except.pure]

theorem spanToEnd_eq_error_iff :
    s.spanToEnd start = .error e ↔ s.Excludes start ∧ e = .outOfRange start s.length := by
  rw [spanToEnd, span_eq_error_iff]
  constructor
  · rintro (hstart | ⟨hstart, ⟨hend, -⟩ | ⟨-, hpast, -⟩⟩)
    · exact hstart
    · exact absurd hend not_excludes_length
    · exact absurd (.inl hpast) hstart
  · exact .inl

theorem emptySpan_eq_error_iff :
    s.emptySpan index = .error e ↔ s.Excludes index ∧ e = .outOfRange index s.length := by
  rw [emptySpan, span_eq_error_iff]
  constructor
  · rintro (hindex | ⟨hindex, ⟨hexcluded, -⟩ | ⟨-, hpast, -⟩⟩)
    · exact hindex
    · exact absurd hexcluded hindex
    · exact absurd hpast (Nat.lt_irrefl index)
  · exact .inl

theorem span_eq_error_iff_of_places (hstart : isBoundary s.text start)
    (hstop : isBoundary s.text stop) :
    s.span start stop = .error e ↔ stop < start ∧ e = .invalidOperation .startAfterEnd := by
  rw [← not_excludes_iff] at hstart hstop
  simp [span_eq_error_iff, hstart, hstop]

theorem span_eq_error_iff_of_le (hstart : isBoundary s.text start) (h : start ≤ stop) :
    s.span start stop = .error e ↔ s.Excludes stop ∧ e = .outOfRange stop s.length := by
  rw [← not_excludes_iff] at hstart
  simp [span_eq_error_iff, hstart, Nat.not_lt.mpr h]

theorem exists_text_of_span (hstart : ¬ s.Excludes start) (hstop : ¬ s.Excludes stop)
    (h : start ≤ stop) :
    ∃ span before after, s.span start stop = .ok span
      ∧ s.text = before ++ span.text ++ after ∧ byteLength before = start
      ∧ byteLength (before ++ span.text) = stop := by
  have hmade : s.span start stop = .ok ⟨s, start, stop⟩ :=
    span_eq_ok_iff.mpr ⟨not_excludes_iff.mp hstart, not_excludes_iff.mp hstop, h, rfl⟩
  obtain ⟨before, after, hparts, hbefore, hafter⟩ :=
    Span.parts_of_wellFormed (wellFormed_span hmade)
  exact ⟨_, before, after, hmade, hparts, hbefore.symm, hafter.symm⟩

end

end Source

theorem Position.upTo_eq_error_iff {p q : Position} {e : RangeError} (hp : p.WellFormed)
    (hq : q.WellFormed) (hsame : p.source.number = q.source.number → p.source = q.source) :
    p.upTo q = .error e ↔
      p.source.number ≠ q.source.number ∧ e = .invalidOperation .differentSources
        ∨ p.source.number = q.source.number ∧ q.index < p.index
          ∧ e = .invalidOperation .startAfterEnd := by
  rw [upTo, Source.checkSame_bind_eq_error_iff]
  refine or_congr_right (and_congr_right fun hnumber => ?_)
  refine Source.span_eq_error_iff_of_places hp ?_
  rw [hsame hnumber]
  exact hq

namespace Span

variable {s t : Span} {e : RangeError}

theorem extendUpTo_eq_error_iff {stop : Nat} (h : s.WellFormed) :
    s.extendUpTo stop = .error e ↔
      stop < s.stop ∧ e = .invalidOperation .shrinking
        ∨ s.stop ≤ stop ∧ s.source.Excludes stop ∧ e = .outOfRange stop s.source.length := by
  have hordered := h.ordered
  unfold extendUpTo
  by_cases hstop : stop < s.stop
  · simp [hstop, Nat.not_le.mpr hstop, throw, throwThe, MonadExceptOf.throw, eq_comm]
  · have hle := Nat.le_of_not_lt hstop
    rw [if_neg hstop, Source.span_eq_error_iff_of_le h.start (Nat.le_trans hordered hle)]
    simp [hstop, hle]

theorem contains_eq_error_iff {p : Position} :
    s.contains p = .error e ↔
      s.source.number ≠ p.source.number ∧ e = .invalidOperation .differentSources := by
  simp [contains, Source.checkSame_bind_eq_error_iff, pure, Except.pure]

theorem cover_eq_error_iff :
    s.cover t = .error e ↔
      s.source.number ≠ t.source.number ∧ e = .invalidOperation .differentSources := by
  simp [cover, Source.checkSame_bind_eq_error_iff, pure, Except.pure]

end Span

namespace Session

/-- A value that has been made, of the `n`-th source. -/
structure Holds (s : Session) (n : Nat) (v : Value) : Prop where
  made : v ∈ s.values
  source : s.sources[n]? = some v.source

/-- When an operation on sources and values of a session fails, and with which error. -/
structure RangeErrors (s : Session) : Prop where
  held : ∀ v ∈ s.values, ∃ n, s.Holds n v
  span : ∀ source ∈ s.sources, ∀ start stop : UInt64, ∀ e,
    source.span start.toNat stop.toNat = .error e ↔
      source.Excludes start.toNat ∧ e = .outOfRange start.toNat source.length
        ∨ ¬ source.Excludes start.toNat
          ∧ (source.Excludes stop.toNat ∧ e = .outOfRange stop.toNat source.length
            ∨ ¬ source.Excludes stop.toNat ∧ stop.toNat < start.toNat
              ∧ e = .invalidOperation .startAfterEnd)
  text : ∀ source ∈ s.sources, ∀ start stop : UInt64, ¬ source.Excludes start.toNat →
    ¬ source.Excludes stop.toNat → start.toNat ≤ stop.toNat →
      ∃ span before after, source.span start.toNat stop.toNat = .ok span
        ∧ source.text = before ++ span.text ++ after ∧ byteLength before = start.toNat
        ∧ byteLength (before ++ span.text) = stop.toNat
  spanToEnd : ∀ source ∈ s.sources, ∀ start : UInt64, ∀ e,
    source.spanToEnd start.toNat = .error e ↔
      source.Excludes start.toNat ∧ e = .outOfRange start.toNat source.length
  emptySpan : ∀ source ∈ s.sources, ∀ index : UInt64, ∀ e,
    source.emptySpan index.toNat = .error e ↔
      source.Excludes index.toNat ∧ e = .outOfRange index.toNat source.length
  upTo : ∀ n m p q, s.Holds n (.position p) → s.Holds m (.position q) → ∀ e,
    p.upTo q = .error e ↔
      n ≠ m ∧ e = .invalidOperation .differentSources
        ∨ n = m ∧ q.index < p.index ∧ e = .invalidOperation .startAfterEnd
  extendUpTo : ∀ v, .span v ∈ s.values → ∀ stop : UInt64, ∀ e,
    v.extendUpTo stop.toNat = .error e ↔
      stop.toNat < v.stop ∧ e = .invalidOperation .shrinking
        ∨ v.stop ≤ stop.toNat ∧ v.source.Excludes stop.toNat
          ∧ e = .outOfRange stop.toNat v.source.length
  contains : ∀ n m v p, s.Holds n (.span v) → s.Holds m (.position p) → ∀ e,
    v.contains p = .error e ↔ n ≠ m ∧ e = .invalidOperation .differentSources
  cover : ∀ n m v w, s.Holds n (.span v) → s.Holds m (.span w) → ∀ e,
    v.cover w = .error e ↔ n ≠ m ∧ e = .invalidOperation .differentSources

theorem number_of_run {texts : List (Origin × Text)} {operations : List Operation} {n : Nat}
    {source : Source} (h : ((start texts).run operations).sources[n]? = some source) :
    source.number = n := by
  rw [sources_run] at h
  exact number_of_start h

section

variable {texts : List (Origin × Text)} {operations : List Operation} {n m : Nat} {v w : Value}

theorem Holds.number_eq_iff (hv : ((start texts).run operations).Holds n v)
    (hw : ((start texts).run operations).Holds m w) :
    v.source.number = w.source.number ↔ n = m := by
  rw [number_of_run hv.source, number_of_run hw.source]

theorem Holds.wellFormed (hv : ((start texts).run operations).Holds n v) : v.WellFormed :=
  ((sound_run (sound_start texts) operations).values v hv.made).1

end

theorem range_errors (texts : List (Origin × Text)) (operations : List Operation) :
    ((start texts).run operations).RangeErrors := by
  have hsound := sound_run (sound_start texts) operations
  exact {
    held := fun v hv => by
      obtain ⟨n, hn⟩ := List.mem_iff_getElem?.mp (hsound.values v hv).2
      exact ⟨n, hv, hn⟩
    span := fun source _ start stop e => Source.span_eq_error_iff
    text := fun source _ start stop => Source.exists_text_of_span
    spanToEnd := fun source _ start e => Source.spanToEnd_eq_error_iff
    emptySpan := fun source _ index e => Source.emptySpan_eq_error_iff
    upTo := fun n m p q hp hq e => by
      have hnumber : p.source.number = q.source.number ↔ n = m := hp.number_eq_iff hq
      have hsame := hsound.distinct _ (List.mem_of_getElem? hp.source)
        _ (List.mem_of_getElem? hq.source)
      rw [Position.upTo_eq_error_iff hp.wellFormed hq.wellFormed hsame, hnumber, Ne, hnumber]
    extendUpTo := fun v hv stop e => Span.extendUpTo_eq_error_iff (hsound.values _ hv).1
    contains := fun n m v p hv hp e => by
      have hnumber : v.source.number = p.source.number ↔ n = m := hv.number_eq_iff hp
      rw [Span.contains_eq_error_iff, Ne, hnumber]
    cover := fun n m v w hv hw e => by
      have hnumber : v.source.number = w.source.number ↔ n = m := hv.number_eq_iff hw
      rw [Span.cover_eq_error_iff, Ne, hnumber] }

theorem range_errors_of_equal_texts :
    let a : Source := { number := 0, origin := .synthesized [], text := "aé".toList }
    let b : Source := { number := 1, origin := .synthesized [], text := "aé".toList }
    let s := (start [(a.origin, a.text), (b.origin, b.text)]).run
      [.span 0 0 1, .wholeSpan 1, .position 0 1, .position 0 0]
    s.Holds 0 (.span ⟨a, 0, 1⟩) ∧ s.Holds 1 (.span ⟨b, 0, 3⟩) ∧ s.Holds 0 (.position ⟨a, 1⟩)
      ∧ s.Holds 0 (.position ⟨a, 0⟩)
      ∧ Span.cover ⟨a, 0, 1⟩ ⟨b, 0, 3⟩ = .error (.invalidOperation .differentSources)
      ∧ Span.contains ⟨b, 0, 3⟩ ⟨a, 1⟩ = .error (.invalidOperation .differentSources)
      ∧ Position.upTo ⟨a, 1⟩ ⟨a, 0⟩ = .error (.invalidOperation .startAfterEnd)
      ∧ Span.extendUpTo ⟨a, 0, 1⟩ 2 = .error (.outOfRange 2 a.length)
      ∧ Span.extendUpTo ⟨b, 0, 3⟩ 2 = .error (.invalidOperation .shrinking) := by
  intro a b s
  have herrors : s.RangeErrors := range_errors _ _
  have hspan : s.Holds 0 (.span ⟨a, 0, 1⟩) := ⟨List.mem_of_getElem? (i := 0) rfl, rfl⟩
  have hwhole : s.Holds 1 (.span ⟨b, 0, 3⟩) := ⟨List.mem_of_getElem? (i := 1) rfl, rfl⟩
  have hlast : s.Holds 0 (.position ⟨a, 1⟩) := ⟨List.mem_of_getElem? (i := 2) rfl, rfl⟩
  have hfirst : s.Holds 0 (.position ⟨a, 0⟩) := ⟨List.mem_of_getElem? (i := 3) rfl, rfl⟩
  have hinside : a.Excludes 2 := .inr ⟨['a'], 'é', [], rfl, by decide, by decide⟩
  refine ⟨hspan, hwhole, hlast, hfirst, ?_, ?_, ?_, ?_, ?_⟩
  · exact (herrors.cover 0 1 _ _ hspan hwhole _).mpr ⟨by decide, rfl⟩
  · exact (herrors.contains 1 0 _ _ hwhole hlast _).mpr ⟨by decide, rfl⟩
  · exact (herrors.upTo 0 0 _ _ hlast hfirst _).mpr (.inr ⟨rfl, Nat.zero_lt_one, rfl⟩)
  · exact (herrors.extendUpTo _ hspan.made 2 _).mpr (.inr ⟨by decide, hinside, rfl⟩)
  · exact (herrors.extendUpTo _ hwhole.made 2 _).mpr (.inl ⟨by decide, rfl⟩)

end Session

end LoxReader
