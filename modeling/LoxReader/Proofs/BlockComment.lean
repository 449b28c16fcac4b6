import LoxReader.Token.Trivia

/-!
Block comments nest. Read from left to right in marks, a comment is the shortest part of a text in
which as many marks close as open.
-/

namespace LoxReader

inductive Mark where
  | opening
  | closing
  | plain (c : Char)
  deriving DecidableEq, Repr

namespace Mark

def weight : Mark → Int
  | opening => 1
  | closing => -1
  | plain _ => 0

def depth (ms : List Mark) : Int := ms.foldr (fun m d => m.weight + d) 0

@[simp]
theorem depth_nil : depth [] = 0 := rfl

@[simp]
theorem depth_cons (m : Mark) (ms : List Mark) : depth (m :: ms) = m.weight + depth ms := rfl

@[simp]
theorem depth_append (ms ns : List Mark) : depth (ms ++ ns) = depth ms + depth ns := by
  induction ms with
  | nil => simp
  | cons m ms ih => simp [ih, Int.add_assoc]

/-- Inside `d` comments the marks close the last of them, and not before their end. -/
def Closes (d : Int) (ms : List Mark) : Prop :=
  d + depth ms = 0 ∧ ∀ p, p <+: ms → p ≠ ms → 0 < d + depth p

/-- Inside `d` comments the marks never close the last of them. -/
def Stays (d : Int) (ms : List Mark) : Prop :=
  ∀ p, p <+: ms → 0 < d + depth p

theorem closes_nil {d : Int} : Closes d [] ↔ d = 0 := by
  constructor
  · rintro ⟨h, -⟩
    simpa using h
  · rintro rfl
    refine ⟨rfl, fun p hp hne => ?_⟩
    exact absurd (List.prefix_nil.mp hp) hne

theorem closes_cons {d : Int} {m : Mark} {ms : List Mark} :
    Closes d (m :: ms) ↔ 0 < d ∧ Closes (d + m.weight) ms := by
  constructor
  · rintro ⟨hsum, hpos⟩
    have hd : 0 < d := by simpa using hpos [] List.nil_prefix (by simp)
    refine ⟨hd, ?_, fun p hp hne => ?_⟩
    · rw [← hsum, depth_cons, Int.add_assoc]
    · have h := hpos (m :: p) ((List.prefix_cons_inj m).mpr hp) (by simpa using hne)
      rwa [depth_cons, ← Int.add_assoc] at h
  · rintro ⟨hd, hsum, hpos⟩
    refine ⟨by rw [depth_cons, ← Int.add_assoc, hsum], fun p hp hne => ?_⟩
    cases p with
    | nil => simpa using hd
    | cons n p =>
      obtain ⟨rfl, hq⟩ := List.cons_prefix_cons.mp hp
      rw [depth_cons, ← Int.add_assoc]
      exact hpos p hq (by simpa using hne)

theorem stays_nil {d : Int} : Stays d [] ↔ 0 < d := by
  constructor
  · intro h
    simpa using h [] List.nil_prefix
  · intro hd p hp
    simpa [List.prefix_nil.mp hp] using hd

theorem stays_cons {d : Int} {m : Mark} {ms : List Mark} :
    Stays d (m :: ms) ↔ 0 < d ∧ Stays (d + m.weight) ms := by
  constructor
  · intro h
    refine ⟨by simpa using h [] List.nil_prefix, fun p hp => ?_⟩
    have hm := h (m :: p) ((List.prefix_cons_inj m).mpr hp)
    rwa [depth_cons, ← Int.add_assoc] at hm
  · rintro ⟨hd, h⟩ p hp
    cases p with
    | nil => simpa using hd
    | cons n p =>
      obtain ⟨rfl, hq⟩ := List.cons_prefix_cons.mp hp
      rw [depth_cons, ← Int.add_assoc]
      exact h p hq

end Mark

open Mark

namespace Text

/-- The marks of a text, each read as soon as it can be: nothing closes in `/*/`. -/
def marks : Text → List Mark
  | '/' :: '*' :: t => opening :: marks t
  | '*' :: '/' :: t => closing :: marks t
  | c :: t => plain c :: marks t
  | [] => []

theorem marks_plain {c : Char} {t : Text} (hopen : c = '/' → t.head? ≠ some '*')
    (hclose : c = '*' → t.head? ≠ some '/') : marks (c :: t) = plain c :: marks t := by
  rw [marks]
  · rintro u rfl rfl
    exact hopen rfl rfl
  · rintro u rfl rfl
    exact hclose rfl rfl

theorem marks_eq_nil_iff {t : Text} : marks t = [] ↔ t = [] := by
  constructor
  · intro h
    unfold marks at h
    split at h <;> simp_all
  · rintro rfl
    rfl

end Text

open Text

/-- A comment from the mark that opens it to the one that closes it. -/
structure BlockComment (c : Text) : Prop where
  opens : ['/', '*'] <+: c
  balanced : depth c.marks = 0
  shortest : ∀ p, p <+: c.marks → p ≠ [] → p ≠ c.marks → 0 < depth p

/-- The front of a comment of which no part is balanced. -/
structure OpenComment (c : Text) : Prop where
  opens : ['/', '*'] <+: c
  unbalanced : ∀ p, p <+: c.marks → p ≠ [] → 0 < depth p

theorem blockComment_iff {c : Text} :
    BlockComment c ↔ ∃ body, c = '/' :: '*' :: body ∧ Closes 1 (marks body) := by
  constructor
  · rintro ⟨⟨body, rfl⟩, hsum, hpos⟩
    refine ⟨body, rfl, hsum, fun p hp hne => ?_⟩
    have hq : opening :: p <+: opening :: marks body := (List.prefix_cons_inj _).mpr hp
    exact hpos (opening :: p) hq (by simp) (by simpa [marks] using hne)
  · rintro ⟨body, rfl, hsum, hpos⟩
    refine ⟨⟨body, rfl⟩, hsum, fun p hp hne hall => ?_⟩
    cases p with
    | nil => exact absurd rfl hne
    | cons m p =>
      obtain ⟨rfl, hq⟩ := List.cons_prefix_cons.mp hp
      exact hpos p hq (by simpa [marks] using hall)

theorem openComment_iff {c : Text} :
    OpenComment c ↔ ∃ body, c = '/' :: '*' :: body ∧ Stays 1 (marks body) := by
  constructor
  · rintro ⟨⟨body, rfl⟩, hpos⟩
    refine ⟨body, rfl, fun p hp => ?_⟩
    have hq : opening :: p <+: opening :: marks body := (List.prefix_cons_inj _).mpr hp
    exact hpos (opening :: p) hq (by simp)
  · rintro ⟨body, rfl, hpos⟩
    refine ⟨⟨body, rfl⟩, fun p hp hne => ?_⟩
    cases p with
    | nil => exact absurd rfl hne
    | cons m p =>
      obtain ⟨rfl, hq⟩ := List.cons_prefix_cons.mp hp
      exact hpos p hq

namespace Trivia

theorem body_ne_nil_of_closes {d : Nat} {body : Text} (h : Closes (d + 1 : Nat) (marks body)) :
    body ≠ [] := by
  rintro rfl
  have hd := closes_nil.mp h
  omega

theorem pair_of_closes {d : Nat} {a b : Char} {t body rest : Text}
    (ht : a :: b :: t = body ++ rest) (h : Closes (d + 1 : Nat) (marks body)) :
    ∃ tail, body = a :: b :: tail ∧ t = tail ++ rest := by
  match body with
  | [] => exact absurd rfl (body_ne_nil_of_closes h)
  | [c] =>
    rw [marks_plain (by simp) (by simp), closes_cons] at h
    have hd := closes_nil.mp h.2
    simp only [weight] at hd
    omega
  | c :: e :: tail =>
    simp only [List.cons_append, List.cons.injEq] at ht
    obtain ⟨rfl, rfl, rfl⟩ := ht
    exact ⟨tail, rfl, rfl⟩

theorem map_front_eq_some_iff (f : Text → Text) {o : Option (Text × Text)} {body rest : Text} :
    o.map (fun (b, r) => (f b, r)) = some (body, rest) ↔ ∃ b, body = f b ∧ o = some (b, rest) := by
  constructor
  · intro h
    obtain ⟨⟨b, r⟩, hb, he⟩ := Option.map_eq_some_iff.mp h
    simp only [Prod.mk.injEq] at he
    obtain ⟨rfl, rfl⟩ := he
    exact ⟨b, rfl, hb⟩
  · rintro ⟨b, rfl, rfl⟩
    rfl

theorem closeComments_eq_some_iff {d : Nat} {t body rest : Text} :
    closeComments d t = some (body, rest) ↔ t = body ++ rest ∧ Closes d (marks body) := by
  fun_induction closeComments d t generalizing body with
  | case1 t =>
    cases body with
    | nil => simp [marks, closes_nil, eq_comm]
    | cons c body =>
      have hne : marks (c :: body) ≠ [] := fun h => by simpa using marks_eq_nil_iff.mp h
      obtain ⟨m, ms, hms⟩ := List.exists_cons_of_ne_nil hne
      simp [hms, closes_cons]
  | case2 d =>
    simp only [reduceCtorEq, false_iff, not_and]
    intro h hc
    exact body_ne_nil_of_closes hc (List.append_eq_nil_iff.mp h.symm).1
  | case3 d t ih =>
    refine (map_front_eq_some_iff ('/' :: '*' :: ·)).trans ?_
    constructor
    · rintro ⟨b, rfl, hb⟩
      obtain ⟨rfl, hc⟩ := ih.mp hb
      refine ⟨rfl, closes_cons.mpr ⟨by omega, ?_⟩⟩
      simpa [weight, Int.add_assoc] using hc
    · rintro ⟨ht, hc⟩
      obtain ⟨b, rfl, rfl⟩ := pair_of_closes ht hc
      have hb := (closes_cons.mp hc).2
      exact ⟨b, rfl, ih.mpr ⟨rfl, by simpa [weight, Int.add_assoc] using hb⟩⟩
  | case4 d t ih =>
    refine (map_front_eq_some_iff ('*' :: '/' :: ·)).trans ?_
    constructor
    · rintro ⟨b, rfl, hb⟩
      obtain ⟨rfl, hc⟩ := ih.mp hb
      refine ⟨rfl, closes_cons.mpr ⟨by omega, ?_⟩⟩
      simpa [weight, Int.add_neg_cancel_right] using hc
    · rintro ⟨ht, hc⟩
      obtain ⟨b, rfl, rfl⟩ := pair_of_closes ht hc
      have hb := (closes_cons.mp hc).2
      exact ⟨b, rfl, ih.mpr ⟨rfl, by simpa [weight, Int.add_neg_cancel_right] using hb⟩⟩
  | case5 d c t hopen hclose ih =>
    -- the next character decides what `c` is read as, so it has to lie in the comment too
    have hplain : ∀ {u r : Text}, t = u ++ r → u ≠ [] → marks (c :: u) = plain c :: marks u := by
      intro u r hu hne
      obtain ⟨e, v, rfl⟩ := List.exists_cons_of_ne_nil hne
      refine marks_plain (fun hc he => ?_) (fun hc he => ?_)
      · exact hopen (v ++ r) hc (by simpa [hu] using he)
      · exact hclose (v ++ r) hc (by simpa [hu] using he)
    refine (map_front_eq_some_iff (c :: ·)).trans ?_
    constructor
    · rintro ⟨b, rfl, hb⟩
      obtain ⟨ht, hc⟩ := ih.mp hb
      refine ⟨by simp [ht], ?_⟩
      rw [hplain ht (body_ne_nil_of_closes hc)]
      exact closes_cons.mpr ⟨by omega, by simpa [weight] using hc⟩
    · rintro ⟨ht, hc⟩
      obtain ⟨e, b, rfl⟩ := List.exists_cons_of_ne_nil (body_ne_nil_of_closes hc)
      simp only [List.cons_append, List.cons.injEq] at ht
      obtain ⟨rfl, ht⟩ := ht
      have hm : marks (c :: b) = plain c :: marks b := by
        cases b with
        | nil => exact marks_plain (by simp) (by simp)
        | cons f b => exact hplain ht (by simp)
      rw [hm] at hc
      exact ⟨b, rfl, ih.mpr ⟨ht, by simpa [weight] using (closes_cons.mp hc).2⟩⟩

theorem closeComments_eq_none_iff {d : Nat} {t : Text} :
    closeComments d t = none ↔ Stays d (marks t) := by
  fun_induction closeComments d t with
  | case1 t =>
    simp only [reduceCtorEq, false_iff]
    intro h
    simpa using h [] List.nil_prefix
  | case2 d =>
    simp only [marks, stays_nil, true_iff]
    omega
  | case3 d t ih =>
    rw [Option.map_eq_none_iff, ih, marks, stays_cons]
    simp only [weight]
    refine ⟨fun h => ⟨by omega, by simpa [Int.add_assoc] using h⟩, fun h => ?_⟩
    simpa [Int.add_assoc] using h.2
  | case4 d t ih =>
    rw [Option.map_eq_none_iff, ih, marks, stays_cons]
    simp only [weight]
    refine ⟨fun h => ⟨by omega, by simpa [Int.add_neg_cancel_right] using h⟩, fun h => ?_⟩
    simpa [Int.add_neg_cancel_right] using h.2
  | case5 d c t hopen hclose ih =>
    rw [Option.map_eq_none_iff, ih, marks, stays_cons]
    · simp only [weight]
      refine ⟨fun h => ⟨by omega, by simpa using h⟩, fun h => ?_⟩
      simpa using h.2
    · exact hopen
    · exact hclose

end Trivia

end LoxReader
