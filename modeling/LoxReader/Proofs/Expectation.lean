import LoxReader.Expectation
import LoxReader.Proofs.WellFormed

/-!
The verdict of a check of lists: it passes no list of another length and no pair of elements that
fails, and of the pairs that fail it reports the first.
-/

namespace LoxReader

theorem mapError_eq_ok_iff {ε ε' α : Type} {x : Except ε α} {f : ε → ε'} {a : α} :
    x.mapError f = .ok a ↔ x = .ok a := by
  cases x with
  | error e =>
    constructor
    · intro h
      cases h
    · intro h
      cases h
  | ok b =>
    constructor
    · rintro ⟨⟩
      rfl
    · rintro ⟨⟩
      rfl

theorem mapError_eq_error_iff {ε ε' α : Type} {x : Except ε α} {f : ε → ε'} {e' : ε'} :
    x.mapError f = .error e' ↔ ∃ e, e' = f e ∧ x = .error e := by
  cases x with
  | error e =>
    constructor
    · rintro ⟨⟩
      exact ⟨e, rfl, rfl⟩
    · rintro ⟨_, rfl, ⟨⟩⟩
      rfl
  | ok b =>
    constructor
    · intro h
      cases h
    · rintro ⟨_, -, h⟩
      cases h

namespace Expectation

variable {α β ε : Type}

/-- The elements at an index of two lists, if both have one there, pass a check. -/
def PassesAt (check : α → β → Except ε Unit) (as : List α) (bs : List β) (i : Nat) : Prop :=
  ∀ a b, as[i]? = some a → bs[i]? = some b → check a b = .ok ()

def FailsAt (check : α → β → Except ε Unit) (as : List α) (bs : List β) (i : Nat) (e : ε) : Prop :=
  ∃ a b, as[i]? = some a ∧ bs[i]? = some b ∧ check a b = .error e

section

variable {check : α → β → Except ε Unit} {a : α} {b : β} {as : List α} {bs : List β}

theorem passesAt_zero : PassesAt check (a :: as) (b :: bs) 0 ↔ check a b = .ok () := by
  simp [PassesAt]

theorem passesAt_succ {i : Nat} :
    PassesAt check (a :: as) (b :: bs) (i + 1) ↔ PassesAt check as bs i := by
  simp [PassesAt]

theorem failsAt_zero {e : ε} :
    FailsAt check (a :: as) (b :: bs) 0 e ↔ check a b = .error e := by
  simp [FailsAt]

theorem failsAt_succ {i : Nat} {e : ε} :
    FailsAt check (a :: as) (b :: bs) (i + 1) e ↔ FailsAt check as bs i e := by
  simp [FailsAt]

theorem exists_cons_of_pair {i : Nat} (ha : as[i]? = some a) (hb : bs[i]? = some b) :
    ∃ a' as' b' bs', as = a' :: as' ∧ bs = b' :: bs' := by
  obtain ⟨a', as', has⟩ :=
    List.exists_cons_of_ne_nil (List.ne_nil_of_mem (List.mem_of_getElem? ha))
  obtain ⟨b', bs', hbs⟩ :=
    List.exists_cons_of_ne_nil (List.ne_nil_of_mem (List.mem_of_getElem? hb))
  exact ⟨a', as', b', bs', has, hbs⟩

theorem checkPairs_eq_ok_iff : checkPairs check as bs = .ok () ↔ ∀ i, PassesAt check as bs i := by
  fun_induction checkPairs check as bs with
  | case1 a as b bs ih =>
    rw [bind_eq_ok_iff]
    constructor
    · rintro ⟨_, hfront, hrest⟩ i
      cases i with
      | zero => exact passesAt_zero.mpr hfront
      | succ i => exact passesAt_succ.mpr (ih.mp hrest i)
    · intro hall
      exact ⟨(), passesAt_zero.mp (hall 0), ih.mpr fun i => passesAt_succ.mp (hall (i + 1))⟩
  | case2 as bs hshort =>
    refine ⟨fun _ i a b ha hb => ?_, fun _ => rfl⟩
    obtain ⟨a', as', b', bs', has, hbs⟩ := exists_cons_of_pair ha hb
    exact absurd hbs (hshort a' as' b' bs' has)

theorem checkPairs_eq_error_iff {e : ε} :
    checkPairs check as bs = .error e ↔
      ∃ i, FailsAt check as bs i e ∧ ∀ j < i, PassesAt check as bs j := by
  fun_induction checkPairs check as bs with
  | case1 a as b bs ih =>
    rw [bind_eq_error_iff]
    constructor
    · rintro (hfront | ⟨_, hfront, hrest⟩)
      · exact ⟨0, failsAt_zero.mpr hfront, fun j hj => absurd hj (Nat.not_lt_zero j)⟩
      · obtain ⟨i, hfails, hpasses⟩ := ih.mp hrest
        refine ⟨i + 1, failsAt_succ.mpr hfails, fun j hj => ?_⟩
        cases j with
        | zero => exact passesAt_zero.mpr hfront
        | succ j => exact passesAt_succ.mpr (hpasses j (Nat.lt_of_succ_lt_succ hj))
    · rintro ⟨i, hfails, hpasses⟩
      cases i with
      | zero => exact .inl (failsAt_zero.mp hfails)
      | succ i =>
        have hfront := passesAt_zero.mp (hpasses 0 (Nat.succ_pos i))
        have hrest : ∀ j < i, PassesAt check as bs j := fun j hj =>
          passesAt_succ.mp (hpasses (j + 1) (Nat.succ_lt_succ hj))
        exact .inr ⟨(), hfront, ih.mpr ⟨i, failsAt_succ.mp hfails, hrest⟩⟩
  | case2 as bs hshort =>
    constructor
    · intro h
      cases h
    · rintro ⟨i, ⟨a, b, ha, hb, -⟩, -⟩
      obtain ⟨a', as', b', bs', has, hbs⟩ := exists_cons_of_pair ha hb
      exact absurd hbs (hshort a' as' b' bs' has)

theorem checkLists_of_length (h : as.length = bs.length) :
    checkLists check (some as) (some bs) = (checkPairs check as bs).mapError .element :=
  if_pos h

theorem checkLists_of_length_ne (h : as.length ≠ bs.length) :
    checkLists check (some as) (some bs) = .error (.length as.length bs.length) :=
  if_neg h

theorem checkLists_some_eq_ok_iff :
    checkLists check (some as) (some bs) = .ok () ↔
      as.length = bs.length ∧ ∀ i, PassesAt check as bs i := by
  by_cases h : as.length = bs.length
  · rw [checkLists_of_length h, mapError_eq_ok_iff, checkPairs_eq_ok_iff]
    exact (and_iff_right h).symm
  · simp [checkLists_of_length_ne h, h]

theorem checkLists_some_eq_error_iff (h : as.length = bs.length) {m : Mismatch ε} :
    checkLists check (some as) (some bs) = .error m ↔
      ∃ e, m = .element e ∧ ∃ i, FailsAt check as bs i e ∧ ∀ j < i, PassesAt check as bs j := by
  simp only [checkLists_of_length h, mapError_eq_error_iff, checkPairs_eq_error_iff]

theorem checkLists_eq_ok_iff {expected : Option (List α)} {found : Option (List β)} :
    checkLists check expected found = .ok () ↔
      expected = none ∧ found = none
        ∨ ∃ as bs, expected = some as ∧ found = some bs ∧ as.length = bs.length
          ∧ ∀ i, PassesAt check as bs i := by
  cases expected with
  | none =>
    cases found <;> simp [checkLists, pure, Except.pure, throw, throwThe, MonadExceptOf.throw]
  | some as =>
    cases found with
    | none => simp [checkLists, throw, throwThe, MonadExceptOf.throw]
    | some bs => simp [checkLists_some_eq_ok_iff]

end

theorem eq_iff_passesAt {same : α → α → Except ε Unit} (h : ∀ a b, same a b = .ok () ↔ a = b)
    {as bs : List α} : as = bs ↔ as.length = bs.length ∧ ∀ i, PassesAt same as bs i := by
  constructor
  · rintro rfl
    refine ⟨rfl, fun i a b ha hb => (h a b).mpr ?_⟩
    exact Option.some.inj (ha.symm.trans hb)
  · rintro ⟨hlength, hall⟩
    refine List.ext_getElem hlength fun i hi hi' => (h _ _).mp ?_
    exact hall i _ _ (List.getElem?_eq_getElem hi) (List.getElem?_eq_getElem hi')

theorem checkLists_eq_ok_iff_eq {same : α → α → Except ε Unit}
    (h : ∀ a b, same a b = .ok () ↔ a = b) {expected found : Option (List α)} :
    checkLists same expected found = .ok () ↔ expected = found := by
  cases expected with
  | none => cases found <;> simp [checkLists_eq_ok_iff]
  | some as =>
    cases found with
    | none => simp [checkLists_eq_ok_iff]
    | some bs => rw [checkLists_some_eq_ok_iff, ← eq_iff_passesAt h, Option.some.injEq]

/-- Lists pass when both are absent, or both are there, as long as each other and with pairs that
all pass. Else a difference in length is reported in front of all pairs, and of the pairs the first
that fails. With equality as the check no other lists pass than equal ones. -/
theorem checkLists_verdict (check : α → β → Except ε Unit) :
    (∀ expected found, checkLists check expected found = .ok () ↔
        expected = none ∧ found = none
          ∨ ∃ as bs, expected = some as ∧ found = some bs ∧ as.length = bs.length
            ∧ ∀ i, PassesAt check as bs i)
      ∧ (∀ as bs, as.length ≠ bs.length →
        checkLists check (some as) (some bs) = .error (.length as.length bs.length))
      ∧ (∀ as bs, as.length = bs.length → ∀ m, checkLists check (some as) (some bs) = .error m ↔
        ∃ e, m = .element e ∧ ∃ i, FailsAt check as bs i e ∧ ∀ j < i, PassesAt check as bs j)
      ∧ ∀ same : α → α → Except ε Unit, (∀ a b, same a b = .ok () ↔ a = b) →
        ∀ expected found, checkLists same expected found = .ok () ↔ expected = found := by
  refine ⟨fun expected found => checkLists_eq_ok_iff, fun as bs => checkLists_of_length_ne,
    fun as bs h m => checkLists_some_eq_error_iff h, fun same h expected found => ?_⟩
  exact checkLists_eq_ok_iff_eq h

theorem checkLists_verdict_of_two_failures :
    let same : Nat → Nat → Except (Nat × Nat) Unit := fun a b =>
      if a = b then .ok () else .error (a, b)
    (∀ a b, same a b = .ok () ↔ a = b)
      ∧ checkLists same (some [1, 2, 3]) (some [1, 5, 7]) = .error (.element (2, 5))
      ∧ checkLists same (some [4, 2]) (some [1]) = .error (.length 2 1)
      ∧ checkLists same (some [1, 2]) (some [1, 2]) = .ok ()
      ∧ checkLists same none (some []) ≠ .ok () := by
  intro same
  have hsame : ∀ a b, same a b = .ok () ↔ a = b := by
    intro a b
    by_cases h : a = b <;> simp [same, h]
  obtain ⟨-, hlength, hfirst, hequal⟩ := checkLists_verdict same
  have hfails : FailsAt same [1, 2, 3] [1, 5, 7] 1 (2, 5) := ⟨2, 5, rfl, rfl, rfl⟩
  have hpasses : ∀ j < 1, PassesAt same [1, 2, 3] [1, 5, 7] j := by
    intro j hj
    obtain rfl := Nat.lt_one_iff.mp hj
    exact passesAt_zero.mpr rfl
  refine ⟨hsame, ?_, hlength _ _ (by decide), (hequal same hsame _ _).mpr rfl, ?_⟩
  · exact (hfirst [1, 2, 3] [1, 5, 7] rfl _).mpr ⟨(2, 5), rfl, 1, hfails, hpasses⟩
  · intro h
    cases (hequal same hsame _ _).mp h

end Expectation

end LoxReader
