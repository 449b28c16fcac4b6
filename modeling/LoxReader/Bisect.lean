namespace LoxReader

/-- The number of leading elements that satisfy `p`, found by halving: right for an array in
which no element that satisfies `p` follows one that does not. -/
def bisect {α : Type} (p : α → Bool) (xs : Array α) : Nat :=
  go 0 xs.size (Nat.le_refl _)
where
  go (low high : Nat) (within : high ≤ xs.size) : Nat :=
    if room : low < high then
      have : (low + high) / 2 < xs.size := by omega
      if p xs[(low + high) / 2] then go ((low + high) / 2 + 1) high within
      else go low ((low + high) / 2) (by omega)
    else low
  termination_by high - low

theorem bisect_go_eq {α : Type} {p : α → Bool} {xs : Array α} {k : Nat}
    (hsorted : ∀ i (h : i < xs.size), p xs[i] = decide (i < k)) (low high : Nat)
    (hwithin : high ≤ xs.size) (habove : low ≤ k) (hbelow : k ≤ high) :
    bisect.go p xs low high hwithin = k := by
  fun_induction bisect.go p xs low high hwithin with
  | case1 low high hwithin _ hinside hpasses ih =>
      rw [hsorted _ hinside, decide_eq_true_eq] at hpasses
      exact ih (by omega) hbelow
  | case2 low high hwithin _ hinside hfails ih =>
      rw [hsorted _ hinside, decide_eq_true_eq] at hfails
      exact ih habove (by omega)
  | case3 => omega

theorem bisect_eq {α : Type} {p : α → Bool} {xs : Array α} {k : Nat}
    (hsorted : ∀ i (h : i < xs.size), p xs[i] = decide (i < k)) (hsize : k ≤ xs.size) :
    bisect p xs = k :=
  bisect_go_eq hsorted 0 xs.size (Nat.le_refl _) (Nat.zero_le _) hsize

theorem getElem_eq_decide_lt_takeWhile {α : Type} {p : α → Bool} {l : List α}
    (hsorted : l.Pairwise fun a b => p b → p a) (i : Nat) (h : i < l.length) :
    p l[i] = decide (i < (l.takeWhile p).length) := by
  induction l generalizing i with
  | nil => simp at h
  | cons a l ih =>
      rw [List.pairwise_cons] at hsorted
      cases ha : p a with
      | true =>
          rw [List.takeWhile_cons_of_pos ha]
          cases i with
          | zero => simp [ha]
          | succ i => simpa using ih hsorted.2 i (by simpa using h)
      | false =>
          rw [List.takeWhile_cons_of_neg (by simp [ha])]
          cases i with
          | zero => simp [ha]
          | succ i =>
              have hinside : i < l.length := by simpa using h
              simpa [ha] using hsorted.1 l[i] (List.getElem_mem hinside)

theorem bisect_eq_length_takeWhile {α : Type} {p : α → Bool} {l : List α}
    (hsorted : l.Pairwise fun a b => p b → p a) :
    bisect p l.toArray = (l.takeWhile p).length :=
  bisect_eq (fun i h => getElem_eq_decide_lt_takeWhile hsorted i (by simpa using h))
    (by simpa using (List.takeWhile_sublist p).length_le)

end LoxReader
