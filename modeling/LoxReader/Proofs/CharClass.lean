import LoxReader.Token.Lexeme

/-!
What a token begins with decides its form: no character is of two of the classes that the forms
begin with, and none of them is whitespace.
-/

namespace LoxReader

open Text Unicode Lexeme

namespace Unicode

theorem isAlphabetic_of_isWhiteSpace {c : Char} (h : isWhiteSpace c) : isAlphabetic c = false := by
  have hall : ∀ n ∈ List.range' 0x09 5 ++ List.range' 0x2000 11
      ++ [0x20, 0x85, 0xA0, 0x1680, 0x2028, 0x2029, 0x202F, 0x205F, 0x3000],
      isAlphabetic (Char.ofNat n) = false := by decide +kernel
  have hmem := hall c.toNat
  rw [Char.ofNat_toNat] at hmem
  apply hmem
  simp only [isWhiteSpace, Bool.or_eq_true, Bool.and_eq_true, decide_eq_true_eq, beq_iff_eq] at h
  simp only [List.mem_append, List.mem_range'_1, List.mem_cons, List.not_mem_nil, or_false]
  omega

theorem toNat_of_isDigit {c : Char} (h : c.isDigit) : 48 ≤ c.toNat ∧ c.toNat ≤ 57 := by
  simp only [Char.isDigit, Bool.and_eq_true, decide_eq_true_eq] at h
  exact h

theorem isAlphabetic_of_isDigit {c : Char} (h : c.isDigit) : isAlphabetic c = false := by
  have hc := toNat_of_isDigit h
  have hall : ∀ n ∈ List.range' 48 10, isAlphabetic (Char.ofNat n) = false := by decide
  have hmem := hall c.toNat (by simp only [List.mem_range'_1]; omega)
  rwa [Char.ofNat_toNat] at hmem

theorem isWhiteSpace_of_isDigit {c : Char} (h : c.isDigit) : isWhiteSpace c = false := by
  have hc := toNat_of_isDigit h
  simp only [isWhiteSpace, Bool.or_eq_false_iff, Bool.and_eq_false_iff, decide_eq_false_iff_not,
    beq_eq_false_iff_ne]
  omega

end Unicode

namespace Lexeme

theorem isOperatorChar_iff {c : Char} :
    isOperatorChar c ↔ c ∈ ['<', '>', '!', '=', '+', '-', '*', '/', '%'] := by
  simp [isOperatorChar]

theorem class_of_isOperatorChar {c : Char} (h : isOperatorChar c) :
    isAlphabetic c = false ∧ c.isDigit = false ∧ c ≠ '"' ∧ isWhiteSpace c = false := by
  simp only [isOperatorChar_iff, List.mem_cons, List.not_mem_nil, or_false] at h
  rcases h with rfl | rfl | rfl | rfl | rfl | rfl | rfl | rfl | rfl <;> decide

theorem isDigit_of_isWhiteSpace {c : Char} (h : isWhiteSpace c) : c.isDigit = false := by
  cases hc : c.isDigit with
  | false => rfl
  | true => simp [isWhiteSpace_of_isDigit hc] at h

theorem isWordChar_of_isWhiteSpace {c : Char} (h : isWhiteSpace c) : isWordChar c = false := by
  simp [isWordChar, isAlphabetic_of_isWhiteSpace h, isDigit_of_isWhiteSpace h]

theorem isNumberChar_of_isWhiteSpace {c : Char} (h : isWhiteSpace c) : isNumberChar c = false := by
  have hc : c ≠ '.' := by
    rintro rfl
    exact absurd h (by decide)
  simp [isNumberChar, isDigit_of_isWhiteSpace h, hc]

theorem isOperatorChar_of_isWhiteSpace {c : Char} (h : isWhiteSpace c) :
    isOperatorChar c = false := by
  cases hc : isOperatorChar c with
  | false => rfl
  | true => simp [(class_of_isOperatorChar hc).2.2.2] at h

end Lexeme

end LoxReader
