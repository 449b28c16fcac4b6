import LoxReader.Token.Kind
import LoxReader.Token.Trivia
import LoxReader.Unicode.Alphabetic

/-!
The words of a text, wherever it stands: each has a kind, and trivia may stand in front of it.
-/

namespace LoxReader

open Text Unicode

structure Lexeme where
  gap : Text
  kind : Kind
  text : Text
  deriving DecidableEq, Repr

namespace Lexeme

def isWordChar (c : Char) : Bool := isAlphabetic c || c.isDigit

def isNumberChar (c : Char) : Bool := c.isDigit || c == '.'

def isOperatorChar (c : Char) : Bool := "<>!=+-*/%".toList.contains c

def isStringChar (c : Char) : Bool := c != '"'

def wordKind (t : Text) : Kind :=
  match Keyword.ofSpelling? t with
  | some k => .keyword k
  | none => .literal .name

def numberKind (t : Text) : Kind :=
  if t.count '.' ≤ 1 then .literal .number else .fault .invalid

def operatorKind (t : Text) : Kind :=
  match Operator.ofSpelling? t with
  | some o => .operator o
  | none => .fault .invalid

def signKind (c : Char) : Kind := (Kind.ofSign? c).getD (.fault .invalid)

/-- The kind and the text of the lexeme at the front of a text without leading trivia, and the
text after it. A block comment that still stands there is never closed. -/
def munch? : Text → Option (Kind × Text × Text)
  | [] => none
  | '/' :: '*' :: t => some (.fault .unterminatedComment, '/' :: '*' :: t, [])
  | '"' :: t =>
      match t.dropWhile isStringChar with
      | [] => some (.fault .unterminatedString, '"' :: t, [])
      | quote :: rest => some (.literal .string, '"' :: (t.takeWhile isStringChar ++ [quote]), rest)
  | c :: t =>
      if isAlphabetic c then some (run isWordChar wordKind c t)
      else if c.isDigit then some (run isNumberChar numberKind c t)
      else if isOperatorChar c then some (run isOperatorChar operatorKind c t)
      else some (signKind c, [c], t)
where
  run (p : Char → Bool) (kind : Text → Kind) (c : Char) (t : Text) : Kind × Text × Text :=
    (kind (c :: t.takeWhile p), c :: t.takeWhile p, t.dropWhile p)

/-- The lexeme at the front of a text and the text after it; nothing when only trivia is left. -/
def next? (t : Text) : Option (Lexeme × Text) :=
  let (gap, body) := Trivia.split t
  (munch? body).map fun (kind, text, rest) => (⟨gap, kind, text⟩, rest)

theorem append_of_munch? {t text rest : Text} {kind : Kind} (h : munch? t = some (kind, text, rest)) :
    t = text ++ rest := by
  unfold munch? at h
  split at h
  · simp at h
  · simp only [Option.some.injEq, Prod.mk.injEq] at h
    simp [← h.2.1, ← h.2.2]
  · rename_i t
    have hwhole := List.takeWhile_append_dropWhile (p := isStringChar) (l := t)
    split at h
    · simp only [Option.some.injEq, Prod.mk.injEq] at h
      simp [← h.2.1, ← h.2.2]
    · next quote tail hdrop =>
        rw [hdrop] at hwhole
        simp only [Option.some.injEq, Prod.mk.injEq] at h
        simp [← h.2.1, ← h.2.2, hwhole]
  · repeat' split at h
    all_goals
      simp only [munch?.run, Option.some.injEq, Prod.mk.injEq] at h
      simp [← h.2.1, ← h.2.2, List.takeWhile_append_dropWhile]

theorem munch?_ne_nil {t text rest : Text} {kind : Kind} (h : munch? t = some (kind, text, rest)) :
    text ≠ [] := by
  unfold munch? at h
  repeat' split at h
  all_goals
    simp only [munch?.run, Option.some.injEq, Prod.mk.injEq, reduceCtorEq] at h
    try simp [← h.2.1]

theorem munch?_eq_none_iff {t : Text} : munch? t = none ↔ t = [] := by
  unfold munch?
  repeat' split
  all_goals simp

theorem munch?_other {c : Char} {t : Text} (hquote : c ≠ '"') (hopen : ¬ ['/', '*'] <+: c :: t) :
    munch? (c :: t) =
      if isAlphabetic c then some (munch?.run isWordChar wordKind c t)
      else if c.isDigit then some (munch?.run isNumberChar numberKind c t)
      else if isOperatorChar c then some (munch?.run isOperatorChar operatorKind c t)
      else some (signKind c, [c], t) := by
  unfold munch?
  split <;> simp_all

theorem append_of_next? {t rest : Text} {lexeme : Lexeme} (h : next? t = some (lexeme, rest)) :
    t = lexeme.gap ++ lexeme.text ++ rest := by
  obtain ⟨⟨kind, text, tail⟩, hm, he⟩ := Option.map_eq_some_iff.1 h
  simp only [Prod.mk.injEq] at he
  obtain ⟨rfl, rfl⟩ := he
  rw [List.append_assoc, ← append_of_munch? hm, Trivia.append_split]

theorem text_ne_nil_of_next? {t rest : Text} {lexeme : Lexeme}
    (h : next? t = some (lexeme, rest)) : lexeme.text ≠ [] := by
  obtain ⟨⟨kind, text, tail⟩, hm, he⟩ := Option.map_eq_some_iff.1 h
  simp only [Prod.mk.injEq] at he
  obtain ⟨rfl, rfl⟩ := he
  exact munch?_ne_nil hm

theorem length_of_next? {t rest : Text} {lexeme : Lexeme} (h : next? t = some (lexeme, rest)) :
    rest.length < t.length := by
  have hparts := congrArg List.length (append_of_next? h)
  have hfilled := List.length_pos_iff.2 (text_ne_nil_of_next? h)
  simp only [List.length_append] at hparts
  omega

def all (t : Text) : List Lexeme :=
  match h : next? t with
  | some (lexeme, rest) =>
      have := length_of_next? h
      lexeme :: all rest
  | none => []
termination_by t.length

theorem all_of_next? {t rest : Text} {lexeme : Lexeme} (h : next? t = some (lexeme, rest)) :
    all t = lexeme :: all rest := by
  rw [all]
  split <;> simp_all

theorem all_of_next?_eq_none {t : Text} (h : next? t = none) : all t = [] := by
  rw [all]
  split <;> simp_all

end Lexeme

end LoxReader
