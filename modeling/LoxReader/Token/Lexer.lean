import LoxReader.Token.Basic
import LoxReader.Token.Lexeme

/-!
A lexer reads the tokens of a source one after the other.
-/

namespace LoxReader

namespace Token

/-- The tokens that lexemes make in a source when the first one's gap starts at `start`. -/
def place (s : Source) : Nat → List Lexeme → List Token
  | _, [] => []
  | start, l :: ls =>
      let start := start + Text.byteLength l.gap
      let stop := start + Text.byteLength l.text
      ⟨l.kind, ⟨s, start, stop⟩⟩ :: place s stop ls

end Token

/-- A place in a source, with the text that is still to be read there. -/
structure Lexer where
  source : Source
  index : Nat
  rest : Text

namespace Lexer

def ofSource (s : Source) : Lexer := ⟨s, 0, s.text⟩

def position (l : Lexer) : Position := ⟨l.source, l.index⟩

/-- Reads the next token. Without one the lexer passes the trivia that is left. -/
def next (l : Lexer) : Option Token × Lexer :=
  match Lexeme.next? l.rest with
  | some (lexeme, rest) =>
      let start := l.index + Text.byteLength lexeme.gap
      let stop := start + Text.byteLength lexeme.text
      (some ⟨lexeme.kind, ⟨l.source, start, stop⟩⟩, ⟨l.source, stop, rest⟩)
  | none => (none, ⟨l.source, l.index + Text.byteLength l.rest, []⟩)

theorem length_of_next {l l' : Lexer} {token : Token} (h : l.next = (some token, l')) :
    l'.rest.length < l.rest.length := by
  unfold next at h
  split at h
  · next hnext =>
      simp only [Prod.mk.injEq] at h
      simpa [← h.2] using Lexeme.length_of_next? hnext
  · simp at h

def drain (l : Lexer) : List Token × Lexer :=
  match h : l.next with
  | (some token, l') =>
      have := length_of_next h
      let (tokens, last) := drain l'
      (token :: tokens, last)
  | (none, l') => ([], l')
termination_by l.rest.length

theorem drain_eq (l : Lexer) :
    l.drain = (Token.place l.source l.index (Lexeme.all l.rest),
      ⟨l.source, l.index + Text.byteLength l.rest, []⟩) := by
  fun_induction drain l with
  | case1 l token l' h _ tokens last hdrain ih =>
      rw [hdrain] at ih
      unfold next at h
      split at h
      · next lexeme rest hnext =>
          simp only [Prod.mk.injEq, Option.some.injEq] at h
          obtain ⟨rfl, rfl⟩ := h
          simp only [Prod.mk.injEq] at ih
          obtain ⟨rfl, rfl⟩ := ih
          have hparts := congrArg Text.byteLength (Lexeme.append_of_next? hnext)
          simp only [Text.byteLength_append] at hparts
          simp only [Lexeme.all_of_next? hnext, Token.place, Prod.mk.injEq, Lexer.mk.injEq,
            true_and, and_true]
          omega
      · simp at h
  | case2 l l' h =>
      unfold next at h
      split at h
      · simp at h
      · next hnext =>
          simp only [Prod.mk.injEq, true_and] at h
          rw [← h, Lexeme.all_of_next?_eq_none hnext, Token.place]

end Lexer

def Source.tokens (s : Source) : List Token := (Lexer.ofSource s).drain.1

theorem Source.tokens_eq (s : Source) : s.tokens = Token.place s 0 (Lexeme.all s.text) := by
  rw [tokens, Lexer.drain_eq]
  rfl

end LoxReader
