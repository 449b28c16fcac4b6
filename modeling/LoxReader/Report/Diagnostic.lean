import LoxReader.Report.Collector
import LoxReader.Report.Excerpt
import LoxReader.Report.Message
import LoxReader.Token.Lexer

/-!
What is said about malformed text, and the reading of a whole source, which says it about every
such token.
-/

namespace LoxReader

open Text

/-- The first `length` bytes of a span where they end between characters, else the span. -/
def Span.opening (s : Span) (length : Nat) : Span :=
  (s.source.span s.start (s.start + length)).toOption.getD s

inductive Diagnostic where
  | invalidToken (span : Span)
  | unterminatedString (span : Span)
  | unterminatedComment (span : Span)

namespace Diagnostic

def ofToken? (t : Token) : Option Diagnostic :=
  match t.kind with
  | .fault .invalid => some (.invalidToken t.span)
  | .fault .unterminatedString => some (.unterminatedString t.span)
  | .fault .unterminatedComment => some (.unterminatedComment t.span)
  | _ => none

def span : Diagnostic → Span
  | invalidToken s => s
  | unterminatedString s => s
  | unterminatedComment s => s

def title : Diagnostic → Text
  | invalidToken s => "found an invalid token `".toList ++ s.text ++ ['`']
  | unterminatedString _ => "found an unterminated string literal".toList
  | unterminatedComment _ => "found an unclosed `/*` comment".toList

def shown : Diagnostic → Span
  | invalidToken s => s
  | unterminatedString s => s.opening 1
  | unterminatedComment s => s.opening 2

/-- Why a text is no token: a number with two points, a run that spells no operator, or a
character of no use. -/
def invalidHelp (t : Text) : String :=
  if (t.head?.map Char.isDigit).getD false then "a number can contain at most one `.`"
  else if 1 < t.length then "this is not one of the operators `!= == >= <= > < = + - * / %`"
  else "this character can't start a token"

def help : Diagnostic → String
  | invalidToken s => invalidHelp s.text
  | unterminatedString _ => "this string is never closed by a `\"`"
  | unterminatedComment _ => "every `/*`, including nested ones, needs a matching `*/`"

def render (d : Diagnostic) : Styled :=
  (Message.mk .error d.title).render ++ [.plain ['\n']] ++ d.shown.renderExcerpt d.help.toList

end Diagnostic

/-- The tokens of a source, and a collector that has received what is to be said about them. -/
def Source.tokenize {σ : Type} [Collector σ Diagnostic] (s : Source) (collector : σ) :
    List Token × σ :=
  let tokens := s.tokens
  (tokens, Collector.receiveAll collector (tokens.filterMap Diagnostic.ofToken?))

end LoxReader
