import LoxReader.Source.Position
import LoxReader.Token.Kind

namespace LoxReader

structure Token where
  kind : Kind
  span : Span

namespace Token

def text (t : Token) : Text := t.span.text

def isError (t : Token) : Bool := t.kind.isError

def compare? (a b : Token) : Option Ordering :=
  (a.span.compare? b.span).map (a.kind.compare b.kind).then

instance : BEq Token where
  beq a b := a.compare? b == some .eq

end Token

end LoxReader
