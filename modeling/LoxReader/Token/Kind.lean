import LoxReader.Text.Basic

namespace LoxReader

/-- Text that forms no token. -/
inductive Fault where
  | invalid
  | unterminatedString
  | unterminatedComment
  deriving DecidableEq, Repr

inductive Keyword where
  | kwAnd
  | kwClass
  | kwElse
  | kwFalse
  | kwFun
  | kwFor
  | kwIf
  | kwNil
  | kwNot
  | kwOr
  | kwPrint
  | kwReturn
  | kwSuper
  | kwThis
  | kwTrue
  | kwVar
  | kwWhile
  deriving DecidableEq, Repr

inductive Literal where
  | name
  | string
  | number
  deriving DecidableEq, Repr

inductive Operator where
  | notEquals
  | equals
  | greaterEquals
  | lessEquals
  | greater
  | less
  | assign
  | plus
  | minus
  | multiply
  | divide
  | modulo
  deriving DecidableEq, Repr

inductive Punctuation where
  | comma
  | dot
  deriving DecidableEq, Repr

inductive Delimiter where
  | semicolon
  | leftParen
  | rightParen
  | leftBrace
  | rightBrace
  | leftBracket
  | rightBracket
  deriving DecidableEq, Repr

def spelled? {α : Type} (all : List α) (spelling : α → String) (t : Text) : Option α :=
  all.find? fun a => (spelling a).toList = t

theorem spelling_of_spelled? {α : Type} {all : List α} {spelling : α → String} {t : Text} {a : α}
    (h : spelled? all spelling t = some a) : (spelling a).toList = t := by
  simpa using List.find?_some h

namespace Keyword

def all : List Keyword :=
  [kwAnd, kwClass, kwElse, kwFalse, kwFun, kwFor, kwIf, kwNil, kwNot, kwOr, kwPrint, kwReturn,
    kwSuper, kwThis, kwTrue, kwVar, kwWhile]

def spelling : Keyword → String
  | kwAnd => "and"
  | kwClass => "class"
  | kwElse => "else"
  | kwFalse => "false"
  | kwFun => "fun"
  | kwFor => "for"
  | kwIf => "if"
  | kwNil => "nil"
  | kwNot => "not"
  | kwOr => "or"
  | kwPrint => "print"
  | kwReturn => "return"
  | kwSuper => "super"
  | kwThis => "this"
  | kwTrue => "true"
  | kwVar => "var"
  | kwWhile => "while"

def ofSpelling? (t : Text) : Option Keyword := spelled? all spelling t

theorem ofSpelling?_eq_some_iff {t : Text} {k : Keyword} :
    ofSpelling? t = some k ↔ t = k.spelling.toList :=
  ⟨fun h => (spelling_of_spelled? h).symm, fun h => h ▸ by cases k <;> decide⟩

end Keyword

namespace Operator

def all : List Operator :=
  [notEquals, equals, greaterEquals, lessEquals, greater, less, assign, plus, minus, multiply,
    divide, modulo]

def spelling : Operator → String
  | notEquals => "!="
  | equals => "=="
  | greaterEquals => ">="
  | lessEquals => "<="
  | greater => ">"
  | less => "<"
  | assign => "="
  | plus => "+"
  | minus => "-"
  | multiply => "*"
  | divide => "/"
  | modulo => "%"

def ofSpelling? (t : Text) : Option Operator := spelled? all spelling t

theorem ofSpelling?_eq_some_iff {t : Text} {o : Operator} :
    ofSpelling? t = some o ↔ t = o.spelling.toList :=
  ⟨fun h => (spelling_of_spelled? h).symm, fun h => h ▸ by cases o <;> decide⟩

end Operator

namespace Punctuation

def all : List Punctuation := [comma, dot]

def spelling : Punctuation → String
  | comma => ","
  | dot => "."

def ofSpelling? (t : Text) : Option Punctuation := spelled? all spelling t

theorem ofSpelling?_eq_some_iff {t : Text} {p : Punctuation} :
    ofSpelling? t = some p ↔ t = p.spelling.toList :=
  ⟨fun h => (spelling_of_spelled? h).symm, fun h => h ▸ by cases p <;> decide⟩

end Punctuation

namespace Delimiter

def all : List Delimiter :=
  [semicolon, leftParen, rightParen, leftBrace, rightBrace, leftBracket, rightBracket]

def spelling : Delimiter → String
  | semicolon => ";"
  | leftParen => "("
  | rightParen => ")"
  | leftBrace => "\x7b"
  | rightBrace => "\x7d"
  | leftBracket => "["
  | rightBracket => "]"

def ofSpelling? (t : Text) : Option Delimiter := spelled? all spelling t

theorem ofSpelling?_eq_some_iff {t : Text} {d : Delimiter} :
    ofSpelling? t = some d ↔ t = d.spelling.toList :=
  ⟨fun h => (spelling_of_spelled? h).symm, fun h => h ▸ by cases d <;> decide⟩

end Delimiter

inductive Group where
  | error
  | keyword
  | literal
  | operator
  | punctuation
  | delimiter
  deriving DecidableEq, Repr

inductive Kind where
  | fault (fault : Fault)
  | keyword (keyword : Keyword)
  | literal (literal : Literal)
  | operator (operator : Operator)
  | punctuation (punctuation : Punctuation)
  | delimiter (delimiter : Delimiter)
  deriving DecidableEq, Repr

namespace Kind

/-- Every kind, by increasing code. -/
def all : List Kind :=
  [fault .invalid, fault .unterminatedString, fault .unterminatedComment]
    ++ Keyword.all.map keyword
    ++ [literal .name, literal .string, literal .number]
    ++ Operator.all.map operator
    ++ Punctuation.all.map punctuation
    ++ Delimiter.all.map delimiter

def group : Kind → Group
  | fault _ => .error
  | keyword _ => .keyword
  | literal _ => .literal
  | operator _ => .operator
  | punctuation _ => .punctuation
  | delimiter _ => .delimiter

/-- The number of a kind. Kinds of one group share the thousands. -/
def code : Kind → Nat
  | fault f => f.ctorIdx
  | keyword k => 1000 + k.ctorIdx
  | literal l => 2000 + l.ctorIdx
  | operator o => 3000 + o.ctorIdx
  | punctuation p => 4000 + p.ctorIdx
  | delimiter d => 5000 + d.ctorIdx

def compare (a b : Kind) : Ordering := Ord.compare a.code b.code

def isError (k : Kind) : Bool := k.group == .error

/-- The text of every token of a kind, where the kind fixes it. -/
def spelling? : Kind → Option String
  | fault _ => none
  | keyword k => some k.spelling
  | literal _ => none
  | operator o => some o.spelling
  | punctuation p => some p.spelling
  | delimiter d => some d.spelling

def ofSpelling? (t : Text) : Option Kind :=
  (Keyword.ofSpelling? t).map keyword
    <|> (Operator.ofSpelling? t).map operator
    <|> (Punctuation.ofSpelling? t).map punctuation
    <|> (Delimiter.ofSpelling? t).map delimiter

/-- Said of a text that `ofSpelling?` refuses. -/
def unknownSpelling : String := "invalid string representation of a token kind."

/-- The kind of a token of one character that joins no run. -/
def ofSign? (c : Char) : Option Kind :=
  (Punctuation.ofSpelling? [c]).map punctuation <|> (Delimiter.ofSpelling? [c]).map delimiter

def mark (spelling : String) : String := "`" ++ spelling ++ "`"

def describe : Kind → String
  | fault .invalid => "invalid token"
  | fault .unterminatedString => "unterminated string"
  | fault .unterminatedComment => "unterminated block comment"
  | keyword k => mark k.spelling
  | literal .name => "name"
  | literal .string => "string"
  | literal .number => "number"
  | operator o => mark o.spelling
  | punctuation p => mark p.spelling
  | delimiter d => mark d.spelling

theorem mem_all (k : Kind) : k ∈ all := by
  rcases k with f | k | l | o | p | d
  · cases f <;> decide
  · cases k <;> decide
  · cases l <;> decide
  · cases o <;> decide
  · cases p <;> decide
  · cases d <;> decide

theorem isError_iff_code (k : Kind) : k.isError ↔ k.code / 1000 = 0 := by
  have hall : ∀ k ∈ all, k.isError ↔ k.code / 1000 = 0 := by decide
  exact hall k k.mem_all

end Kind

end LoxReader
