import LoxReader.Report.Styled
import LoxReader.Source.Position

/-!
An excerpt shows a span in the lines around it: where it starts, the lines from the one before the
span to the one behind it, and marks on the characters of the span. A span within a line has
carets in a row below; what is said about it stands there, or below a longer span.
-/

namespace LoxReader

open Text

/-- What a character of a line is shown as. A tab is four columns wide. -/
def cell (c : Char) : Text := if c == '\t' then List.replicate 4 ' ' else [c]

def columns (t : Text) : Nat := (t.flatMap cell).length

theorem length_cell (c : Char) : (cell c).length = if c == '\t' then 4 else 1 := by
  unfold cell
  split <;> simp

theorem columns_cons (c : Char) (t : Text) :
    columns (c :: t) = (if c == '\t' then 4 else 1) + columns t := by
  rw [columns, List.flatMap_cons, List.length_append, length_cell]
  rfl

inductive Row where
  | title (origin : Text) (start : Location)
  | blank
  | line (number : Nat) (shown : Styled)
  | carets (indent width : Nat) (help : Option Text)
  | remark (help : Text)
  deriving Repr

namespace Row

/-- The column of numbers, `width` wide, and the bar behind it. -/
def gutter (width : Nat) (number : Option Nat) : Styled :=
  let column :=
    match number with
    | some n =>
        let digits := ofNat n
        ⟨[.bold, .cyan], List.replicate (width - digits.length) ' ' ++ digits⟩
    | none => .plain (List.replicate width ' ')
  [column, .plain [' '], ⟨[.bold, .cyan], ['┃']⟩, .plain [' ']]

def remarkOf (help : Text) : Styled := [⟨[.bold], "help".toList⟩, .plain (": ".toList ++ help)]

/-- A row in a report whose numbers are at most `width` digits long. -/
def render (width : Nat) : Row → Styled
  | title origin start =>
      [.plain (List.replicate width ' '), ⟨[.bold, .cyan], "-->".toList⟩,
        .plain (' ' :: origin ++ ':' :: start.display)]
  | blank => gutter width none
  | line number shown => gutter width (some number) ++ shown
  | carets indent length help =>
      gutter width none
        ++ [.plain (List.replicate indent ' '), ⟨[.bold, .red], List.replicate length '^'⟩]
        ++ (help.elim [] fun text => .plain [' '] :: remarkOf text)
  | remark help =>
      [.plain (List.replicate width ' '), .plain [' '], ⟨[.bold, .cyan], ['=']⟩, .plain [' ']]
        ++ remarkOf help

end Row

namespace Span

/-- The characters of a line that starts at `start`, those of the span marked. A terminator is not
shown. -/
def mark (s : Span) (start : Nat) : Text → Styled
  | [] => []
  | c :: t =>
      if isLineTerminator c then []
      else
        let attributes :=
          if s.start ≤ start ∧ start < s.stop then [.underline, .bold, .red] else []
        ⟨attributes, cell c⟩ :: s.mark (start + c.utf8Size) t

def isWithinLine (s : Span) : Bool := s.startLocation.line == s.stopLocation.line

def firstShown (s : Span) : Nat := max 1 (s.startLocation.line - 1)

def lastShown (s : Span) : Nat := min (s.stopLocation.line + 1) s.source.lineCount

def caretRow (s : Span) (line : Text) (help : Option Text) : Row :=
  .carets (columns (line.take (s.startLocation.column - 1))) (max 1 (columns s.text)) help

def lineRows (s : Span) (help : Option Text) (number : Nat) : List Row :=
  match s.source.line? number with
  | some line =>
      .line number (s.mark line.start line.text)
        :: if s.isWithinLine && number == s.startLocation.line then [s.caretRow line.text help]
           else []
  | none => []

def excerpt (s : Span) (help : Option Text) : List Row :=
  .title s.source.origin.display s.startLocation
    :: .blank
    :: (List.range' s.firstShown (s.lastShown + 1 - s.firstShown)).flatMap (s.lineRows help)
    ++ [.blank]
    ++ if s.isWithinLine then [] else (help.map Row.remark).toList

def renderExcerpt (s : Span) (help : Option Text) : Styled :=
  let width := (ofNat s.lastShown).length
  (s.excerpt help).flatMap fun row => row.render width ++ [.plain ['\n']]

end Span

end LoxReader
