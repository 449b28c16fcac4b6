import LoxReader.Bisect
import LoxReader.Source.Path
import LoxReader.Text.Line

/-!
A source is a text with an origin and a table of its lines. Its places are counted in bytes, or in
lines and characters.
-/

namespace LoxReader

open Text

inductive Misuse where
  | differentSources
  | startAfterEnd
  | shrinking
  deriving DecidableEq, Repr

namespace Misuse

def message : Misuse → String
  | differentSources => "the operands belong to different source files"
  | startAfterEnd => "the start of a span can't be greater than its end"
  | shrinking => "a span can't be shrunk"

end Misuse

inductive RangeError where
  | outOfRange (index length : Nat)
  | invalidOperation (misuse : Misuse)
  deriving DecidableEq, Repr

namespace RangeError

def message : RangeError → String
  | outOfRange index length =>
      s!"byte index {index} is out of range for a source of {length} bytes"
  | invalidOperation misuse => "invalid operation: " ++ misuse.message

end RangeError

/-- The number of a line and of a character in it, both counted from 1. -/
structure Location where
  line : Nat
  column : Nat
  deriving DecidableEq, Repr

namespace Location

def first : Location := ⟨1, 1⟩

def display (l : Location) : Text := ofNat l.line ++ ':' :: ofNat l.column

theorem not_mem_display {c : Char} (hc : c.isDigit = false) (hcolon : c ≠ ':')
    (l : Location) : c ∉ l.display := by
  simp only [display, List.mem_append, List.mem_cons, not_or]
  exact ⟨not_mem_ofNat hc l.line, hcolon, not_mem_ofNat hc l.column⟩

def describe (l : Location) : Text :=
  s!"Location \x7b line: {l.line}, column: {l.column} \x7d".toList

def compare (a b : Location) : Ordering :=
  (Ord.compare a.line b.line).then (Ord.compare a.column b.column)

end Location

/-- A text, its origin and its line table. Sources with different numbers are different, also
where their texts agree. -/
structure Source where
  number : Nat
  origin : Origin
  text : Text
  lines : Array Line := (Line.table text).toArray
  lines_eq : lines = (Line.table text).toArray := by rfl

namespace Source

def length (s : Source) : Nat := byteLength s.text

def isEmpty (s : Source) : Bool := s.text.isEmpty

def lineCount (s : Source) : Nat := s.lines.size

/-- The line with the given number. The first line has the number 1. -/
def line? (s : Source) : Nat → Option Line
  | 0 => none
  | n + 1 => s.lines[n]?

def lineStart? (s : Source) (n : Nat) : Option Nat := (s.line? n).map Line.start

def lineText? (s : Source) (n : Nat) : Option Text := (s.line? n).map Line.text

/-- Accepts the byte offsets of places between characters and at the ends. -/
def check (s : Source) (index : Nat) : Except RangeError Unit :=
  if isBoundary s.text index then .ok () else .error (.outOfRange index s.length)

/-- The number of the line that holds a byte offset: the last one that starts no later. -/
def lineNumber (s : Source) (index : Nat) : Nat := bisect (·.start ≤ index) s.lines

def location? (s : Source) (index : Nat) : Option Location := do
  let number := s.lineNumber index
  let line ← s.line? number
  let (before, _) ← splitAt? (index - line.start) line.text
  pure ⟨number, before.length + 1⟩

def location (s : Source) (index : Nat) : Except RangeError Location :=
  match s.location? index with
  | some location => .ok location
  | none => .error (.outOfRange index s.length)

/-- The text from one byte offset up to another. There is none when they are in the wrong order
or one of them is no boundary. -/
def slice? (s : Source) (start stop : Nat) : Option Text :=
  if stop < start then none
  else do
    let line ← s.line? (s.lineNumber start)
    Text.slice? line.rest (start - line.start) (stop - start)

def describe (s : Source) : Text :=
  let starts := s.lines.toList.map fun line => ofNat line.start
  "SourceFile \x7b origin: ".toList ++ s.origin.describe ++ ", line_starts: [".toList
    ++ [',', ' '].intercalate starts ++ "], .. \x7d".toList

end Source

end LoxReader
