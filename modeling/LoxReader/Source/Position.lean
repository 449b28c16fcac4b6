import LoxReader.Source.Basic

namespace LoxReader

structure Position where
  source : Source
  index : Nat

/-- The stretch of a source from `start` up to, but without, `stop`. -/
structure Span where
  source : Source
  start : Nat
  stop : Nat

namespace Source

def position (s : Source) (index : Nat) : Except RangeError Position := do
  s.check index
  pure ⟨s, index⟩

def endPosition (s : Source) : Position := ⟨s, s.length⟩

def span (s : Source) (start stop : Nat) : Except RangeError Span := do
  s.check start
  s.check stop
  if stop < start then throw (.invalidOperation .startAfterEnd)
  pure ⟨s, start, stop⟩

def spanToEnd (s : Source) (start : Nat) : Except RangeError Span := s.span start s.length

def wholeSpan (s : Source) : Span := ⟨s, 0, s.length⟩

def emptySpan (s : Source) (index : Nat) : Except RangeError Span := s.span index index

def checkSame (a b : Source) : Except RangeError Unit :=
  if a.number = b.number then pure () else throw (.invalidOperation .differentSources)

/-- Orders values of one source by `order`. Values of different sources have no order. -/
def compareWithin (a b : Source) (order : Ordering) : Option Ordering :=
  if a.number = b.number then some order else none

end Source

namespace Position

def location (p : Position) : Location := (p.source.location? p.index).getD .first

def upTo (p q : Position) : Except RangeError Span := do
  p.source.checkSame q.source
  p.source.span p.index q.index

def compare? (p q : Position) : Option Ordering :=
  p.source.compareWithin q.source (compare p.index q.index)

instance : BEq Position where
  beq p q := p.compare? q == some .eq

def describe (p : Position) : Text :=
  s!"Position \x7b index: {p.index}, location: ".toList ++ p.location.describe ++ " \x7d".toList

end Position

namespace Span

def text (s : Span) : Text := (s.source.slice? s.start s.stop).getD []

def length (s : Span) : Nat := s.stop - s.start

def isEmpty (s : Span) : Bool := s.start == s.stop

def startPosition (s : Span) : Position := ⟨s.source, s.start⟩

def stopPosition (s : Span) : Position := ⟨s.source, s.stop⟩

def startLocation (s : Span) : Location := s.startPosition.location

def stopLocation (s : Span) : Location := s.stopPosition.location

def contains (s : Span) (p : Position) : Except RangeError Bool := do
  s.source.checkSame p.source
  pure (s.start ≤ p.index && p.index < s.stop)

/-- Moves the end of a span, never to the left. -/
def extendUpTo (s : Span) (stop : Nat) : Except RangeError Span :=
  if stop < s.stop then throw (.invalidOperation .shrinking) else s.source.span s.start stop

/-- The shortest span that covers two spans. -/
def cover (s t : Span) : Except RangeError Span := do
  s.source.checkSame t.source
  pure ⟨s.source, min s.start t.start, max s.stop t.stop⟩

def compare? (s t : Span) : Option Ordering :=
  s.source.compareWithin t.source ((compare s.start t.start).then (compare s.stop t.stop))

instance : BEq Span where
  beq s t := s.compare? t == some .eq

def describe (s : Span) : Text :=
  s!"Span \x7b start: {s.start}, end: {s.stop}, content: ".toList ++ Text.quote s.text
    ++ " \x7d".toList

end Span

end LoxReader
