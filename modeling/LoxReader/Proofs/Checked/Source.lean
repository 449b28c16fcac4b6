import LoxReader.Proofs.Checked.Word
import LoxReader.Proofs.WellFormed

/-!
Look-ups in a source as a machine does them, through the starts of its lines. None traps for a
source that is short enough, and those in a well-formed position or span give no error.
-/

namespace LoxReader

open Text

/-- A source with less than a quarter of the bytes that an object in memory can have, so that its
text still fits with four bytes for each of its characters. -/
def Source.Small (s : Source) : Prop := s.length < 2 ^ 61

theorem Source.Small.fits {s : Source} (hsmall : s.Small) : s.length < 2 ^ 63 :=
  Nat.lt_of_lt_of_le hsmall (Nat.pow_le_pow_right Nat.two_pos (by decide))

namespace Checked

def lineText (s : Source) (number : Nat) : Checked (Option Text) :=
  match s.lineStart? number with
  | none => some none
  | some start => do
    let next ← add number 1
    let text ← slice s.text start ((s.lineStart? next).getD s.length)
    pure (some text)

def locate (s : Source) (index : Nat) : Checked (Except RangeError Location) :=
  match s.check index with
  | .error e => some (.error e)
  | .ok () => do
    let number := s.lineNumber index
    let above ← sub number 1
    let line ← s.lines[above]?
    let before ← slice s.text line.start index
    let column ← add before.length 1
    pure (.ok ⟨number, column⟩)

def location (p : Position) : Checked Location := do
  let found ← locate p.source p.index
  expect found

def text (s : Span) : Checked Text := slice s.source.text s.start s.stop

def length (s : Span) : Checked Nat := sub s.stop s.start

section

variable {s : Source} (hfits : s.length < 2 ^ 63)

include hfits

theorem lineText_of_line? {number : Nat} {line : Line} (hfound : s.line? number = some line) :
    lineText s number = some (some line.text) := by
  have hhere : s.lineStart? number = some line.start := by
    rw [Source.lineStart?, hfound]
    rfl
  have hnext : add number 1 = some (number + 1) := by
    have hcount := Source.le_lineCount_of_line? hfound
    have hmost := s.lineCount_le
    exact add_eq (by omega)
  have hcut : slice s.text line.start ((s.lineStart? (number + 1)).getD s.length)
      = some line.text := by
    rw [slice_eq_slice?]
    exact Source.slice?_of_line? hfound
  rw [lineText, hhere]
  simp only [hnext, hcut, Option.bind_eq_bind, Option.bind_some]
  rfl

theorem lineText_eq (number : Nat) : lineText s number = some (s.lineText? number) := by
  cases hfound : s.line? number with
  | none => simp [lineText, Source.lineStart?, Source.lineText?, hfound]
  | some line =>
    rw [lineText_of_line? hfits hfound, Source.lineText?, hfound]
    rfl

theorem locate_eq (index : Nat) : locate s index = some (s.location index) := by
  unfold locate
  cases hboundary : isBoundary s.text index with
  | false =>
    have hnowhere : s.location? index = none := by
      rw [Option.eq_none_iff_forall_ne_some]
      intro place hfound
      rw [Source.isBoundary_of_location? hfound] at hboundary
      cases hboundary
    simp [Source.check, Source.location, hboundary, hnowhere]
  | true =>
    obtain ⟨line, before, front, back, after, hfound, hwhole, hparts, hstart, hplace⟩ :=
      Source.line_of_isBoundary hboundary
    have hlocated := Source.location?_of_line hfound hparts hplace
    have hpositive := s.lineNumber_pos index
    have habove : sub (s.lineNumber index) 1 = some (s.lineNumber index - 1) := sub_eq hpositive
    have hentry : s.lines[s.lineNumber index - 1]? = some line := by
      obtain ⟨n, hnumber⟩ := Nat.exists_eq_add_one_of_ne_zero (Nat.ne_of_gt hpositive)
      rw [hnumber] at hfound ⊢
      exact hfound
    have hcut : slice s.text line.start index = some front := by
      rw [slice_eq_slice?, hplace, hstart, ← byteLength_append]
      have hparts : s.text = before ++ front ++ (back ++ after) := by simp [hwhole]
      exact Source.slice?_of_parts hparts
    have hcolumn : add front.length 1 = some (front.length + 1) := by
      have hchars := length_le_byteLength front
      have hinside := le_of_isBoundary hboundary
      rw [← Source.length] at hinside
      exact add_eq (by omega)
    simp [Source.check, Source.location, hboundary, hlocated, habove, hentry, hcut, hcolumn]

end

theorem location_eq {p : Position} (h : p.WellFormed) (hsmall : p.source.Small) :
    location p = some p.location := by
  obtain ⟨line, front, back, hfound, hparts, hplace, hshown⟩ := Position.location_of_wellFormed h
  have hlocated := Source.location?_of_line hfound hparts hplace
  rw [location, locate_eq hsmall.fits, Source.location, hlocated, hshown]
  rfl

theorem text_eq {s : Span} (h : s.WellFormed) : text s = some s.text := by
  obtain ⟨before, after, hwhole, hstart, hstop⟩ := Span.parts_of_wellFormed h
  rw [text, slice_eq_slice?, hstart, hstop]
  exact Source.slice?_of_parts hwhole

theorem length_eq {s : Span} (h : s.WellFormed) : length s = some s.length := sub_eq h.ordered

end Checked

end LoxReader
