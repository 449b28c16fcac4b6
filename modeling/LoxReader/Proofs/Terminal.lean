import LoxReader.Report.Styled

/-!
What a terminal shows of a text: its characters, each with the style that is in force there. Of
encoded fragments it shows the characters with their own attributes, and behind each of them it is
back where it was.
-/

namespace LoxReader

/-- A colour goes by its code. -/
structure Style where
  bold : Bool := false
  underline : Bool := false
  color : Option Nat := none
  deriving DecidableEq, Repr

namespace Style

/-- The style behind a code: 1 is bold, 4 is underlined, 30 to 39 are colours, 0 takes all back. -/
def set (s : Style) (code : Nat) : Style :=
  if code = 0 then {}
  else if code = 1 then { s with bold := true }
  else if code = 4 then { s with underline := true }
  else if code / 10 = 3 then { s with color := some code }
  else s

def setAll (s : Style) (codes : List Nat) : Style := codes.foldl set s

def ofAttributes (attributes : List Attribute) : Style := setAll {} (attributes.map Attribute.code)

theorem setAll_zeros {attributes : List Attribute} (h : attributes ≠ []) (s : Style) :
    s.setAll (attributes.map fun _ => 0) = {} := by
  induction attributes generalizing s with
  | nil => exact absurd rfl h
  | cons a attributes ih =>
    cases attributes with
    | nil => rfl
    | cons b attributes => exact ih (by simp) (s.set 0)

theorem underline_setAll (s : Style) (attributes : List Attribute) :
    (s.setAll (attributes.map Attribute.code)).underline
      = (s.underline || attributes.contains .underline) := by
  induction attributes generalizing s with
  | nil => simp [setAll]
  | cons a attributes ih =>
    have hrest := ih (s.set a.code)
    rw [List.map_cons, setAll, List.foldl_cons, ← setAll, hrest]
    cases a <;> simp [set, Attribute.code]

theorem underline_ofAttributes (attributes : List Attribute) :
    (ofAttributes attributes).underline = attributes.contains .underline := by
  rw [ofAttributes, underline_setAll, Bool.false_or]

end Style

structure Cell where
  char : Char
  style : Style
  deriving DecidableEq, Repr

/-- What a character is read as: text, or a part of an escape sequence. -/
inductive Reading where
  | text
  | escape
  | code (n : Nat)
  deriving DecidableEq, Repr

structure Terminal where
  style : Style := {}
  reading : Reading := .text
  deriving DecidableEq, Repr

namespace Terminal

/-- Takes a character, which is shown unless it belongs to an escape sequence. -/
def step (t : Terminal) (c : Char) : Option Cell × Terminal :=
  match t.reading with
  | .text => if c = '\x1B' then (none, { t with reading := .escape }) else (some ⟨c, t.style⟩, t)
  | .escape => (none, { t with reading := if c = '[' then .code 0 else .text })
  | .code n =>
    if c.isDigit then (none, { t with reading := .code (10 * n + (c.toNat - '0'.toNat)) })
    else (none, ⟨if c = 'm' then t.style.set n else t.style, .text⟩)

def run (t : Terminal) : Text → List Cell × Terminal
  | [] => ([], t)
  | c :: cs => ((t.step c).1.toList ++ (run (t.step c).2 cs).1, (run (t.step c).2 cs).2)

theorem run_append (t : Terminal) (a b : Text) :
    t.run (a ++ b) = ((t.run a).1 ++ ((t.run a).2.run b).1, ((t.run a).2.run b).2) := by
  induction a generalizing t with
  | nil => rfl
  | cons c a ih => simp only [List.cons_append, run, ih, List.append_assoc]

theorem run_of_not_mem {s : Style} {t : Text} (h : '\x1B' ∉ t) :
    run ⟨s, .text⟩ t = (t.map (⟨·, s⟩), ⟨s, .text⟩) := by
  induction t with
  | nil => rfl
  | cons c t ih =>
    rw [List.mem_cons, not_or] at h
    have hstep : step ⟨s, .text⟩ c = (some ⟨c, s⟩, ⟨s, .text⟩) := if_neg (Ne.symm h.1)
    rw [run, hstep, ih h.2]
    rfl

theorem run_digits {s : Style} {n : Nat} {digits : Text} (h : ∀ c ∈ digits, c.isDigit) :
    run ⟨s, .code n⟩ (digits ++ ['m'])
      = ([], ⟨s.set (Nat.ofDigitChars 10 digits n), .text⟩) := by
  induction digits generalizing n with
  | nil => rfl
  | cons c digits ih =>
    obtain ⟨hc, hdigits⟩ := List.forall_mem_cons.mp h
    have hstep : step ⟨s, .code n⟩ c = (none, ⟨s, .code (10 * n + (c.toNat - '0'.toNat))⟩) :=
      if_pos hc
    rw [List.cons_append, run, hstep, ih hdigits, Nat.ofDigitChars_cons]
    rfl

theorem run_escapeSequence (s : Style) (code : Nat) :
    run ⟨s, .text⟩ (escapeSequence code) = ([], ⟨s.set code, .text⟩) := by
  have hdigits : ∀ c ∈ Text.ofNat code, c.isDigit := fun c hc =>
    Nat.isDigit_of_mem_toDigits (by decide) (by decide) hc
  have hcode := run_digits (s := s) (n := 0) hdigits
  rw [Text.ofNat, Nat.ofDigitChars_ten_toDigits] at hcode
  rw [escapeSequence, List.cons_append, List.cons_append, run, run]
  exact hcode

theorem run_escapeSequences (s : Style) (codes : List Nat) :
    run ⟨s, .text⟩ (codes.flatMap escapeSequence) = ([], ⟨s.setAll codes, .text⟩) := by
  induction codes generalizing s with
  | nil => rfl
  | cons code codes ih =>
    rw [List.flatMap_cons, run_append, run_escapeSequence, ih]
    rfl

end Terminal

def Fragment.cells (f : Fragment) : List Cell :=
  f.text.map (⟨·, Style.ofAttributes f.attributes⟩)

namespace Terminal

theorem run_fragment {f : Fragment} (h : '\x1B' ∉ f.text) : run {} f.encode = (f.cells, {}) := by
  have hfront : (f.attributes.flatMap fun a => escapeSequence a.code)
      = (f.attributes.map Attribute.code).flatMap escapeSequence := by
    rw [List.flatMap_map]
  have hback : (f.attributes.flatMap fun _ => escapeSequence 0)
      = (f.attributes.map fun _ => 0).flatMap escapeSequence := by
    rw [List.flatMap_map]
  rw [Fragment.encode, hfront, hback, run_append, run_append, run_escapeSequences,
    run_of_not_mem h, run_escapeSequences]
  by_cases hnone : f.attributes = []
  · simp [hnone, Fragment.cells, Style.ofAttributes, Style.setAll]
  · rw [Style.setAll_zeros hnone]
    simp [Fragment.cells, Style.ofAttributes]

end Terminal

namespace Styled

def cells (s : Styled) : List Cell := s.flatMap Fragment.cells

theorem cells_append (s t : Styled) : cells (s ++ t) = cells s ++ cells t :=
  List.flatMap_append

theorem map_char_cells (s : Styled) : s.cells.map Cell.char = s.text := by
  have hchars (f : Fragment) : f.cells.map Cell.char = f.text := by
    rw [Fragment.cells, List.map_map]
    exact List.map_id f.text
  simp only [cells, text, List.map_flatMap, hchars]

end Styled

theorem Terminal.run_encode {s : Styled} (h : '\x1B' ∉ s.text) :
    run {} s.encode = (s.cells, {}) := by
  induction s with
  | nil => rfl
  | cons f s ih =>
    rw [Styled.text, List.flatMap_cons, List.mem_append, not_or] at h
    rw [Styled.encode, List.flatMap_cons, run_append, run_fragment h.1, ← Styled.encode, ih h.2]
    rfl

namespace Terminal

/-- What a terminal shows of a text that is written to it. -/
def shown (out : Text) : Text := (run {} out).1.map Cell.char

theorem shown_encode {s : Styled} (h : '\x1B' ∉ s.text) (out : Text) :
    shown (s.encode ++ out) = s.text ++ shown out := by
  rw [shown, run_append, run_encode h, List.map_append, Styled.map_char_cells]
  rfl

end Terminal

end LoxReader
