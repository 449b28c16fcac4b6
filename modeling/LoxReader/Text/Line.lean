import LoxReader.Text.Basic

namespace LoxReader.Text

def isLineTerminator (c : Char) : Bool :=
  c == '\n' || c == '\r' || c == '\x0B' || c == '\x0C' || c == '\x85' || c == '\u2028'
    || c == '\u2029'

/-- Whether `c` ends a line when the text `t` follows. A carriage return in front of a line feed
leaves that to the line feed. -/
def endsLine (c : Char) (t : Text) : Bool :=
  isLineTerminator c && !(c == '\r' && t.head? == some '\n')

def consLine (c : Char) : List Text → List Text
  | [] => [[c]]
  | line :: lines => if endsLine c line then [c] :: line :: lines else (c :: line) :: lines

/-- The lines of a text, each with its terminator. A terminator at the end starts one more,
empty line. -/
def lines (t : Text) : List Text := t.foldr consLine [[]]

@[simp]
theorem lines_nil : lines [] = [[]] := rfl

theorem lines_cons (c : Char) (t : Text) : lines (c :: t) = consLine c (lines t) := rfl

theorem consLine_ne_nil (c : Char) (ls : List Text) : consLine c ls ≠ [] := by
  cases ls with
  | nil => simp [consLine]
  | cons line ls => simp only [consLine]; split <;> simp

theorem lines_ne_nil (t : Text) : lines t ≠ [] := by
  cases t with
  | nil => simp
  | cons c t => exact consLine_ne_nil c _

theorem flatten_consLine (c : Char) (ls : List Text) : (consLine c ls).flatten = c :: ls.flatten := by
  cases ls with
  | nil => rfl
  | cons line ls => simp only [consLine]; split <;> simp

theorem flatten_lines (t : Text) : (lines t).flatten = t := by
  induction t with
  | nil => rfl
  | cons c t ih => rw [lines_cons, flatten_consLine, ih]

end LoxReader.Text

namespace LoxReader

/-- A line of a text, with its terminator: the byte offset at which it starts, and the text from
there to the end. -/
structure Line where
  start : Nat
  text : Text
  rest : Text
  deriving DecidableEq, Repr

namespace Line

/-- Finds lines one after the other in a text that starts at the offset `start`. -/
def place : Nat → Text → List Text → List Line
  | _, _, [] => []
  | start, rest, line :: lines =>
      ⟨start, line, rest⟩
        :: place (start + Text.byteLength line) (rest.drop line.length) lines

def table (t : Text) : List Line := place 0 t t.lines

@[simp]
theorem map_text_place (start : Nat) (rest : Text) (ls : List Text) :
    (place start rest ls).map Line.text = ls := by
  induction ls generalizing start rest with
  | nil => rfl
  | cons line ls ih => simp [place, ih]

theorem map_text_table (t : Text) : (table t).map Line.text = t.lines :=
  map_text_place 0 t t.lines

theorem rest_of_mem_place {start : Nat} {ls : List Text} {line : Line}
    (h : line ∈ place start ls.flatten ls) :
    ∃ before, ls.flatten = before ++ line.rest ∧ line.start = start + Text.byteLength before := by
  induction ls generalizing start with
  | nil => simp [place] at h
  | cons first ls ih =>
      simp only [place, List.flatten_cons, List.drop_left, List.mem_cons] at h
      rcases h with rfl | h
      · exact ⟨[], rfl, rfl⟩
      · obtain ⟨before, hrest, hstart⟩ := ih h
        exact ⟨first ++ before, by simp [hrest], by simp [hstart, Nat.add_assoc]⟩

theorem rest_of_mem_table {t : Text} {line : Line} (h : line ∈ table t) :
    ∃ before, t = before ++ line.rest ∧ line.start = Text.byteLength before := by
  have hparts := Text.flatten_lines t
  have hplaced : line ∈ place 0 t.lines.flatten t.lines := by rwa [hparts]
  obtain ⟨before, hrest, hstart⟩ := rest_of_mem_place hplaced
  exact ⟨before, by rw [← hrest, hparts], by simpa using hstart⟩

end Line

end LoxReader
