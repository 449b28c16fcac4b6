import LoxReader.Text.Basic

/-!
Text with attributes, and its form on a terminal, where an escape sequence sets an attribute and
another one clears them all.
-/

namespace LoxReader

inductive Attribute where
  | bold
  | underline
  | red
  | green
  | yellow
  | cyan
  deriving DecidableEq, Repr

namespace Attribute

def code : Attribute → Nat
  | bold => 1
  | underline => 4
  | red => 31
  | green => 32
  | yellow => 33
  | cyan => 36

end Attribute

/-- A text whose characters share their attributes, the one set first in front. -/
structure Fragment where
  attributes : List Attribute
  text : Text
  deriving DecidableEq, Repr

abbrev Styled := List Fragment

def escapeSequence (code : Nat) : Text := '\x1B' :: '[' :: Text.ofNat code ++ ['m']

namespace Fragment

def plain (t : Text) : Fragment := ⟨[], t⟩

def paint (a : Attribute) (f : Fragment) : Fragment := ⟨a :: f.attributes, f.text⟩

/-- Every attribute is set by itself and cleared by itself, as if the painted text were part of
another one. -/
def encode (f : Fragment) : Text :=
  f.attributes.flatMap (fun a => escapeSequence a.code) ++ f.text
    ++ f.attributes.flatMap fun _ => escapeSequence 0

end Fragment

namespace Styled

def encode (s : Styled) : Text := s.flatMap Fragment.encode

def text (s : Styled) : Text := s.flatMap Fragment.text

theorem text_append (s t : Styled) : text (s ++ t) = text s ++ text t :=
  List.flatMap_append

end Styled

end LoxReader
