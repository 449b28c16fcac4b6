import LoxReader.Text.Quoted

namespace LoxReader

open Text

/-- The path of a file. It need not be UTF-8. -/
structure Path where
  bytes : Bytes
  deriving DecidableEq, Repr

namespace Path

def slash : UInt8 := 0x2F

def dot : UInt8 := 0x2E

def ofText (t : Text) : Path := ⟨encode t⟩

def display (p : Path) : Text := decodeLossy p.bytes

def parts (p : Path) : List Bytes := p.bytes.splitOn slash

/-- The last part of a path, unless the path ends in a step to a parent directory. Empty parts and
steps to the same directory do not count. -/
def fileName? (p : Path) : Option Bytes :=
  match (p.parts.filter fun part => part ≠ [] ∧ part ≠ [dot]).getLast? with
  | some name => if name = [dot, dot] then none else some name
  | none => none

/-- A name up to its last dot. A dot in front does not end a name. -/
def stem (name : Bytes) : Bytes :=
  match name.reverse.dropWhile (· ≠ dot) with
  | [] | [_] => name
  | _ :: before => before.reverse

def baseName (p : Path) : Text := decodeLossy ((p.fileName?.map stem).getD [])

end Path

inductive Origin where
  | file (path : Path)
  | synthesized (id : Text)
  deriving DecidableEq, Repr

namespace Origin

def display : Origin → Text
  | file path => path.display
  | synthesized id => "synthesized://".toList ++ id

def baseName : Origin → Text
  | file path => path.baseName
  | synthesized id => id

def isSynthesized : Origin → Bool
  | file _ => false
  | synthesized _ => true

def describe : Origin → Text
  | file path => "File(".toList ++ quoteBytes path.bytes ++ [')']
  | synthesized id => "Synthesized(".toList ++ id ++ [')']

end Origin

end LoxReader
