import LoxReader.Source.Load

namespace LoxReader

open Text

inductive Entry where
  | file (contents : Bytes)
  | directory
  deriving DecidableEq, Repr

/-- What is below a directory, by the names that lead there. Of two entries of one name the
earlier one counts. -/
structure Directory where
  entries : List (List Bytes × Entry) := []

namespace Directory

def lookup (d : Directory) (names : List Bytes) : Option Entry :=
  if names = [] then some .directory else d.entries.lookup names

/-- The names that a part of a path leads to from `here`. -/
def step (here : List Bytes) (part : Bytes) : List Bytes :=
  if part = [] ∨ part = [Path.dot] then here
  else if part = [Path.dot, Path.dot] then here.dropLast
  else here ++ [part]

/-- The places that the parts of a path pass, the last one in front. -/
def places (path : Path) : List (List Bytes) :=
  path.parts.foldl (fun passed part => step (passed.headD []) part :: passed) []

/-- Puts a file at a path and directories on the way to it. -/
def insert (d : Directory) (path : Path) (contents : Bytes) : Directory :=
  match places path with
  | [] => d
  | place :: passed => ⟨(place, .file contents) :: passed.map (·, .directory) ++ d.entries⟩

theorem lookup_insert (d : Directory) {path : Path} (contents : Bytes) {place : List Bytes}
    {passed : List (List Bytes)} (h : places path = place :: passed) (hnamed : place ≠ []) :
    (d.insert path contents).lookup place = some (.file contents) := by
  simp [insert, lookup, h, hnamed]

/-- The names that the parts of a path lead to from `here`. There must be a directory to step
from, also where the step stays. A path that leaves the directory leads nowhere. -/
def resolve (d : Directory) (here : List Bytes) : List Bytes → Except FileError (List Bytes)
  | [] => .ok here
  | part :: parts =>
      match d.lookup here with
      | none => .error .notFound
      | some (.file _) => .error .notDirectory
      | some .directory =>
          if here = [] ∧ part = [Path.dot, Path.dot] then .error .notFound
          else d.resolve (step here part) parts

/-- The contents of the file at a path. -/
def read (d : Directory) (path : Path) : Except FileError Bytes :=
  if 0 ∈ path.bytes then .error .nulInPath
  else if path.bytes = [] ∨ path.bytes.head? = some Path.slash then .error .notFound
  else do
    match d.lookup (← d.resolve [] path.parts) with
    | some (.file contents) => pure contents
    | some .directory => throw .isDirectory
    | none => throw .notFound

end Directory

end LoxReader
