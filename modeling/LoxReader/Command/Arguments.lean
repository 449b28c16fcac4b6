import LoxReader.Source.Path

/-!
The command line: one file, the switch `--dump-tokens`, and a way to ask for help. Behind `--`
every argument is a file.
-/

namespace LoxReader

inductive ArgumentError where
  | missingFile
  | emptyFile
  | unknownArgument (argument : Text)
  | unexpectedValue (argument : Text)
  | repeatedSwitch
  | helpRequested
  deriving DecidableEq, Repr

namespace ArgumentError

def message : ArgumentError → Text
  | missingFile => "no file is given".toList
  | emptyFile => "the name of the file is empty".toList
  | unknownArgument argument => "unexpected argument: ".toList ++ argument
  | unexpectedValue argument => "a switch takes no value: ".toList ++ argument
  | repeatedSwitch => "--dump-tokens can be given only once".toList
  | helpRequested => []

end ArgumentError

structure Request where
  file : Path
  dumpTokens : Bool
  deriving DecidableEq, Repr

inductive Argument where
  | file (name : Text)
  | dumpTokens
  | help
  | separator
  | valued (argument : Text)
  | unknown (argument : Text)
  deriving DecidableEq, Repr

namespace Argument

def switch? (name : Text) : Option Argument :=
  if name = "dump-tokens".toList then some dumpTokens
  else if name = "help".toList then some help
  else none

/-- Reads an argument in front of any separator. No switch takes a value. -/
def ofText (t : Text) : Argument :=
  match t with
  | ['-', '-'] => separator
  | '-' :: '-' :: name =>
      match switch? (name.takeWhile (· ≠ '=')) with
      | some argument => if '=' ∈ name then valued t else argument
      | none => unknown t
  | '-' :: c :: _ => if c = 'h' then help else unknown t
  | _ => file t

end Argument

namespace Request

def checkFile (file : Option Text) : Except ArgumentError Unit :=
  if file = some [] then throw .emptyFile else pure ()

/-- Reads arguments, given the file and the switch that were met before and whether a separator
was. A file is checked at the next switch or at the end. -/
def parseFrom (file : Option Text) (dumpTokens separated : Bool) :
    List Text → Except ArgumentError Request
  | [] => do
      checkFile file
      match file with
      | some name => pure ⟨.ofText name, dumpTokens⟩
      | none => throw .missingFile
  | t :: ts =>
      match if separated then .file t else Argument.ofText t with
      | .file name =>
          if file.isSome then throw (.unknownArgument t)
          else parseFrom (some name) dumpTokens separated ts
      | .dumpTokens => do
          checkFile file
          if dumpTokens then throw .repeatedSwitch
          parseFrom file true separated ts
      | .help => do
          checkFile file
          throw .helpRequested
      | .separator => parseFrom file dumpTokens true ts
      | .valued argument => throw (.unexpectedValue argument)
      | .unknown argument => throw (.unknownArgument argument)

def parse (arguments : List Text) : Except ArgumentError Request :=
  parseFrom none false false arguments

end Request

end LoxReader
