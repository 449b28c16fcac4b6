import LoxReader.Source.Basic

namespace LoxReader

open Text

inductive FileError where
  | notFound
  | notDirectory
  | isDirectory
  | nulInPath
  | other (reason : String)
  deriving DecidableEq, Repr

namespace FileError

def message : FileError → String
  | notFound => "No such file or directory (os error 2)"
  | notDirectory => "Not a directory (os error 20)"
  | isDirectory => "No such device (os error 19)"
  | nulInPath => "file name contained an unexpected NUL byte"
  | other reason => reason

end FileError

inductive LoadError where
  | file (error : FileError)
  | encoding (error : DecodeError)
  deriving DecidableEq, Repr

namespace LoadError

def message : LoadError → String
  | file error => error.message
  | encoding error => error.message

end LoadError

namespace Source

def ofText (number : Nat) (origin : Origin) (text : Text) : Source := { number, origin, text }

def ofBytes (number : Nat) (origin : Origin) (bytes : Bytes) : Except DecodeError Source :=
  (decode bytes).map (ofText number origin)

/-- The source in a file, given what reading the file came to. -/
def load (number : Nat) (path : Path) (contents : Except FileError Bytes) :
    Except LoadError Source :=
  match contents with
  | .error e => .error (.file e)
  | .ok bytes => (ofBytes number (.file path) bytes).mapError .encoding

end Source

end LoxReader
