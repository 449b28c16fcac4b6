import LoxReader.Command.Run

namespace LoxReader

def usage : String :=
  "Usage: lox-reader [--dump-tokens] FILE\n\n" ++
  "Reads a file of Lox source and prints what is wrong with it.\n\n" ++
  "  --dump-tokens  print every token with its location\n" ++
  "  -h, --help     print this text\n"

/-- Codes of a failed call come with either sign. -/
def FileError.ofIOError : IO.Error → FileError
  | .noFileOrDirectory .. => .notFound
  | .inappropriateType _ code details =>
      if code = 20 ∨ code = -20 then .notDirectory
      else if code = 21 ∨ code = -21 then .isDirectory
      else .other details
  | e => .other (toString e)

def readFile (name : String) : IO (Except FileError Text.Bytes) := do
  try
    return .ok (← IO.FS.readBinFile name).toList
  catch e =>
    return .error (.ofIOError e)

def execute (request : Request) : IO UInt32 := do
  let contents ← readFile (String.ofList request.file.display)
  let outcome := request.run (Source.load 0 request.file contents)
  IO.print (String.ofList outcome.stdout)
  IO.eprint (String.ofList outcome.stderr)
  return if outcome.success then 0 else 1

end LoxReader

def main (arguments : List String) : IO UInt32 := do
  match LoxReader.Request.parse (arguments.map String.toList) with
  | .ok request => LoxReader.execute request
  | .error .helpRequested =>
      IO.print LoxReader.usage
      return 0
  | .error e =>
      IO.eprint ("error: " ++ String.ofList e.message ++ "\n\n" ++ LoxReader.usage)
      return 2
