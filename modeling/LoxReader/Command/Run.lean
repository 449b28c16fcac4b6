import LoxReader.Command.Arguments
import LoxReader.Report.Diagnostic
import LoxReader.Source.Load

/-!
The program: reads a source, prints what is wrong with it and, on request, its tokens.
-/

namespace LoxReader

open Text

structure Outcome where
  stdout : Text
  stderr : Text
  success : Bool
  deriving DecidableEq, Repr

structure Printer where
  messages : Array Text := #[]
  printed : Bool := false

namespace Printer

def print (printer : Printer) (s : Styled) : Printer :=
  ⟨printer.messages.push (s.encode ++ ['\n']), true⟩

def output (printer : Printer) : Text := printer.messages.toList.flatten

instance : Collector Printer Diagnostic where
  receive printer diagnostic := printer.print diagnostic.render

end Printer

namespace Token

def dump (t : Token) : Text :=
  t.span.startLocation.display ++ ' ' :: t.kind.describe.toList ++ ' ' :: quote t.text ++ ['\n']

end Token

namespace Request

def failure (r : Request) (e : LoadError) : Message :=
  ⟨.error, r.file.display ++ ": ".toList ++ e.message.toList⟩

def summary (source : Source) (tokens : List Token) : Message :=
  ⟨.info, source.origin.display ++ ": ".toList
    ++ s!"{tokens.length} token(s) over {source.lineCount} line(s)".toList⟩

def run (r : Request) (loaded : Except LoadError Source) : Outcome :=
  match loaded with
  | .error e => ⟨[], (r.failure e).render.encode ++ ['\n'], false⟩
  | .ok source =>
      let (tokens, printer) := source.tokenize ({} : Printer)
      let stdout := if r.dumpTokens then tokens.flatMap Token.dump else []
      if printer.printed then ⟨stdout, printer.output, false⟩
      else ⟨stdout, (summary source tokens).render.encode ++ ['\n'], true⟩

end Request

end LoxReader
