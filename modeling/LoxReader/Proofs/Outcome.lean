import LoxReader.Command.Run
import LoxReader.Proofs.Encoding
import LoxReader.Proofs.Reports

/-!
What a run of the program comes to: its success and what it says are settled by the tokens of the
file alone, and the dump is all that the switch changes.
-/

namespace LoxReader

open Text

namespace Source

end Source

namespace Diagnostic

def line (d : Diagnostic) : Text := d.render.encode ++ ['\n']

end Diagnostic

namespace Printer

theorem output_receiveAll (printer : Printer) (ds : List Diagnostic) :
    (Collector.receiveAll printer ds).output = printer.output ++ ds.flatMap Diagnostic.line := by
  unfold Collector.receiveAll
  induction ds generalizing printer with
  | nil => simp
  | cons d ds ih =>
    have hone : (Collector.receive printer d).output = printer.output ++ d.line := by
      simp [Collector.receive, print, output, Diagnostic.line]
    rw [List.foldl_cons, ih, hone, List.flatMap_cons, List.append_assoc]

theorem printed_receiveAll (printer : Printer) (ds : List Diagnostic) :
    (Collector.receiveAll printer ds).printed = (printer.printed || !ds.isEmpty) := by
  unfold Collector.receiveAll
  induction ds generalizing printer with
  | nil => simp
  | cons d ds ih =>
    rw [List.foldl_cons, ih]
    simp [Collector.receive, print]

end Printer

namespace Request

/-- What is said about the tokens of a source: a line for each fault or, where there is none, the
summary. -/
def report (source : Source) (reports : List Diagnostic) : Text :=
  if reports.isEmpty then (summary source source.tokens).render.encode ++ ['\n']
  else reports.flatMap Diagnostic.line

theorem run_ok (r : Request) (source : Source) :
    r.run (.ok source) =
      ⟨if r.dumpTokens then source.tokens.flatMap Token.dump else [],
        report source (source.tokens.filterMap Diagnostic.ofToken?),
        (source.tokens.filterMap Diagnostic.ofToken?).isEmpty⟩ := by
  have hprinted := Printer.printed_receiveAll {} (source.tokens.filterMap Diagnostic.ofToken?)
  have houtput := Printer.output_receiveAll {} (source.tokens.filterMap Diagnostic.ofToken?)
  simp only [run, Source.tokenize, hprinted, houtput, report]
  cases (source.tokens.filterMap Diagnostic.ofToken?).isEmpty <;> rfl

end Request

end LoxReader
