import LoxReader.Proofs.Dump
import LoxReader.Proofs.ReportText
import LoxReader.Proofs.Terminal

/-!
What a run of the program says on its two streams, down to the text that a terminal shows: a dump
on the one if it is asked for, and on the other a report for each fault of the file or one message.
-/

namespace LoxReader

open Text

/-- A text that is a message and the end of its line, which a terminal shows behind a label. -/
structure Message.IsLine (m : Message) (label out : Text) : Prop where
  encoded : out = m.render.encode ++ ['\n']
  shown : '\x1B' ∉ m.text → Terminal.shown out = label ++ m.text ++ ['\n']

theorem Message.isLine (severity : Severity) (text : Text) {label : Text}
    (hlabel : severity.label.toList ++ [' '] = label) :
    IsLine ⟨severity, text⟩ label ((Message.mk severity text).render.encode ++ ['\n']) := by
  refine ⟨rfl, fun htext => ?_⟩
  have hvisible : '\x1B' ∉ severity.label.toList := by
    cases severity with
    | error => decide
    | info => decide
    | warning => decide
  have hescape : '\x1B' ∉ (Message.mk severity text).render.text := by
    rw [text_render]
    simpa [hvisible] using htext
  rw [Terminal.shown_encode hescape, text_render, ← hlabel, List.append_assoc _ [' ']]
  rfl

namespace Request

end Request

end LoxReader
