import LoxReader.Report.Styled

namespace LoxReader

inductive Severity where
  | error
  | info
  | warning
  deriving DecidableEq, Repr

namespace Severity

def color : Severity → Attribute
  | error => .red
  | info => .green
  | warning => .yellow

def label : Severity → String
  | error => "[error]:"
  | info => "[info]:"
  | warning => "[warning]:"

end Severity

structure Message where
  severity : Severity
  text : Text
  deriving DecidableEq, Repr

namespace Message

def render (m : Message) : Styled :=
  [⟨[.bold, m.severity.color], m.severity.label.toList⟩, .plain [' '], ⟨[.bold], m.text⟩]

theorem text_render (m : Message) : m.render.text = m.severity.label.toList ++ ' ' :: m.text := by
  simp [render, Styled.text, Fragment.plain]

end Message

end LoxReader
