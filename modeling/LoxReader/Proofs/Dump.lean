import LoxReader.Proofs.Outcome
import LoxReader.Proofs.Quoted

/-!
The dump can be read back: it has one line for each token, and the line says where the token
starts, its kind and its text.
-/

namespace LoxReader

open Text

theorem Kind.not_mem_describe (k : Kind) : '"' ∉ k.describe.toList ∧ '\n' ∉ k.describe.toList := by
  have hall : ∀ k ∈ all, '"' ∉ k.describe.toList ∧ '\n' ∉ k.describe.toList := by decide +kernel
  exact hall k k.mem_all

namespace Token

/-- What the dump says of a token. -/
structure Entry where
  location : Location
  kind : Kind
  text : Text
  deriving DecidableEq, Repr

def entry (t : Token) : Entry := ⟨t.span.startLocation, t.kind, t.text⟩

/-- A line of the dump, for any choice of the characters that are written as code points. -/
def Shown (t : Token) (line : Text) : Prop :=
  ∃ quoted, Quotes t.text quoted
    ∧ line = t.span.startLocation.display ++ ' ' :: t.kind.describe.toList ++ ' ' :: quoted

theorem Shown.newline_not_mem {t : Token} {line : Text} (h : t.Shown line) : '\n' ∉ line := by
  obtain ⟨quoted, hquoted, rfl⟩ := h
  have hplace := t.span.startLocation.not_mem_display (c := '\n') (by decide) (by decide)
  have hkind := t.kind.not_mem_describe.2
  have htext := not_mem_of_quotes hquoted
  simp [hplace, hkind, htext]

namespace Entry

def readLocation (place : Text) : Location :=
  ⟨Nat.ofDigitChars 10 (cutAt ':' place).1 0, Nat.ofDigitChars 10 (cutAt ':' place).2 0⟩

theorem readLocation_display (l : Location) : readLocation l.display = l := by
  have hcut : cutAt ':' l.display = (ofNat l.line, ofNat l.column) :=
    cutAt_append (not_mem_ofNat (by decide) l.line) _
  simp only [readLocation, hcut, ofNat, Nat.ofDigitChars_ten_toDigits]

def readKind? (described : Text) : Option Kind :=
  Kind.all.find? fun k => k.describe.toList = described

theorem readKind?_describe (k : Kind) : readKind? k.describe.toList = some k := by
  have hall : ∀ k ∈ Kind.all, readKind? k.describe.toList = some k := by decide +kernel
  exact hall k k.mem_all

/-- Reads a line of the dump. The first blank ends the location and the first quote starts the
text. -/
def read? (line : Text) : Option Entry := do
  let (place, rest) := cutAt ' ' line
  let (described, quoted) := cutAt '"' rest
  let kind ← readKind? described.dropLast
  let text ← readQuoted? quoted
  pure ⟨readLocation place, kind, text⟩

theorem read?_of_shown {t : Token} {line : Text} (h : t.Shown line) :
    read? line = some t.entry := by
  obtain ⟨_, ⟨body, hbody, rfl⟩, rfl⟩ := h
  have hplace : cutAt ' ' (t.span.startLocation.display ++ ' ' :: t.kind.describe.toList
      ++ ' ' :: ('"' :: body ++ ['"']))
        = (t.span.startLocation.display,
          t.kind.describe.toList ++ [' '] ++ '"' :: (body ++ ['"'])) := by
    have hblank := t.span.startLocation.not_mem_display (c := ' ') (by decide) (by decide)
    simpa using cutAt_append hblank (t.kind.describe.toList ++ ' ' :: '"' :: (body ++ ['"']))
  have hkind : cutAt '"' (t.kind.describe.toList ++ [' '] ++ '"' :: (body ++ ['"']))
      = (t.kind.describe.toList ++ [' '], body ++ ['"']) := by
    refine cutAt_append ?_ _
    have hquote := t.kind.not_mem_describe.1
    simp [hquote]
  simp only [read?, hplace, hkind, List.dropLast_concat, readKind?_describe,
    readLocation_display, readQuoted?_of_escapesAll hbody]
  rfl

end Entry

/-- A dump of some tokens: their lines, each with its end. -/
inductive Dumps : List Token → Text → Prop
  | nil : Dumps [] []
  | cons {t : Token} {ts : List Token} {line out : Text} : t.Shown line → Dumps ts out →
      Dumps (t :: ts) (line ++ '\n' :: out)

theorem dumps_flatMap_dump (ts : List Token) : Dumps ts (ts.flatMap dump) := by
  induction ts with
  | nil => exact .nil
  | cons t ts ih =>
    have hshown : t.Shown (t.span.startLocation.display ++ ' ' :: t.kind.describe.toList
        ++ ' ' :: quote t.text) := ⟨quote t.text, quotes_quote t.text, rfl⟩
    have hcons := Dumps.cons hshown ih
    simpa [dump] using hcons

theorem Dumps.splitOn {ts : List Token} {out : Text} (h : Dumps ts out) :
    ∃ lines, out.splitOn '\n' = lines ++ [[]]
      ∧ lines.map Entry.read? = ts.map fun t => some t.entry := by
  induction h with
  | nil => exact ⟨[], List.splitOn_nil _, rfl⟩
  | @cons t ts line out hline _ ih =>
    obtain ⟨lines, hlines, hread⟩ := ih
    refine ⟨line :: lines, ?_, ?_⟩
    · rw [List.splitOn_append_cons_self_of_not_mem hline.newline_not_mem, hlines]
      rfl
    · rw [List.map_cons, List.map_cons, hread, Entry.read?_of_shown hline]

theorem Dumps.map_entry_eq {ts ts' : List Token} {out : Text} (h : Dumps ts out)
    (h' : Dumps ts' out) : ts.map entry = ts'.map entry := by
  obtain ⟨lines, hlines, hread⟩ := h.splitOn
  obtain ⟨lines', hlines', hread'⟩ := h'.splitOn
  have hsame : lines = lines' := by
    rw [hlines] at hlines'
    exact List.append_cancel_right hlines'
  subst hsame
  have hentry (ts : List Token) : (ts.map fun t => some t.entry) = (ts.map entry).map some :=
    List.map_map.symm
  rw [hread, hentry ts, hentry ts'] at hread'
  exact (List.map_inj_right fun _ _ => Option.some.inj).mp hread'

end Token

namespace Request

open Token

theorem dumps_stdout {r : Request} (h : r.dumpTokens) (source : Source) :
    Dumps source.tokens (r.run (.ok source)).stdout := by
  rw [run_ok, if_pos h]
  exact dumps_flatMap_dump source.tokens

theorem stdout_decodes (file : Path) (source : Source) :
    let stdout := (Request.run ⟨file, true⟩ (.ok source)).stdout
    Dumps source.tokens stdout
      ∧ (∀ out, Dumps source.tokens out → ∃ lines, out.splitOn '\n' = lines ++ [[]]
        ∧ lines.map Entry.read? = source.tokens.map fun t => some t.entry)
      ∧ (∀ (source' : Source) (out : Text), Dumps source.tokens out → Dumps source'.tokens out →
        source.tokens.map entry = source'.tokens.map entry)
      ∧ ∀ (file' : Path) (source' : Source),
        stdout = (Request.run ⟨file', true⟩ (.ok source')).stdout →
          source.tokens.map entry = source'.tokens.map entry := by
  intro stdout
  have hdumps : Dumps source.tokens stdout := dumps_stdout rfl source
  refine ⟨hdumps, fun out hout => hout.splitOn, fun source' out => Dumps.map_entry_eq, ?_⟩
  intro file' source' hsame
  have hdumps' := dumps_stdout (r := ⟨file', true⟩) rfl source'
  rw [← hsame] at hdumps'
  exact hdumps.map_entry_eq hdumps'

end Request

end LoxReader
