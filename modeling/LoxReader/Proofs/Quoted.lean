import LoxReader.Source.Uuid
import LoxReader.Text.Quoted

/-!
Quoted text can be read back. Nothing is asked of the characters that are written as code points:
any of them may be, and any may stand for itself.
-/

namespace LoxReader.Text

/-- The characters that are always escaped, by a sign of their own. -/
def escaped : Text := ['"', '\\', '\t', '\r', '\n', '\x00']

/-- The forms in which a character may stand in quoted text. -/
inductive Escapes : Char → Text → Prop
  | quote : Escapes '"' ['\\', '"']
  | backslash : Escapes '\\' ['\\', '\\']
  | tab : Escapes '\t' ['\\', 't']
  | carriageReturn : Escapes '\r' ['\\', 'r']
  | lineFeed : Escapes '\n' ['\\', 'n']
  | nul : Escapes '\x00' ['\\', '0']
  | codePoint {c : Char} : c ∉ escaped → Escapes c (escapeCodePoint c)
  | plain {c : Char} : c ∉ escaped → Escapes c [c]

inductive EscapesAll : Text → Text → Prop
  | nil : EscapesAll [] []
  | cons {c : Char} {t e body : Text} : Escapes c e → EscapesAll t body →
      EscapesAll (c :: t) (e ++ body)

def Quotes (t quoted : Text) : Prop := ∃ body, EscapesAll t body ∧ quoted = '"' :: body ++ ['"']

theorem escapes_escape (c : Char) : Escapes c (escape c) := by
  unfold escape
  split
  · exact .quote
  · exact .backslash
  · exact .tab
  · exact .carriageReturn
  · exact .lineFeed
  · exact .nul
  · have hc : c ∉ escaped := by simp_all [escaped]
    split
    · exact .codePoint hc
    · exact .plain hc

theorem quotes_quote (t : Text) : Quotes t (quote t) := by
  refine ⟨t.flatMap escape, ?_, rfl⟩
  induction t with
  | nil => exact .nil
  | cons c t ih => exact .cons (escapes_escape c) ih

/-- The text in front of the first `c` in a text, and the text behind it. -/
def cutAt (c : Char) (t : Text) : Text × Text :=
  (t.takeWhile (· != c), (t.dropWhile (· != c)).tail)

theorem cutAt_append {c : Char} {x : Text} (h : c ∉ x) (t : Text) :
    cutAt c (x ++ c :: t) = (x, t) := by
  have hx : ∀ d ∈ x, (d != c) = true := by
    intro d hd
    have hne : d ≠ c := fun heq => h (heq ▸ hd)
    simpa using hne
  rw [cutAt, List.takeWhile_append_of_pos hx, List.dropWhile_append_of_pos hx]
  simp

theorem length_cutAt (c : Char) (t : Text) : (cutAt c t).2.length ≤ t.length := by
  have hdrop := (List.dropWhile_sublist (· != c) (l := t)).length_le
  simp only [cutAt, List.length_tail]
  omega

def hexValue (t : Text) : Nat :=
  t.foldl (fun n c => 16 * n + (Uuid.hexDigit? c).elim 0 Fin.val) 0

theorem exists_of_mem_toDigits {n : Nat} {c : Char} (h : c ∈ Nat.toDigits 16 n) :
    ∃ d : Fin 16, c = Uuid.hexDigit d := by
  induction n using Nat.strongRecOn with
  | ind n ih =>
    rw [Nat.toDigits_eq_if (by decide)] at h
    split at h
    · next hn => exact ⟨⟨n, hn⟩, List.mem_singleton.mp h⟩
    · rcases List.mem_append.mp h with h | h
      · exact ih (n / 16) (by omega) h
      · exact ⟨⟨n % 16, Nat.mod_lt n (by decide)⟩, List.mem_singleton.mp h⟩

theorem not_mem_toDigits {c : Char} (hc : ∀ d, Uuid.hexDigit d ≠ c) (n : Nat) :
    c ∉ Nat.toDigits 16 n := by
  intro h
  obtain ⟨d, rfl⟩ := exists_of_mem_toDigits h
  exact hc d rfl

theorem hexValue_toDigits (n : Nat) : hexValue (Nat.toDigits 16 n) = n := by
  have hdigit : ∀ d : Fin 16, (Uuid.hexDigit? (Nat.digitChar d)).elim 0 Fin.val = d.val := by
    intro d
    exact congrArg (fun o => o.elim 0 Fin.val) (Uuid.hexDigit?_hexDigit d)
  induction n using Nat.strongRecOn with
  | ind n ih =>
    rw [Nat.toDigits_eq_if (by decide)]
    split
    · next hn => simpa [hexValue] using hdigit ⟨n, hn⟩
    · have hhigh := ih (n / 16) (by omega)
      have hlow := hdigit ⟨n % 16, Nat.mod_lt n (by decide)⟩
      simp only [hexValue] at hhigh ⊢
      rw [List.foldl_append, hhigh, List.foldl_cons, List.foldl_nil, hlow]
      exact Nat.div_add_mod n 16

def signed? : Char → Option Char
  | '"' => some '"'
  | '\\' => some '\\'
  | 't' => some '\t'
  | 'r' => some '\r'
  | 'n' => some '\n'
  | '0' => some '\x00'
  | _ => none

/-- The character at the front of quoted text and the text behind its form. -/
def readChar? : Text → Option (Char × Text)
  | '\\' :: 'u' :: '\x7b' :: t =>
      some (Char.ofNat (hexValue (cutAt '\x7d' t).1), (cutAt '\x7d' t).2)
  | '\\' :: c :: t => (signed? c).map fun d => (d, t)
  | ['\\'] => none
  | '"' :: _ => none
  | c :: t => some (c, t)
  | [] => none

theorem length_of_readChar? {t rest : Text} {c : Char} (h : readChar? t = some (c, rest)) :
    rest.length < t.length := by
  unfold readChar? at h
  split at h
  · next t =>
    have hcut := length_cutAt '\x7d' t
    simp only [Option.some.injEq, Prod.mk.injEq] at h
    simp only [← h.2, List.length_cons]
    omega
  · obtain ⟨d, -, hd⟩ := Option.map_eq_some_iff.mp h
    simp only [Prod.mk.injEq] at hd
    simp only [← hd.2, List.length_cons]
    omega
  · cases h
  · cases h
  · cases h
    exact Nat.lt_succ_self _
  · cases h

/-- Reads quoted text behind its first quote. -/
def readQuoted? (t : Text) : Option Text :=
  match h : readChar? t with
  | some (c, rest) =>
      have := length_of_readChar? h
      (readQuoted? rest).map (c :: ·)
  | none => if t = ['"'] then some [] else none
termination_by t.length

theorem readQuoted?_of_readChar? {t rest : Text} {c : Char} (h : readChar? t = some (c, rest)) :
    readQuoted? t = (readQuoted? rest).map (c :: ·) := by
  rw [readQuoted?]
  split <;> simp_all

theorem readChar?_of_escapes {c : Char} {e : Text} (h : Escapes c e) (t : Text) :
    readChar? (e ++ t) = some (c, t) := by
  cases h with
  | codePoint hc =>
    have hcut : cutAt '\x7d' (Nat.toDigits 16 c.toNat ++ '\x7d' :: t)
        = (Nat.toDigits 16 c.toNat, t) := cutAt_append (not_mem_toDigits (by decide) _) t
    simp [escapeCodePoint, readChar?, hcut, hexValue_toDigits]
  | plain hc =>
    simp only [escaped, List.mem_cons, not_or] at hc
    unfold readChar?
    split <;> simp_all
  | _ => rfl

theorem readQuoted?_of_escapesAll {t body : Text} (h : EscapesAll t body) :
    readQuoted? (body ++ ['"']) = some t := by
  induction h with
  | nil =>
    rw [readQuoted?]
    rfl
  | cons hc _ ih =>
    rw [List.append_assoc, readQuoted?_of_readChar? (readChar?_of_escapes hc _), ih]
    rfl

theorem not_mem_of_escapes {c : Char} {e : Text} (h : Escapes c e) : '\n' ∉ e := by
  cases h with
  | codePoint hc =>
    have hdigits := not_mem_toDigits (c := '\n') (by decide) c.toNat
    simp [escapeCodePoint, hdigits]
  | plain hc =>
    intro hmem
    obtain rfl := List.mem_singleton.mp hmem
    exact hc (by decide)
  | _ => decide

theorem not_mem_of_quotes {t quoted : Text} (h : Quotes t quoted) : '\n' ∉ quoted := by
  obtain ⟨body, hbody, rfl⟩ := h
  have hinside : '\n' ∉ body := by
    induction hbody with
    | nil => simp
    | cons hc _ ih => simp [not_mem_of_escapes hc, ih]
  simp [hinside]

end LoxReader.Text
