import LoxReader.Proofs.Lines
import LoxReader.Proofs.Placement
import Mathlib.Data.List.Forall2

/-!
A line break may be written as a line feed or as a pair of carriage return and line feed. The tokens
of a text, the lines and columns where they stand and what is wrong with them do not depend on it.
-/

namespace LoxReader

open Text Unicode Mark

namespace Text

/-- A text with a pair for each line feed. -/
def crlf (t : Text) : Text := t.flatMap fun c => if c = '\n' then ['\r', '\n'] else [c]

@[simp]
theorem crlf_nil : crlf [] = [] := rfl

@[simp]
theorem crlf_newline (t : Text) : crlf ('\n' :: t) = '\r' :: '\n' :: crlf t := rfl

theorem crlf_cons {c : Char} (hc : c ≠ '\n') (t : Text) : crlf (c :: t) = c :: crlf t := by
  simp [crlf, hc]

@[simp]
theorem crlf_append (s t : Text) : crlf (s ++ t) = crlf s ++ crlf t := List.flatMap_append

theorem crlf_flatten (ls : List Text) : crlf ls.flatten = (ls.map crlf).flatten := by
  induction ls with
  | nil => rfl
  | cons line ls ih => rw [List.flatten_cons, crlf_append, ih, List.map_cons, List.flatten_cons]

theorem crlf_eq_self {t : Text} (h : '\n' ∉ t) : crlf t = t := by
  induction t with
  | nil => rfl
  | cons c t ih =>
    simp only [List.mem_cons, not_or] at h
    rw [crlf_cons (Ne.symm h.1), ih h.2]

theorem head?_crlf (t : Text) :
    (crlf t).head? = t.head?.map fun c => if c = '\n' then '\r' else c := by
  cases t with
  | nil => rfl
  | cons c t =>
    by_cases hc : c = '\n'
    · subst hc
      rfl
    · simp [crlf_cons hc, hc]

theorem forall_head?_crlf {P : Char → Prop} (hr : P '\r') {t : Text}
    (h : ∀ c ∈ t.head?, P c) : ∀ c ∈ (crlf t).head?, P c := by
  intro c hc
  rw [head?_crlf] at hc
  obtain ⟨d, hd, rfl⟩ := Option.map_eq_some_iff.mp hc
  split
  · exact hr
  · exact h d hd

theorem crlf_eq_nil_iff {t : Text} : crlf t = [] ↔ t = [] := by
  rw [← List.head?_eq_none_iff, head?_crlf, Option.map_eq_none_iff, List.head?_eq_none_iff]

theorem mem_crlf_iff {c : Char} (hr : c ≠ '\r') {t : Text} : c ∈ crlf t ↔ c ∈ t := by
  induction t with
  | nil => simp
  | cons d t ih =>
    by_cases hd : d = '\n'
    · subst hd
      simp [ih, hr]
    · simp [crlf_cons hd, ih]

theorem endsLine_crlf {c : Char} (hc : c ≠ '\r') (line : Text) :
    endsLine c (crlf line) = endsLine c line := by
  have hfalse : (c == '\r') = false := beq_false_of_ne hc
  simp only [endsLine, hfalse, Bool.false_and]

theorem consLine_crlf {c : Char} (hr : c ≠ '\r') (hn : c ≠ '\n') (ls : List Text) :
    consLine c (ls.map crlf) = (consLine c ls).map crlf := by
  cases ls with
  | nil => simp [consLine, crlf_cons hn]
  | cons line ls =>
    rw [List.map_cons, consLine, consLine, endsLine_crlf hr]
    split <;> simp [crlf_cons hn]

theorem consLine_pair (ls : List Text) (hls : ls ≠ []) :
    consLine '\r' (consLine '\n' (ls.map crlf)) = (consLine '\n' ls).map crlf := by
  obtain ⟨line, ls, rfl⟩ := List.exists_cons_of_ne_nil hls
  rfl

theorem lines_crlf {t : Text} (h : '\r' ∉ t) : lines (crlf t) = (lines t).map crlf := by
  induction t with
  | nil => rfl
  | cons c t ih =>
    simp only [List.mem_cons, not_or] at h
    have htail := ih h.2
    by_cases hc : c = '\n'
    · subst hc
      rw [crlf_newline, lines_cons, lines_cons, htail, lines_cons, consLine_pair _ (lines_ne_nil t)]
    · rw [crlf_cons hc, lines_cons, lines_cons, htail, consLine_crlf (Ne.symm h.1) hc]

theorem isCut_crlf {t left right : Text} {above below : List Text} (hr : '\r' ∉ t)
    (h : IsCut t above left right below) :
    IsCut (crlf t) (above.map crlf) (crlf left) (crlf right) (below.map crlf) := by
  refine ⟨?_, fun hnil => ?_⟩
  · rw [lines_crlf hr, h.lines_eq]
    simp
  · rw [h.inside (crlf_eq_nil_iff.mp hnil), List.map_nil]

theorem newline_not_mem_left {t left right : Text} {above below : List Text}
    (h : IsCut t above left right below) : '\n' ∉ left := by
  intro hmem
  rcases h.open_left with hleft | ⟨-, body, rfl, hbody⟩
  · exact absurd (hleft _ hmem) (by decide)
  · have hin : '\n' ∈ body := by simpa using hmem
    exact absurd (hbody _ hin) (by decide)

end Text

namespace Source

theorem lineCount_crlf {s s' : Source} (hr : '\r' ∉ s.text) (h : s'.text = crlf s.text) :
    s'.lineCount = s.lineCount := by
  rw [lineCount_eq, lineCount_eq, h, lines_crlf hr, List.length_map]

theorem location_crlf {s s' : Source} (hr : '\r' ∉ s.text) (h : s'.text = crlf s.text)
    {front after : Text} (hparts : s.text = front ++ after) :
    Position.location ⟨s', byteLength (crlf front)⟩ = Position.location ⟨s, byteLength front⟩ := by
  obtain ⟨above, left, right, below, hcut, rfl⟩ := exists_cut hparts
  have hcut' := isCut_crlf hr hcut
  rw [← h] at hcut'
  rw [crlf_append, crlf_flatten, location_of_cut hcut', location_of_cut hcut, List.length_map,
    crlf_eq_self (newline_not_mem_left hcut)]

end Source

namespace Mark

/-- The marks of a line feed written as a pair. -/
def crlf : Mark → List Mark
  | plain c => if c = '\n' then [plain '\r', plain '\n'] else [plain c]
  | m => [m]

theorem iff_crlf {P : Int → List Mark → Prop}
    (hcons : ∀ d m ms, P d (m :: ms) ↔ 0 < d ∧ P (d + m.weight) ms) {d : Int} {ms : List Mark} :
    P d (ms.flatMap crlf) ↔ P d ms := by
  induction ms generalizing d with
  | nil => rfl
  | cons m ms ih =>
    rw [List.flatMap_cons, hcons]
    cases m with
    | opening => exact (hcons ..).trans (and_congr_right' ih)
    | closing => exact (hcons ..).trans (and_congr_right' ih)
    | plain c =>
      by_cases hc : c = '\n'
      · simp only [crlf, if_pos hc, List.cons_append, List.nil_append, hcons, weight,
          Int.add_zero, ih, and_self_left]
      · simp only [crlf, if_neg hc, List.cons_append, List.nil_append, hcons, weight, ih]

end Mark

theorem Text.head?_crlf_eq_iff {c : Char} (hr : c ≠ '\r') (hn : c ≠ '\n') {t : Text} :
    (Text.crlf t).head? = some c ↔ t.head? = some c := by
  rw [head?_crlf]
  cases t with
  | nil => simp
  | cons d t =>
    by_cases hd : d = '\n'
    · simp [hd, Ne.symm hr, Ne.symm hn]
    · simp [hd]

theorem Text.marks_crlf (t : Text) : marks (Text.crlf t) = (marks t).flatMap Mark.crlf := by
  fun_induction marks t with
  | case1 t ih =>
    rw [Text.crlf_cons (by decide), Text.crlf_cons (by decide), marks, ih]
    rfl
  | case2 t ih =>
    rw [Text.crlf_cons (by decide), Text.crlf_cons (by decide), marks, ih]
    rfl
  | case3 c t hopen hclose ih =>
    by_cases hc : c = '\n'
    · subst hc
      rw [Text.crlf_newline, marks_plain (by simp) (by simp), marks_plain (by simp) (by simp), ih]
      rfl
    · rw [Text.crlf_cons hc, marks_plain, ih]
      · simp [Mark.crlf, hc]
      · intro hslash hhead
        rw [Text.head?_crlf_eq_iff (by decide) (by decide)] at hhead
        obtain ⟨u, rfl⟩ := List.head?_eq_some_iff.mp hhead
        exact hopen u hslash rfl
      · intro hstar hhead
        rw [Text.head?_crlf_eq_iff (by decide) (by decide)] at hhead
        obtain ⟨u, rfl⟩ := List.head?_eq_some_iff.mp hhead
        exact hclose u hstar rfl
  | case4 => rfl

theorem blockComment_crlf {c : Text} (h : BlockComment c) : BlockComment (Text.crlf c) := by
  obtain ⟨body, rfl, hbody⟩ := blockComment_iff.mp h
  rw [Text.crlf_cons (by decide), Text.crlf_cons (by decide)]
  refine blockComment_iff.mpr ⟨Text.crlf body, rfl, ?_⟩
  rw [marks_crlf, Mark.iff_crlf fun _ _ _ => closes_cons]
  exact hbody

theorem openComment_crlf {c : Text} (h : OpenComment c) : OpenComment (Text.crlf c) := by
  obtain ⟨body, rfl, hbody⟩ := openComment_iff.mp h
  rw [Text.crlf_cons (by decide), Text.crlf_cons (by decide)]
  refine openComment_iff.mpr ⟨Text.crlf body, rfl, ?_⟩
  rw [marks_crlf, Mark.iff_crlf fun _ _ _ => stays_cons]
  exact hbody

namespace Trivia

theorem gap_crlf_of_item {item rest : Text} (h : Item rest item) :
    Gap (Text.crlf rest) (Text.crlf item) := by
  cases h with
  | @whiteSpace c hc =>
    by_cases hn : c = '\n'
    · -- the one item becomes two
      subst hn
      show Gap _ (['\r'] ++ ['\n'])
      exact .cons (.whiteSpace (by decide)) (gap_of_item (.whiteSpace (by decide)))
    · rw [Text.crlf_cons hn]
      exact gap_of_item (.whiteSpace hc)
  | @lineComment body hbody hrest =>
    have hfree : '\n' ∉ body := fun hmem => absurd (hbody _ hmem) (by decide)
    rw [Text.crlf_cons (by decide), Text.crlf_cons (by decide), Text.crlf_eq_self hfree]
    exact gap_of_item (.lineComment hbody (Text.forall_head?_crlf (by decide) hrest))
  | blockComment hc => exact gap_of_item (.blockComment (blockComment_crlf hc))

theorem gap_crlf {gap after : Text} (h : Gap after gap) :
    Gap (Text.crlf after) (Text.crlf gap) := by
  induction h with
  | nil => exact .nil
  | cons hitem _ ih =>
    have hfirst := gap_crlf_of_item hitem
    rw [Text.crlf_append] at hfirst ⊢
    exact gap_append hfirst ih

end Trivia

namespace Lexeme

theorem isRun_crlf {p : Char → Bool} {x after : Text} (hp : ∀ c, isWhiteSpace c → p c = false)
    (h : IsRun p x after) : Text.crlf x = x ∧ IsRun p x (Text.crlf after) := by
  refine ⟨Text.crlf_eq_self fun hmem => ?_, h.1,
    Text.forall_head?_crlf (hp '\r' (by decide)) h.2⟩
  have htrue := h.1 '\n' hmem
  rw [hp '\n' (by decide)] at htrue
  cases htrue

theorem munch_crlf {k : Kind} {x after : Text} (h : Munch k x after) :
    Munch k (Text.crlf x) (Text.crlf after) := by
  cases h with
  | word hc hrun hk =>
    obtain ⟨hx, hrun⟩ := isRun_crlf (fun _ => isWordChar_of_isWhiteSpace) hrun
    rw [hx]
    exact .word hc hrun hk
  | number hc hrun hcount =>
    obtain ⟨hx, hrun⟩ := isRun_crlf (fun _ => isNumberChar_of_isWhiteSpace) hrun
    rw [hx]
    exact .number hc hrun hcount
  | invalidNumber hc hrun hcount =>
    obtain ⟨hx, hrun⟩ := isRun_crlf (fun _ => isNumberChar_of_isWhiteSpace) hrun
    rw [hx]
    exact .invalidNumber hc hrun hcount
  | string hbody =>
    rw [Text.crlf_cons (by decide), Text.crlf_append]
    exact .string (by rwa [Text.mem_crlf_iff (by decide)])
  | unterminatedString hbody =>
    rw [Text.crlf_cons (by decide)]
    exact .unterminatedString (by rwa [Text.mem_crlf_iff (by decide)])
  | unterminatedComment hx => exact .unterminatedComment (openComment_crlf hx)
  | operator hc hline hblock hrun hk =>
    obtain ⟨hx, hrun⟩ := isRun_crlf (fun _ => isOperatorChar_of_isWhiteSpace) hrun
    rw [hx]
    exact .operator hc hline hblock hrun hk
  | @sign c _ _ halpha hdigit hquote hop hw hk =>
    have hn : c ≠ '\n' := by
      rintro rfl
      exact absurd hw (by decide)
    rw [Text.crlf_cons hn]
    exact .sign halpha hdigit hquote hop hw hk

end Lexeme

/-- The same token of a text and of one with pairs for line feeds. -/
structure Token.SameButLineEnds (t t' : Token) : Prop where
  kind : t'.kind = t.kind
  start : t'.span.startLocation = t.span.startLocation
  stop : t'.span.stopLocation = t.span.stopLocation
  text : t'.text = Text.crlf t.text

theorem Placed.crlf {s s' : Source} {front : Text} {ts : List Token} (hr : '\r' ∉ s.text)
    (h : s'.text = Text.crlf s.text) (hplaced : Placed s front ts) :
    ∃ ts', Placed s' (Text.crlf front) ts' ∧ List.Forall₂ Token.SameButLineEnds ts ts' := by
  induction hplaced with
  | done hparts hgap =>
    refine ⟨[], .done ?_ (Trivia.gap_crlf hgap), .nil⟩
    rw [h, hparts, Text.crlf_append]
  | @token front gap x after k ts hparts hgap hmunch _ ih =>
    obtain ⟨ts', hplaced', hsame⟩ := ih
    have hparts' : s'.text = Text.crlf (front ++ gap) ++ Text.crlf x ++ Text.crlf after := by
      rw [h, hparts, Text.crlf_append, Text.crlf_append]
    have hgap' := Trivia.gap_crlf hgap
    simp only [Text.crlf_append] at hparts' hgap' hplaced'
    refine ⟨_, .token hparts' hgap' (Lexeme.munch_crlf hmunch) hplaced', .cons ?_ hsame⟩
    refine ⟨rfl, ?_, ?_, ?_⟩
    · have hstart := Source.location_crlf hr h (hparts.trans (List.append_assoc ..))
      rwa [Text.crlf_append] at hstart
    · have hstop := Source.location_crlf hr h hparts
      rwa [Text.crlf_append, Text.crlf_append] at hstop
    · rw [Token.text, Token.text, Source.text_of_parts hparts, Source.text_of_parts hparts']

theorem Source.tokens_crlf (s s' : Source) (hr : '\r' ∉ s.text) (h : s'.text = Text.crlf s.text) :
    s'.lineCount = s.lineCount ∧ s'.tokens.length = s.tokens.length
      ∧ List.Forall₂ Token.SameButLineEnds s.tokens s'.tokens
      ∧ List.Forall₂ Token.SameButLineEnds (s.tokens.filter Token.isError)
        (s'.tokens.filter Token.isError) := by
  obtain ⟨ts', hplaced', hsame⟩ := (Placed.of_source s).crlf hr h
  obtain rfl := hplaced'.eq_tokens
  refine ⟨lineCount_crlf hr h, hsame.length_eq.symm, hsame, List.rel_filter ?_ hsame⟩
  intro t t' htoken
  show t.isError = true ↔ t'.isError = true
  simp only [Token.isError, htoken.kind]

theorem Source.tokens_crlf_of_unclosed_string :
    let t := "é// \n\t%%\n\"\n".toList
    let t' := "é// \r\n\t%%\r\n\"\r\n".toList
    let s : Source := { number := 0, origin := .synthesized [], text := t }
    let s' : Source := { number := 1, origin := .synthesized [], text := t' }
    '\r' ∉ s.text ∧ s'.text = Text.crlf s.text
      ∧ s'.lineCount = s.lineCount ∧ s'.tokens.length = s.tokens.length
      ∧ List.Forall₂ Token.SameButLineEnds s.tokens s'.tokens
      ∧ List.Forall₂ Token.SameButLineEnds (s.tokens.filter Token.isError)
        (s'.tokens.filter Token.isError) := by
  intro t t' s s'
  have hr : '\r' ∉ s.text := by decide
  exact ⟨hr, rfl, tokens_crlf s s' hr rfl⟩

end LoxReader
