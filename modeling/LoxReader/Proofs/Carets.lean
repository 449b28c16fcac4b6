import LoxReader.Proofs.ReportText
import LoxReader.Proofs.Terminal

/-!
What the report on a malformed token points at: the characters that it starts with, in the line
that holds them, with carets in the row below.
-/

namespace LoxReader

open Text Unicode

namespace Text

/-- A tab takes four cells of a row, any other character one. -/
def width : Text → Nat
  | [] => 0
  | c :: t => (if c = '\t' then 4 else 1) + width t

/-- A row from its first character that is no blank. -/
def unindent (row : Text) : Text := row.dropWhile (· == ' ')

def isCaretRow (row : Text) : Bool :=
  match unindent row with
  | '┃' :: shown => (unindent shown).head? == some '^'
  | _ => false

def isRemarkRow (row : Text) : Bool := (unindent row).head? == some '='

theorem unindent_replicate (n : Nat) (t : Text) :
    unindent (List.replicate n ' ' ++ t) = unindent t :=
  List.dropWhile_append_of_pos fun c hc => by simp [List.eq_of_mem_replicate hc]

theorem unindent_cons {c : Char} (hc : c ≠ ' ') (t : Text) : unindent (c :: t) = c :: t := by
  simp [unindent, hc]

theorem columns_eq_length {t : Text} (h : '\t' ∉ t) : columns t = t.length := by
  induction t with
  | nil => rfl
  | cons c t ih =>
    rw [List.mem_cons, not_or] at h
    have hc : ¬ (c == '\t') := by simpa using Ne.symm h.1
    rw [columns_cons, if_neg hc, ih h.2, List.length_cons, Nat.add_comm]

theorem columns_eq_width (t : Text) : columns t = t.width := by
  induction t with
  | nil => rfl
  | cons c t ih =>
    rw [columns_cons, ih, width]
    by_cases hc : c = '\t' <;> simp [hc]

theorem length_ofNat_le {m n : Nat} (h : m ≤ n) : (ofNat m).length ≤ (ofNat n).length := by
  have hpos : 0 < (ofNat n).length := Nat.length_toDigits_pos
  have hn := (Nat.length_toDigits_le_iff (b := 10) (n := n) (by decide) hpos).mp (Nat.le_refl _)
  exact (Nat.length_toDigits_le_iff (by decide) hpos).mpr (Nat.lt_of_le_of_lt h hn)

end Text

namespace Row

/-- Neither carets nor help. -/
def isPlain : Row → Bool
  | title .. | blank | line .. => true
  | carets .. | remark _ => false

theorem unindent_line (width n : Nat) (shown : Styled) :
    ∃ c rest, c.isDigit ∧ unindent ((line n shown).render width).text = c :: rest := by
  obtain ⟨c, digits, hdigits⟩ : ∃ c digits, ofNat n = c :: digits :=
    List.exists_cons_of_ne_nil Nat.toDigits_ne_nil
  have hc : c.isDigit := Nat.isDigit_of_mem_toDigits (n := n) (b := 10) (by decide) (by decide)
    (show c ∈ ofNat n by rw [hdigits]; exact List.mem_cons_self ..)
  have hblank : c ≠ ' ' := by
    rintro rfl
    exact absurd hc (by decide)
  refine ⟨c, digits ++ " ┃ ".toList ++ shown.text, hc, ?_⟩
  rw [text_render_line, text_gutter_some, hdigits, List.append_assoc, List.append_assoc,
    unindent_replicate, List.cons_append, unindent_cons hblank, List.append_assoc]

theorem not_isCaretRow_of_isPlain {row : Row} (h : row.isPlain) (width : Nat) :
    isCaretRow (row.render width).text = false ∧ isRemarkRow (row.render width).text = false := by
  cases row with
  | title origin start =>
    rw [isCaretRow, isRemarkRow, text_render_title]
    simp only [List.append_assoc, unindent_replicate]
    exact ⟨rfl, rfl⟩
  | blank =>
    rw [isCaretRow, isRemarkRow, render, text_gutter_none, unindent_replicate]
    exact ⟨by decide, by decide⟩
  | line n shown =>
    obtain ⟨c, rest, hc, hrow⟩ := unindent_line width n shown
    rw [isCaretRow, isRemarkRow, hrow]
    constructor
    · split
      · next heq =>
        obtain ⟨rfl, -⟩ := List.cons.inj heq
        exact absurd hc (by decide)
      · rfl
    · have hsign : c ≠ '=' := by
        rintro rfl
        exact absurd hc (by decide)
      simpa using hsign
  | carets indent count help => cases h
  | remark help => cases h

theorem isCaretRow_carets (width indent : Nat) {count : Nat} (hcount : 0 < count)
    (help : Option Text) :
    isCaretRow ((carets indent count help).render width).text
      ∧ isRemarkRow ((carets indent count help).render width).text = false := by
  have hbar (t : Text) : unindent (" ┃ ".toList ++ t) = '┃' :: ' ' :: t := rfl
  have hcarets (t : Text) :
      (unindent (' ' :: (List.replicate indent ' ' ++ (List.replicate count '^' ++ t)))).head?
        = some '^' := by
    obtain ⟨more, rfl⟩ := Nat.exists_eq_add_of_lt hcount
    have hfirst := unindent_replicate (indent + 1) (List.replicate (0 + more + 1) '^' ++ t)
    rw [List.replicate_succ, List.cons_append] at hfirst
    rw [hfirst, List.replicate_succ, List.cons_append, unindent_cons (by decide)]
    rfl
  rw [isCaretRow, isRemarkRow, text_render_carets, text_gutter_none]
  simp only [List.append_assoc, unindent_replicate, hbar, hcarets]
  exact ⟨rfl, rfl⟩

end Row

namespace Lexeme

/-- What a report shows of a malformed text, and the rest of it. -/
inductive Shown : Fault → Text → Text → Prop
  | invalid {x : Text} : x ≠ [] → (∀ c ∈ x, isWhiteSpace c = false) → Shown .invalid x []
  | string {body : Text} : Shown .unterminatedString ['"'] body
  | comment {body : Text} : Shown .unterminatedComment ['/', '*'] body

theorem shown_of_munch {f : Fault} {x after : Text} (h : Munch (.fault f) x after) :
    ∃ shown rest, x = shown ++ rest ∧ Shown f shown rest := by
  cases h with
  | word _ _ hk => cases eq_of_isSpelled_fault (by decide) hk
  | @invalidNumber c x _ _ hrun _ =>
    have hwhite := isWhiteSpace_eq_false_of_isRun (fun _ => isNumberChar_of_isWhiteSpace) hrun
    exact ⟨c :: x, [], by simp, .invalid (by simp) hwhite⟩
  | @unterminatedString body _ => exact ⟨['"'], body, rfl, .string⟩
  | unterminatedComment hopen =>
    obtain ⟨body, rfl⟩ := hopen.opens
    exact ⟨['/', '*'], body, rfl, .comment⟩
  | @operator c x _ _ _ _ _ hrun hk =>
    cases eq_of_isSpelled_fault (by decide) hk
    have hwhite := isWhiteSpace_eq_false_of_isRun (fun _ => isOperatorChar_of_isWhiteSpace) hrun
    exact ⟨c :: x, [], by simp, .invalid (by simp) hwhite⟩
  | @sign c _ _ _ _ _ _ hwhite hk =>
    cases eq_of_isSpelled_fault (by decide) hk
    exact ⟨[c], [], rfl, .invalid (by simp) (by simpa using hwhite)⟩

namespace Shown

variable {f : Fault} {shown rest : Text}

theorem ne_nil (h : Shown f shown rest) : shown ≠ [] := by
  cases h with
  | invalid hne _ => exact hne
  | string => simp
  | comment => simp

theorem isWhiteSpace_eq_false (h : Shown f shown rest) : ∀ c ∈ shown, isWhiteSpace c = false := by
  cases h with
  | invalid _ hwhite => exact hwhite
  | string =>
    rw [List.forall_mem_singleton]
    decide
  | comment =>
    rw [List.forall_mem_cons, List.forall_mem_singleton]
    exact ⟨by decide, by decide⟩

end Shown

end Lexeme

theorem Span.opening_of_parts {s : Source} {before shown rest after : Text}
    (h : s.text = before ++ (shown ++ rest) ++ after) :
    opening ⟨s, byteLength before, byteLength (before ++ (shown ++ rest))⟩ (byteLength shown)
      = ⟨s, byteLength before, byteLength (before ++ shown)⟩ := by
  have hstart : isBoundary s.text (byteLength before) := by
    rw [h, List.append_assoc]
    exact isBoundary_append ..
  have hstop : isBoundary s.text (byteLength (before ++ shown)) := by
    rw [h, ← List.append_assoc, List.append_assoc _ rest]
    exact isBoundary_append ..
  rw [byteLength_append before shown] at hstop ⊢
  exact opening_of_isBoundary hstart hstop

namespace Diagnostic

/-- The number of carets that point at a token. -/
def carets : Diagnostic → Nat
  | invalidToken s => s.text.length
  | unterminatedString _ => 1
  | unterminatedComment _ => 2

theorem shown_of_parts {s : Source} {before shown rest after : Text}
    (hparts : s.text = before ++ (shown ++ rest) ++ after) {d : Diagnostic}
    (hshown : Lexeme.Shown d.fault shown rest)
    (hspan : d.span = ⟨s, byteLength before, byteLength (before ++ (shown ++ rest))⟩) :
    d.shown = ⟨s, byteLength before, byteLength (before ++ shown)⟩ ∧ d.carets = shown.length := by
  have hopening := Span.opening_of_parts hparts
  have htext := Source.text_of_parts hparts
  cases d with
  | invalidToken span =>
    obtain rfl : span = _ := hspan
    cases hshown
    rw [List.append_nil] at htext
    exact ⟨by rw [Diagnostic.shown, List.append_nil], by rw [carets, List.append_nil, htext]⟩
  | unterminatedString span =>
    obtain rfl : span = _ := hspan
    cases hshown
    exact ⟨hopening, rfl⟩
  | unterminatedComment span =>
    obtain rfl : span = _ := hspan
    cases hshown
    exact ⟨hopening, rfl⟩

end Diagnostic

namespace Span

theorem isPlain_of_mem_lineRows {s : Span} {help : Option Text} {n : Nat} {row : Row}
    (h : row ∈ s.lineRows help n) (hn : n ≠ s.startLocation.line) : row.isPlain := by
  unfold lineRows at h
  split at h
  · rw [if_neg (by simp [hn])] at h
    obtain rfl := List.mem_singleton.mp h
    rfl
  · cases h

theorem exists_rows_of_isWithinLine {s : Span} (h : s.WellFormed) (hwithin : s.isWithinLine)
    (help : Option Text) {line : Line} (hline : s.source.line? s.startLocation.line = some line) :
    ∃ front back, s.excerpt help = front ++ .line s.startLocation.line (s.mark line.start line.text)
        :: s.caretRow line.text help :: back ∧ (∀ row ∈ front ++ back, row.isPlain) := by
  obtain ⟨-, hfirst, hordered, hlast, -⟩ := shown_bounds h
  obtain ⟨above, habove⟩ := Nat.exists_eq_add_of_le hfirst
  obtain ⟨below, hbelow⟩ := Nat.exists_eq_add_of_le (Nat.le_trans hordered hlast)
  -- the lines shown above the line of the span, that line, and the ones below it
  have hrange : List.range' s.firstShown (s.lastShown + 1 - s.firstShown)
      = List.range' s.firstShown above
        ++ s.startLocation.line :: List.range' (s.startLocation.line + 1) below := by
    have hcount : s.lastShown + 1 - s.firstShown = above + (below + 1) := by omega
    rw [hcount, ← List.range'_append_1, List.range'_succ, ← habove]
  have hrow : s.lineRows help s.startLocation.line
      = [.line s.startLocation.line (s.mark line.start line.text), s.caretRow line.text help] := by
    simp [lineRows, hline, hwithin]
  refine ⟨.title s.source.origin.display s.startLocation :: .blank
      :: (List.range' s.firstShown above).flatMap (s.lineRows help),
    (List.range' (s.startLocation.line + 1) below).flatMap (s.lineRows help) ++ [.blank], ?_, ?_⟩
  · rw [excerpt, hrange, List.flatMap_append, List.flatMap_cons, hrow, if_pos hwithin]
    simp
  · have hother (first count : Nat) (hn : ∀ n ∈ List.range' first count, n ≠ s.startLocation.line) :
        ∀ row ∈ (List.range' first count).flatMap (s.lineRows help), row.isPlain := by
      intro row hrow
      obtain ⟨n, hmem, hrow⟩ := List.mem_flatMap.mp hrow
      exact isPlain_of_mem_lineRows hrow (hn n hmem)
    have hfront := hother s.firstShown above fun n hn => by
      have hbounds := List.mem_range'_1.mp hn
      omega
    have hback := hother (s.startLocation.line + 1) below fun n hn => by
      have hbounds := List.mem_range'_1.mp hn
      omega
    simp only [List.cons_append, List.forall_mem_cons, List.forall_mem_append]
    exact ⟨rfl, rfl, hfront, hback, rfl, by simp⟩

section

variable {s : Source} {above below : List Text} {left x right : Text}

theorem parts_of_cut (h : IsCut s.text above left (x ++ right) below) :
    s.text = above.flatten ++ left ++ x ++ (right ++ below.flatten) := by
  simpa using h.text_eq

theorem wellFormed_of_cut (h : IsCut s.text above left (x ++ right) below) :
    WellFormed ⟨s, byteLength (above.flatten ++ left), byteLength (above.flatten ++ left ++ x)⟩ := by
  refine ⟨?_, ?_, ?_⟩
  · rw [parts_of_cut h, List.append_assoc _ x]
    exact isBoundary_append ..
  · rw [parts_of_cut h]
    exact isBoundary_append ..
  · simp

/-- A span that ends in the line that it starts in. -/
theorem exists_rows_of_cut (hstart : IsCut s.text above left (x ++ right) below)
    (hstop : IsCut s.text above (left ++ x) right below) (hx : x ≠ []) (htab : '\t' ∉ x)
    (help : Option Text) :
    let span : Span :=
      ⟨s, byteLength (above.flatten ++ left), byteLength (above.flatten ++ left ++ x)⟩
    ∃ front back, span.excerpt help = front
        ++ .line (above.length + 1) (span.mark (byteLength above.flatten) (left ++ (x ++ right)))
          :: .carets (columns left) x.length help :: back
      ∧ (∀ row ∈ front ++ back, row.isPlain) ∧ above.length + 1 ≤ span.lastShown := by
  intro span
  have hformed : span.WellFormed := wellFormed_of_cut hstart
  have hfirst : span.startLocation = ⟨above.length + 1, left.length + 1⟩ :=
    Source.location_of_cut hstart
  have hlast : span.stopLocation = ⟨above.length + 1, (left ++ x).length + 1⟩ := by
    have hplace := Source.location_of_cut hstop
    rw [← List.append_assoc] at hplace
    exact hplace
  have hwithin : span.isWithinLine := by simp [isWithinLine, hfirst, hlast]
  have hline := Source.line?_of_lines hstart.lines_eq
  have hnumber : span.startLocation.line = above.length + 1 := by rw [hfirst]
  have hcount : max 1 (columns span.text) = x.length := by
    have hpos := List.length_pos_iff.mpr hx
    rw [Source.text_of_parts (parts_of_cut hstart), columns_eq_length htab]
    omega
  have hcarets : span.caretRow (left ++ (x ++ right)) help
      = .carets (columns left) x.length help := by
    rw [caretRow, hcount, hfirst]
    simp
  rw [← hnumber] at hline
  obtain ⟨front, back, hrows, hplain⟩ := exists_rows_of_isWithinLine hformed hwithin help hline
  rw [hnumber, hcarets] at hrows
  obtain ⟨-, -, hordered, hbelow, -⟩ := shown_bounds hformed
  exact ⟨front, back, hrows, hplain, by omega⟩

end

/-- A span begins in line `n` with `c`, behind `left`. -/
structure StartsIn (s : Span) (n : Nat) (left : Text) (c : Char) (right : Text) : Prop where
  line : ∃ line, s.source.line? n = some line ∧ line.text = left ++ c :: right
    ∧ s.start = line.start + byteLength left
  location : s.startLocation = ⟨n, left.length + 1⟩
  first : s.text.head? = some c

end Span

namespace Diagnostic

theorem filter_map_rows {p : Text → Bool} {f : Row → Text} {front back : List Row}
    {numbered : Row} (hp : ∀ row : Row, row.isPlain → p (f row) = false)
    (hnumbered : numbered.isPlain) (hplain : ∀ row ∈ front ++ back, row.isPlain) (caret : Row) :
    ((front ++ numbered :: caret :: back).map f).filter p = [f caret].filter p := by
  obtain ⟨hfront, hback⟩ := List.forall_mem_append.mp hplain
  have hnone {rest : List Row} (hrest : ∀ row ∈ rest, row.isPlain) :
      (rest.map f).filter p = [] := by
    rw [List.filter_eq_nil_iff, List.forall_mem_map]
    exact fun row hrow => by simp [hp row (hrest row hrow)]
  rw [List.map_append, List.map_cons, List.map_cons, List.filter_append, hnone hfront,
    List.filter_cons_of_neg (by simp [hp _ hnumbered]), ← List.singleton_append,
    List.filter_append, hnone hback, List.nil_append, List.append_nil]

theorem filter_rows {d : Diagnostic} {front back : List Row} {n indent count : Nat}
    {shown : Styled} {help : Option Text} (hcount : 0 < count)
    (hrows : d.shown.excerpt d.help.toList
      = front ++ .line n shown :: .carets indent count help :: back)
    (hplain : ∀ row ∈ front ++ back, row.isPlain) :
    d.rows.filter isCaretRow = [d.rowText (.carets indent count help)]
      ∧ d.rows.filter isRemarkRow = [] := by
  obtain ⟨hcaret, hremark⟩ : isCaretRow (d.rowText (.carets indent count help))
      ∧ isRemarkRow (d.rowText (.carets indent count help)) = false :=
    Row.isCaretRow_carets d.shown.numberWidth indent hcount help
  have hother (row : Row) (hrow : row.isPlain) :
      isCaretRow (d.rowText row) = false ∧ isRemarkRow (d.rowText row) = false :=
    Row.not_isCaretRow_of_isPlain hrow d.shown.numberWidth
  have hline : (Row.line n shown).isPlain := rfl
  rw [rows, hrows]
  constructor
  · have hcarets := filter_map_rows (fun row hrow => (hother row hrow).1) hline hplain
    rw [List.filter_cons_of_neg (by simp [isCaretRow, unindent]), hcarets,
      List.filter_cons_of_pos hcaret]
    rfl
  · have hremarks := filter_map_rows (fun row hrow => (hother row hrow).2) hline hplain
    rw [List.filter_cons_of_neg (by simp [isRemarkRow, unindent]), hremarks,
      List.filter_cons_of_neg (by simp [hremark])]
    rfl

/-- A token stands behind `left` in a line, and the report shows the part `x` of it. -/
structure Site (d : Diagnostic) (s : Source) (above : List Text) (left x rest right : Text)
    (below : List Text) : Prop where
  form : Lexeme.Shown d.fault x rest
  cutStart : IsCut s.text above left (x ++ right) below
  cutStop : IsCut s.text above (left ++ x) right below
  source : d.span.source = s
  start : d.span.start = byteLength (above.flatten ++ left)
  text : d.span.text = x ++ rest
  shown : d.shown
    = ⟨s, byteLength (above.flatten ++ left), byteLength (above.flatten ++ left ++ x)⟩
  carets : d.carets = x.length

theorem exists_site {s : Source} {t : Token} (ht : t ∈ s.tokens) {d : Diagnostic}
    (hd : ofToken? t = some d) :
    ∃ above left x rest right below, d.Site s above left x rest right below := by
  obtain ⟨before, after, hparts, -, hspan, hmunch⟩ := (Placed.of_source s).of_mem t ht
  obtain rfl := ofToken?_eq_some_iff.mp hd
  obtain ⟨x, rest, htext, hform⟩ := Lexeme.shown_of_munch hmunch
  rw [htext] at hparts hspan
  obtain ⟨hshown, hcarets⟩ := shown_of_parts hparts hform hspan
  have hplace : s.text = before ++ (x ++ (rest ++ after)) := by simpa using hparts
  obtain ⟨above, left, right, below, hcut, rfl⟩ := exists_cut hplace
  have hopen : IsOpenLine x := fun c hc =>
    isLineTerminator_eq_false (hform.isWhiteSpace_eq_false c hc)
  obtain ⟨right, rfl, hstop⟩ := hcut.extend hplace hopen
  exact ⟨above, left, x, rest, right, below, hform, hcut, hstop, congrArg Span.source hspan,
    congrArg Span.start hspan, htext, hshown, hcarets⟩

/-- The rows of a report that point at a token: the row of the line that the token starts on, and
right below it the only row of carets. -/
structure Pointed (d : Diagnostic) (above : List Text) (numbered caret : Text)
    (below : List Text) : Prop where
  place : ∃ n left c right number, d.span.StartsIn n left c right
    ∧ (∃ blanks, number = List.replicate blanks ' ' ++ ofNat n)
    ∧ numbered = number ++ " ┃ ".toList ++ left.flatMap cell
      ++ c :: (right.filter (!isLineTerminator ·)).flatMap cell
    ∧ caret = List.replicate number.length ' ' ++ " ┃ ".toList
      ++ List.replicate left.width ' '
      ++ List.replicate d.carets '^' ++ " help: ".toList ++ d.help.toList
  carets : (above ++ numbered :: caret :: below).filter isCaretRow = [caret]
  remarks : (above ++ numbered :: caret :: below).filter isRemarkRow = []

theorem shown_line {left : Text} {c : Char} (hleft : IsOpenLine left)
    (hc : isWhiteSpace c = false) (right : Text) :
    ((left ++ c :: right).filter (!isLineTerminator ·)).flatMap cell
      = left.flatMap cell ++ c :: (right.filter (!isLineTerminator ·)).flatMap cell := by
  have hterm := isLineTerminator_eq_false hc
  have hcell : cell c = [c] := by
    refine if_neg ?_
    intro htab
    rw [beq_iff_eq.mp htab] at hc
    exact absurd hc (by decide)
  rw [List.filter_append, filter_of_open hleft, List.filter_cons_of_pos (by simp [hterm]),
    List.flatMap_append, List.flatMap_cons, hcell]
  rfl

namespace Site

variable {d : Diagnostic} {s : Source} {above : List Text} {left x rest right : Text}
  {below : List Text}

theorem exists_first (h : d.Site s above left x rest right below) :
    ∃ c x', x = c :: x' ∧ isWhiteSpace c = false := by
  obtain ⟨c, x', rfl⟩ := List.exists_cons_of_ne_nil h.form.ne_nil
  exact ⟨c, x', rfl, h.form.isWhiteSpace_eq_false c (List.mem_cons_self ..)⟩

theorem isOpenLine_left (h : d.Site s above left x rest right below) : IsOpenLine left := by
  rcases h.cutStart.open_left with hopen | ⟨hright, -⟩
  · exact hopen
  · obtain ⟨c, x', rfl, hc⟩ := h.exists_first
    obtain ⟨rfl, -⟩ := List.cons.inj hright
    exact absurd hc (by decide)

theorem startsIn (h : d.Site s above left x rest right below) {c : Char} {x' : Text}
    (hx : x = c :: x') : d.span.StartsIn (above.length + 1) left c (x' ++ right) := by
  have hline := Source.line?_of_lines h.cutStart.lines_eq
  subst hx
  refine ⟨⟨_, h.source ▸ hline, rfl, ?_⟩, ?_, by rw [h.text]; rfl⟩
  · rw [h.start, byteLength_append]
  · have hplace := Source.location_of_cut h.cutStart
    rw [← h.source, ← h.start] at hplace
    exact hplace

theorem rowText_line (h : d.Site s above left x rest right below) {c : Char} {x' : Text}
    (hx : x = c :: x') :
    d.rowText (.line (above.length + 1)
        (d.shown.mark (byteLength above.flatten) (left ++ (x ++ right))))
      = List.replicate (d.shown.numberWidth - (ofNat (above.length + 1)).length) ' '
        ++ ofNat (above.length + 1) ++ " ┃ ".toList ++ left.flatMap cell
        ++ c :: ((x' ++ right).filter (!isLineTerminator ·)).flatMap cell := by
  have hmem : left ++ (x ++ right) ∈ s.text.lines := by simp [h.cutStart.lines_eq]
  have hc : isWhiteSpace c = false := h.form.isWhiteSpace_eq_false c (by simp [hx])
  have hshown := shown_line h.isOpenLine_left hc (x' ++ right)
  rw [rowText, Row.text_render_line, Row.text_gutter_some, Span.text_mark _ hmem, hx,
    List.cons_append, hshown]
  simp only [List.append_assoc]

theorem exists_pointed (h : d.Site s above left x rest right below) :
    ∃ front numbered caret back, d.Pointed front numbered caret back
      ∧ d.rows = front ++ numbered :: caret :: back := by
  obtain ⟨c, x', hx, hc⟩ := h.exists_first
  have htab : '\t' ∉ x := fun hmem => absurd (h.form.isWhiteSpace_eq_false _ hmem) (by decide)
  have hpos := List.length_pos_iff.mpr h.form.ne_nil
  obtain ⟨front, back, hrows, hplain, hshown⟩ :=
    Span.exists_rows_of_cut h.cutStart h.cutStop h.form.ne_nil htab (some d.help.toList)
  rw [← h.shown] at hrows hshown
  obtain ⟨hcarets, hremarks⟩ := filter_rows hpos hrows hplain
  have hparts : d.rows = ("[error]: ".toList ++ d.title) :: front.map d.rowText
      ++ d.rowText (.line (above.length + 1)
        (d.shown.mark (byteLength above.flatten) (left ++ (x ++ right))))
      :: d.rowText (.carets (columns left) x.length (some d.help.toList)) :: back.map d.rowText := by
    rw [rows, hrows, List.map_append]
    rfl
  refine ⟨_, _, _, _, ⟨⟨above.length + 1, left, c, x' ++ right, _, h.startsIn hx, ⟨_, rfl⟩,
    h.rowText_line hx, ?_⟩, hparts ▸ hcarets, hparts ▸ hremarks⟩, hparts⟩
  have hfits : (ofNat (above.length + 1)).length ≤ d.shown.numberWidth := length_ofNat_le hshown
  have hwidth : (List.replicate (d.shown.numberWidth - (ofNat (above.length + 1)).length) ' '
      ++ ofNat (above.length + 1)).length = d.shown.numberWidth := by
    rw [List.length_append, List.length_replicate]
    omega
  rw [rowText, Row.text_render_carets, Row.text_gutter_none, hwidth, columns_eq_width, h.carets]
  simp only [Option.elim, List.append_assoc]

/-- A control character in a report comes from the source or from its origin. -/
theorem source_of_control (h : d.Site s above left x rest right below) {c : Char}
    (hc : c.toNat < 32) {row : Text} (hrow : row ∈ d.rows) (hmem : c ∈ row) :
    c ∈ s.origin.display ∨ c ∈ s.text ∧ isLineTerminator c = false := by
  rcases List.mem_cons.mp hrow with rfl | hrow
  · have hlabel : c ∉ "[error]: ".toList := not_mem_of_control hc (by decide)
    have htitle := (List.mem_append.mp hmem).resolve_left hlabel
    -- only the title of an invalid token repeats a part of the source
    obtain ⟨hfault, hx⟩ := mem_title_of_control hc htitle
    rw [h.text] at hx
    have hform := h.form
    rw [hfault] at hform
    cases hform with
    | invalid _ hwhite =>
      rw [List.append_nil] at hx
      refine .inr ⟨?_, ?_⟩
      · rw [Span.parts_of_cut h.cutStart]
        simp [hx]
      · exact isLineTerminator_eq_false (hwhite c hx)
  · obtain ⟨shown, hshown, rfl⟩ := List.mem_map.mp hrow
    have hdigit : c.isDigit = false := by
      cases hdigit : c.isDigit with
      | false => rfl
      | true =>
        have hleast := (toNat_of_isDigit hdigit).1
        omega
    have hblank : c ≠ ' ' := by
      rintro rfl
      exact absurd hc (by decide)
    have hsigns : c ∉ Row.signs := not_mem_of_control hc (by decide)
    have hcontent := Row.mem_content_of_mem_render hdigit hsigns hmem
    have hsource := Span.mem_content_of_mem_excerpt hblank hshown hcontent
    rw [h.shown] at hsource
    rcases hsource with horigin | htext | ⟨help, hhelp, hmem⟩
    · exact .inl horigin
    · exact .inr htext
    · obtain rfl := Option.some.inj hhelp
      exact absurd hmem (not_mem_help_of_control hc)

end Site

end Diagnostic

theorem Source.tokens_pointed (s : Source) : ∀ t ∈ s.tokens, t.isError →
    ∃ d, Diagnostic.ofToken? t = some d ∧ d.span = t.span
      ∧ ∃ above numbered caret below, d.Pointed above numbered caret below
        ∧ d.render.text = (above ++ numbered :: caret :: below).flatMap (· ++ ['\n'])
        ∧ ('\n' ∉ s.origin.display →
          ∀ row ∈ above ++ numbered :: caret :: below, '\n' ∉ row)
        ∧ ('\x1B' ∉ s.text → '\x1B' ∉ s.origin.display →
          (Terminal.run {} d.render.encode).1.map Cell.char = d.render.text) := by
  intro t ht herror
  rw [← Diagnostic.isSome_ofToken?, Option.isSome_iff_exists] at herror
  obtain ⟨d, hd⟩ := herror
  obtain ⟨_, _, _, _, _, _, hsite⟩ := Diagnostic.exists_site ht hd
  obtain ⟨above, numbered, caret, below, hpointed, hrows⟩ := hsite.exists_pointed
  have htext := d.text_render
  refine ⟨d, hd, Diagnostic.span_of_ofToken? hd, above, numbered, caret, below, hpointed,
    hrows ▸ htext, fun horigin row hrow hnewline => ?_, fun hsource horigin => ?_⟩
  · rw [← hrows] at hrow
    rcases hsite.source_of_control (by decide) hrow hnewline with hmem | ⟨-, hterm⟩
    · exact horigin hmem
    · exact absurd hterm (by decide)
  · have hescape := escape_not_mem_report ht hd hsource horigin
    rw [Terminal.run_encode hescape, Styled.map_char_cells]

theorem Source.tokens_pointed_of_open_comment :
    let s : Source := { number := 0, origin := .synthesized [], text := "é\t/* \n\"x".toList }
    let t : Token := ⟨.fault .unterminatedComment, ⟨s, 3, 9⟩⟩
    t ∈ s.tokens ∧ t.isError ∧ ∃ d, Diagnostic.ofToken? t = some d ∧ d.span = t.span
      ∧ ∃ above numbered caret below, d.Pointed above numbered caret below
        ∧ d.render.text = (above ++ numbered :: caret :: below).flatMap (· ++ ['\n'])
        ∧ ('\n' ∉ s.origin.display →
          ∀ row ∈ above ++ numbered :: caret :: below, '\n' ∉ row)
        ∧ ('\x1B' ∉ s.text → '\x1B' ∉ s.origin.display →
          (Terminal.run {} d.render.encode).1.map Cell.char = d.render.text) := by
  intro s t
  have hall : Lexeme.all s.text = [⟨[], .literal .name, ['é']⟩,
      ⟨['\t'], .fault .unterminatedComment, "/* \n\"x".toList⟩] := by decide +kernel
  have ht : t ∈ s.tokens := by
    rw [s.tokens_eq, hall]
    exact .tail _ (.head _)
  exact ⟨ht, rfl, tokens_pointed s t ht rfl⟩

end LoxReader
