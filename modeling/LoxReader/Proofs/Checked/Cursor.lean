import LoxReader.Proofs.Checked.Source
import LoxReader.Proofs.Gap

/-!
The lexer as a machine runs it: a byte offset that moves over the text of a source, which is cut out
anew at every look. On a well-formed lexer it never traps, ends, and reads what the lexer reads.
-/

namespace LoxReader

open Text Unicode Checked

/-- A lexer without the text that is left. -/
structure Cursor where
  source : Source
  index : Nat

def Lexer.cursor (l : Lexer) : Cursor := ⟨l.source, l.index⟩

namespace Cursor

def position (c : Cursor) : Checked Position := expect (c.source.position c.index)

def rest (c : Cursor) : Checked Text := slice c.source.text c.index c.source.length

def peek (c : Cursor) : Checked (Option Char) := do
  let rest ← c.rest
  pure rest.head?

def advance (c : Cursor) (length : Nat) : Checked Cursor := do
  let index ← add c.index length
  pure ⟨c.source, index⟩

def bump (c : Cursor) : Checked Cursor := do
  match ← c.peek with
  | some character => c.advance character.utf8Size
  | none => pure c

def eat (c : Cursor) (mark : Text) : Checked (Bool × Cursor) := do
  let rest ← c.rest
  if mark <+: rest then
    let c ← c.advance (byteLength mark)
    pure (true, c)
  else pure (false, c)

def walk (c : Cursor) (p : Char → Bool) : Checked Cursor := do
  let rest ← c.rest
  c.advance (byteLength (rest.takeWhile p))

def textFrom (c : Cursor) (start : Nat) : Checked Text := slice c.source.text start c.index

def spanFrom (c : Cursor) (start : Nat) : Checked Span := expect (c.source.span start c.index)

/-- The turns that a loop is given. One that has not come to its end by then has no result. -/
def turns (c : Cursor) : Nat := c.source.length + 1

/-- Passes the rest of `depth` block comments; says whether all of them are closed. -/
def closeComments : Nat → Cursor → Nat → Checked (Bool × Cursor)
  | 0, _, _ => none
  | turns + 1, c, depth =>
    if depth = 0 then some (true, c)
    else do
      let (opened, c) ← c.eat ['/', '*']
      if opened then
        let depth ← add depth 1
        closeComments turns c depth
      else
        let (ended, c) ← c.eat ['*', '/']
        if ended then
          let depth ← sub depth 1
          closeComments turns c depth
        else
          match ← c.peek with
          | some _ =>
            let c ← c.bump
            closeComments turns c depth
          | none => pure (false, c)

def skipTrivia : Nat → Cursor → Checked (Option Token × Cursor)
  | 0, _ => none
  | turns + 1, c => do
    let start := c.index
    let first ← c.peek
    if first.any isWhiteSpace then
      let c ← c.walk isWhiteSpace
      skipTrivia turns c
    else
      let (line, c) ← c.eat ['/', '/']
      if line then
        let c ← c.walk (!isLineTerminator ·)
        skipTrivia turns c
      else
        let (block, c) ← c.eat ['/', '*']
        if block then
          let (closed, c) ← closeComments c.turns c 1
          if closed then skipTrivia turns c
          else
            let span ← c.spanFrom start
            pure (some ⟨.fault .unterminatedComment, span⟩, c)
        else pure (none, c)

def run (c : Cursor) (start : Nat) (p : Char → Bool) (kind : Text → Kind) :
    Checked (Kind × Cursor) := do
  let c ← c.walk p
  let text ← c.textFrom start
  pure (kind text, c)

def string (c : Cursor) : Checked (Kind × Cursor) := do
  let c ← c.bump
  let c ← c.walk Lexeme.isStringChar
  match ← c.peek with
  | none => pure (.fault .unterminatedString, c)
  | some _ =>
    let c ← c.bump
    pure (.literal .string, c)

def sign (c : Cursor) (first : Char) : Checked (Kind × Cursor) := do
  let c ← c.bump
  pure (Lexeme.signKind first, c)

def token (c : Cursor) (first : Char) : Checked (Kind × Cursor) :=
  if isAlphabetic first then c.run c.index Lexeme.isWordChar Lexeme.wordKind
  else if first.isDigit then c.run c.index Lexeme.isNumberChar Lexeme.numberKind
  else if first == '"' then c.string
  else if Lexeme.isOperatorChar first then c.run c.index Lexeme.isOperatorChar Lexeme.operatorKind
  else c.sign first

def next (c : Cursor) : Checked (Option Token × Cursor) := do
  let (unterminated, c) ← skipTrivia c.turns c
  match unterminated with
  | some token => pure (some token, c)
  | none =>
    let start := c.index
    match ← c.peek with
    | none => pure (none, c)
    | some first =>
      let (kind, c) ← c.token first
      let span ← c.spanFrom start
      pure (some ⟨kind, span⟩, c)

end Cursor

namespace Lexer

@[simp]
theorem cursor_source (l : Lexer) : l.cursor.source = l.source := rfl

@[simp]
theorem cursor_index (l : Lexer) : l.cursor.index = l.index := rfl

theorem after_nil (l : Lexer) : l.after [] l.rest = l := rfl

theorem after_after (l : Lexer) (passed rest passed' rest' : Text) :
    (l.after passed rest).after passed' rest' = l.after (passed ++ passed') rest' := by
  simp only [after, byteLength_append, Nat.add_assoc]

section

variable {l : Lexer} (h : l.WellFormed)

include h

theorem position_cursor : l.cursor.position = some l.position := by
  have hplaced := Source.position_eq_ok_iff.2 ⟨isBoundary_index h, rfl⟩
  rw [Cursor.position, cursor_source, cursor_index, hplaced]
  rfl

theorem rest_cursor : l.cursor.rest = some l.rest := by
  obtain ⟨before, hwhole, hplace⟩ := h
  have hwhole' : l.source.text = before ++ l.rest ++ [] := by
    rw [List.append_nil]
    exact hwhole
  have hcut := Source.slice?_of_parts hwhole'
  rw [← hwhole, hplace] at hcut
  rw [Cursor.rest, slice_eq_slice?]
  exact hcut

theorem peek_cursor : l.cursor.peek = some l.rest.head? := by
  rw [Cursor.peek, rest_cursor h]
  rfl

theorem textFrom_after {passed rest : Text} (hparts : l.rest = passed ++ rest) :
    (l.after passed rest).cursor.textFrom l.index = some passed := by
  obtain ⟨before, hwhole, hplace⟩ := h
  rw [hparts, ← List.append_assoc] at hwhole
  have hcut := Source.slice?_of_parts hwhole
  rw [byteLength_append, hplace] at hcut
  rw [Cursor.textFrom, slice_eq_slice?]
  exact hcut

theorem spanFrom_after {passed rest : Text} (hparts : l.rest = passed ++ rest) :
    (l.after passed rest).cursor.spanFrom l.index
      = some ⟨l.source, l.index, (l.after passed rest).index⟩ := by
  have hspanned := wellFormed_span_after h _ hparts
  have hmade := Source.span_eq_ok_iff.2 ⟨hspanned.start, hspanned.stop, hspanned.ordered, rfl⟩
  rw [Cursor.spanFrom]
  simp only [cursor_source, cursor_index]
  rw [show (l.after passed rest).source = l.source from rfl, hmade]
  rfl

theorem eat_cursor_other (mark : Text) (hother : ¬ mark <+: l.rest) :
    l.cursor.eat mark = some (false, l.cursor) := by
  simp [Cursor.eat, rest_cursor h, hother]

variable (hfits : l.source.length < 2 ^ 63)

include hfits

theorem advance_cursor (passed : Text) {rest : Text} (hparts : l.rest = passed ++ rest) :
    l.cursor.advance (byteLength passed) = some (l.after passed rest).cursor := by
  have hinside := le_of_isBoundary (isBoundary_index (wellFormed_after h _ hparts))
  have hroom : l.index + byteLength passed < 2 ^ 64 := by
    rw [Source.length] at hfits
    simp only [after] at hinside
    omega
  simp [Cursor.advance, add_eq hroom, after, cursor]

theorem bump_cursor {c : Char} {rest : Text} (hparts : l.rest = c :: rest) :
    l.cursor.bump = some (l.after [c] rest).cursor := by
  have hmoved := advance_cursor h hfits [c] hparts
  rw [byteLength_cons, byteLength_nil, Nat.add_zero] at hmoved
  simp [Cursor.bump, peek_cursor h, hparts, hmoved]

theorem eat_cursor (mark : Text) {rest : Text} (hparts : l.rest = mark ++ rest) :
    l.cursor.eat mark = some (true, (l.after mark rest).cursor) := by
  have hstarts : mark <+: l.rest := ⟨rest, hparts.symm⟩
  simp [Cursor.eat, rest_cursor h, hstarts, advance_cursor h hfits _ hparts]

theorem walk_cursor (p : Char → Bool) :
    l.cursor.walk p = some (l.after (l.rest.takeWhile p) (l.rest.dropWhile p)).cursor := by
  have hparts : l.rest = l.rest.takeWhile p ++ l.rest.dropWhile p :=
    List.takeWhile_append_dropWhile.symm
  simp [Cursor.walk, rest_cursor h, advance_cursor h hfits _ hparts]

end

def closed (l : Lexer) : Option (Text × Text) → Bool × Cursor
  | some (body, rest) => (true, (l.after body rest).cursor)
  | none => (false, (l.after l.rest []).cursor)

theorem closed_after {l : Lexer} (passed : Text) {rest : Text} (hparts : l.rest = passed ++ rest)
    (result : Option (Text × Text)) :
    (l.after passed rest).closed result
      = l.closed (result.map fun (body, rest) => (passed ++ body, rest)) := by
  cases result with
  | some result => simp only [closed, Option.map_some, after_after]
  | none =>
    simp only [closed, Option.map_none]
    rw [after_after, hparts]
    rfl

theorem closeComments_cursor {l : Lexer} (h : l.WellFormed) (hfits : l.source.length < 2 ^ 63)
    {turns depth : Nat} (henough : l.rest.length < turns)
    (hroom : depth + l.rest.length < 2 ^ 64) :
    Cursor.closeComments turns l.cursor depth
      = some (l.closed (Trivia.closeComments depth l.rest)) := by
  obtain ⟨t, hleft⟩ : ∃ t, l.rest = t := ⟨_, rfl⟩
  rw [hleft] at henough hroom ⊢
  -- The induction follows the text; each of its steps is one turn.
  fun_induction Trivia.closeComments depth t generalizing l turns with
  | case1 t =>
    obtain ⟨turns, rfl⟩ := Nat.exists_eq_add_one_of_ne_zero (Nat.ne_zero_of_lt henough)
    rw [Cursor.closeComments, if_pos rfl, closed, ← hleft, after_nil]
  | case2 depth =>
    obtain ⟨turns, rfl⟩ := Nat.exists_eq_add_one_of_ne_zero (Nat.ne_zero_of_lt henough)
    have hopened := eat_cursor_other h ['/', '*'] (by simp [hleft])
    have hended := eat_cursor_other h ['*', '/'] (by simp [hleft])
    have hnothing := peek_cursor h
    rw [hleft, List.head?_nil] at hnothing
    have hhere : (l.after l.rest []).cursor = l.cursor := by
      rw [hleft]
      rfl
    rw [Cursor.closeComments, if_neg (Nat.succ_ne_zero depth), closed, hhere]
    simp [hopened, hended, hnothing]
  | case3 depth t ih =>
    simp only [List.length_cons] at henough hroom
    obtain ⟨turns, rfl⟩ := Nat.exists_eq_add_one_of_ne_zero (Nat.ne_zero_of_lt henough)
    have hopened := eat_cursor h hfits ['/', '*'] hleft
    have hdeeper : add (depth + 1) 1 = some (depth + 2) := add_eq (by omega)
    have hlater := ih (wellFormed_after h ['/', '*'] hleft) hfits (by omega)
      (show t.length < turns by omega) rfl
    rw [Cursor.closeComments, if_neg (Nat.succ_ne_zero depth)]
    simp only [hopened, hdeeper, Option.bind_eq_bind, Option.bind_some, if_true]
    rw [hlater, closed_after ['/', '*'] hleft]
    rfl
  | case4 depth t ih =>
    simp only [List.length_cons] at henough hroom
    obtain ⟨turns, rfl⟩ := Nat.exists_eq_add_one_of_ne_zero (Nat.ne_zero_of_lt henough)
    have hopened := eat_cursor_other h ['/', '*'] (by simp [hleft])
    have hended := eat_cursor h hfits ['*', '/'] hleft
    have hless : sub (depth + 1) 1 = some depth := sub_eq (Nat.le_add_left ..)
    have hlater := ih (wellFormed_after h ['*', '/'] hleft) hfits (by omega)
      (show t.length < turns by omega) rfl
    rw [Cursor.closeComments, if_neg (Nat.succ_ne_zero depth)]
    simp only [hopened, hended, hless, Option.bind_eq_bind, Option.bind_some, if_true,
      Bool.false_eq_true, if_false]
    rw [hlater, closed_after ['*', '/'] hleft]
    rfl
  | case5 depth c t hunopened hunended ih =>
    rw [List.length_cons] at henough hroom
    obtain ⟨turns, rfl⟩ := Nat.exists_eq_add_one_of_ne_zero (Nat.ne_zero_of_lt henough)
    have hopened := eat_cursor_other h ['/', '*'] (by
      rw [hleft]
      rintro ⟨rest, hparts⟩
      cases hparts
      exact hunopened rest rfl rfl)
    have hended := eat_cursor_other h ['*', '/'] (by
      rw [hleft]
      rintro ⟨rest, hparts⟩
      cases hparts
      exact hunended rest rfl rfl)
    have hcharacter := peek_cursor h
    rw [hleft, List.head?_cons] at hcharacter
    have hbumped := bump_cursor h hfits hleft
    have hlater := ih (wellFormed_after h [c] hleft) hfits (by omega)
      (show t.length < turns by omega) rfl
    rw [Cursor.closeComments, if_neg (Nat.succ_ne_zero depth)]
    simp only [hopened, hended, hcharacter, hbumped, Option.bind_eq_bind, Option.bind_some,
      Bool.false_eq_true, if_false]
    rw [hlater, closed_after [c] hleft]
    rfl

theorem length_rest_le {l : Lexer} (h : l.WellFormed) : l.rest.length ≤ l.source.length := by
  obtain ⟨before, hwhole, _⟩ := h
  have hchars := length_le_byteLength l.rest
  rw [Source.length, hwhole, byteLength_append]
  omega

/-- Where the skipping of trivia leaves a lexer. A block comment that is never closed is passed as a
token. -/
def skipped (l : Lexer) (gap body : Text) : Option Token × Cursor :=
  if ['/', '*'] <+: body then
    (some ⟨.fault .unterminatedComment,
      ⟨l.source, (l.after gap body).index, (l.after l.rest []).index⟩⟩, (l.after l.rest []).cursor)
  else (none, (l.after gap body).cursor)

theorem skipped_after {l : Lexer} (passed : Text) {rest : Text} (hparts : l.rest = passed ++ rest)
    (gap body : Text) :
    (l.after passed rest).skipped gap body = l.skipped (passed ++ gap) body := by
  have hleft : (l.after passed rest).rest = rest := rfl
  simp only [skipped, hleft, after_after, hparts]
  rfl

section

variable {l : Lexer} (h : l.WellFormed)

include h

theorem skipTrivia_of_other (turns : Nat) (hwhite : ¬ l.rest.head?.any isWhiteSpace)
    (hslashes : ¬ ['/', '/'] <+: l.rest) (hopening : ¬ ['/', '*'] <+: l.rest) :
    Cursor.skipTrivia (turns + 1) l.cursor = some (none, l.cursor) := by
  have hplain := eat_cursor_other h ['/', '/'] hslashes
  have houtside := eat_cursor_other h ['/', '*'] hopening
  rw [Cursor.skipTrivia]
  simp only [peek_cursor h, hwhite, hplain, houtside, Option.bind_eq_bind, Option.bind_some]
  rfl

variable (hfits : l.source.length < 2 ^ 63)

include hfits

theorem skipTrivia_of_white (turns : Nat) (hwhite : l.rest.head?.any isWhiteSpace) :
    Cursor.skipTrivia (turns + 1) l.cursor
      = Cursor.skipTrivia turns
          (l.after (l.rest.takeWhile isWhiteSpace) (l.rest.dropWhile isWhiteSpace)).cursor := by
  rw [Cursor.skipTrivia]
  simp only [peek_cursor h, walk_cursor h hfits, hwhite, Option.bind_eq_bind, Option.bind_some,
    if_true]

theorem skipTrivia_of_slashes (turns : Nat) {t : Text} (hleft : l.rest = '/' :: '/' :: t) :
    Cursor.skipTrivia (turns + 1) l.cursor
      = Cursor.skipTrivia turns (l.after ('/' :: '/' :: t.takeWhile (!isLineTerminator ·))
          (t.dropWhile (!isLineTerminator ·))).cursor := by
  have hslash : isWhiteSpace '/' = false := by decide
  have hwhite : ¬ l.rest.head?.any isWhiteSpace := by simp [hleft, hslash]
  have hbegun := eat_cursor h hfits ['/', '/'] hleft
  have hwalked := walk_cursor (wellFormed_after h ['/', '/'] hleft) hfits (!isLineTerminator ·)
  rw [Cursor.skipTrivia]
  simp only [peek_cursor h, hwhite, hbegun, hwalked, Option.bind_eq_bind, Option.bind_some, if_true,
    after_after]
  rfl

theorem skipTrivia_of_opening (turns : Nat) {t : Text} (hleft : l.rest = '/' :: '*' :: t) :
    Cursor.skipTrivia (turns + 1) l.cursor
      = match Trivia.closeComments 1 t with
        | some (body, rest) => Cursor.skipTrivia turns (l.after ('/' :: '*' :: body) rest).cursor
        | none => some (l.skipped [] l.rest) := by
  have hslash : isWhiteSpace '/' = false := by decide
  have hwhite : ¬ l.rest.head?.any isWhiteSpace := by simp [hleft, hslash]
  have hplain := eat_cursor_other h ['/', '/'] (by simp [hleft])
  have hbegun := eat_cursor h hfits ['/', '*'] hleft
  have hinside := wellFormed_after h ['/', '*'] hleft
  have hshort : t.length ≤ l.source.length := length_rest_le hinside
  have henough : t.length < (l.after ['/', '*'] t).cursor.turns := Nat.lt_succ_of_le hshort
  have hfound := closeComments_cursor hinside hfits henough (show 1 + t.length < 2 ^ 64 by omega)
  rw [closed_after ['/', '*'] hleft] at hfound
  have hstep : Cursor.skipTrivia (turns + 1) l.cursor = (do
      let (closed, c) ← Cursor.closeComments (l.after ['/', '*'] t).cursor.turns
        (l.after ['/', '*'] t).cursor 1
      if closed then Cursor.skipTrivia turns c
      else
        let span ← c.spanFrom l.index
        pure (some ⟨.fault .unterminatedComment, span⟩, c)) := by
    rw [Cursor.skipTrivia]
    simp only [peek_cursor h, hwhite, hplain, hbegun, Option.bind_eq_bind, Option.bind_some,
      if_true]
    rfl
  rw [hstep, hfound, show (l.after ['/', '*'] t).rest = t from rfl]
  cases Trivia.closeComments 1 t with
  | some result => rfl
  | none =>
    have hspanned := spanFrom_after h (List.append_nil l.rest).symm
    have hmarked : ['/', '*'] <+: l.rest := ⟨t, hleft.symm⟩
    simp only [closed, skipped, hmarked, hspanned, Option.map_none, Option.bind_eq_bind,
      Option.bind_some, if_true]
    rfl

end

theorem skipTrivia_step {l : Lexer} (h : l.WellFormed) (hfits : l.source.length < 2 ^ 63)
    (turns : Nat) :
    (∃ passed rest, passed ≠ [] ∧ l.rest = passed ++ rest
      ∧ Trivia.split l.rest = (passed ++ (Trivia.split rest).1, (Trivia.split rest).2)
      ∧ Cursor.skipTrivia (turns + 1) l.cursor
        = Cursor.skipTrivia turns (l.after passed rest).cursor)
    ∨ Trivia.split l.rest = ([], l.rest)
      ∧ Cursor.skipTrivia (turns + 1) l.cursor = some (l.skipped [] l.rest) := by
  by_cases hwhite : l.rest.head?.any isWhiteSpace
  · left
    have hfilled : l.rest.takeWhile isWhiteSpace ≠ [] := by
      cases hleft : l.rest with
      | nil => simp [hleft] at hwhite
      | cons c t =>
        have hfirst : isWhiteSpace c := by simpa [hleft] using hwhite
        simp [hfirst]
    exact ⟨_, _, hfilled, List.takeWhile_append_dropWhile.symm, Trivia.split_takeWhile l.rest,
      skipTrivia_of_white h hfits turns hwhite⟩
  by_cases hslashes : ['/', '/'] <+: l.rest
  · left
    obtain ⟨t, hwhole⟩ := hslashes
    have hleft : l.rest = '/' :: '/' :: t := hwhole.symm
    have hitem := Trivia.item?_slashes t
    have hparts := Trivia.append_of_item? hitem
    have hdivided := Trivia.split_of_item? hitem
    rw [← hleft] at hparts hdivided
    exact ⟨_, _, Trivia.item?_ne_nil hitem, hparts, hdivided,
      skipTrivia_of_slashes h hfits turns hleft⟩
  by_cases hopening : ['/', '*'] <+: l.rest
  · obtain ⟨t, hwhole⟩ := hopening
    have hleft : l.rest = '/' :: '*' :: t := hwhole.symm
    have hitem := Trivia.item?_opening t
    have hstep := skipTrivia_of_opening h hfits turns hleft
    cases hfound : Trivia.closeComments 1 t with
    | some result =>
      left
      rw [hfound] at hitem hstep
      have hparts := Trivia.append_of_item? hitem
      have hdivided := Trivia.split_of_item? hitem
      rw [← hleft] at hparts hdivided
      exact ⟨_, _, Trivia.item?_ne_nil hitem, hparts, hdivided, hstep⟩
    | none =>
      right
      rw [hfound] at hitem hstep
      have hdivided := Trivia.split_of_item?_eq_none hitem
      rw [← hleft] at hdivided
      exact ⟨hdivided, hstep⟩
  · right
    have hitem : Trivia.item? l.rest = none := by
      cases hleft : l.rest with
      | nil => rfl
      | cons c t =>
        rw [hleft] at hwhite hslashes hopening
        rw [Trivia.item?_other hslashes hopening, if_neg (by simpa using hwhite)]
    have hstep := skipTrivia_of_other h turns hwhite hslashes hopening
    refine ⟨Trivia.split_of_item?_eq_none hitem, ?_⟩
    rw [hstep, skipped, if_neg hopening, after_nil]

theorem skipTrivia_cursor {l : Lexer} (h : l.WellFormed) (hfits : l.source.length < 2 ^ 63)
    {turns : Nat} (henough : l.rest.length < turns) :
    Cursor.skipTrivia turns l.cursor
      = some (l.skipped (Trivia.split l.rest).1 (Trivia.split l.rest).2) := by
  -- A run of whitespace takes one turn, so the induction is on the turns, not on the items.
  induction turns generalizing l with
  | zero => cases henough
  | succ turns ih =>
    rcases skipTrivia_step h hfits turns with
      ⟨passed, rest, hfilled, hparts, hdivided, hstep⟩ | ⟨hdivided, hstep⟩
    · have hshorter : rest.length < turns := by
        have hsizes := congrArg List.length hparts
        have hpositive := List.length_pos_iff.2 hfilled
        rw [List.length_append] at hsizes
        omega
      have hlater := ih (wellFormed_after h passed hparts) hfits hshorter
      rw [skipped_after passed hparts] at hlater
      rw [hstep, hlater, hdivided]
      rfl
    · rw [hstep, hdivided]

section

variable {l : Lexer} (h : l.WellFormed) (hfits : l.source.length < 2 ^ 63) {c : Char} {t : Text}

include h hfits

theorem run_cursor (hleft : l.rest = c :: t) {p : Char → Bool} (hfirst : p c) (kind : Text → Kind) :
    l.cursor.run l.index p kind
      = some (kind (c :: t.takeWhile p),
          (l.after (c :: t.takeWhile p) (t.dropWhile p)).cursor) := by
  have hwalked := walk_cursor h hfits p
  rw [hleft, List.takeWhile_cons_of_pos hfirst, List.dropWhile_cons_of_pos hfirst] at hwalked
  have hparts : l.rest = (c :: t.takeWhile p) ++ t.dropWhile p := by
    rw [hleft, List.cons_append, List.takeWhile_append_dropWhile]
  have htext := textFrom_after h hparts
  simp only [Cursor.run, hwalked, htext, Option.bind_eq_bind, Option.bind_some]
  rfl

theorem string_cursor (hleft : l.rest = '"' :: t) :
    l.cursor.string
      = match t.dropWhile Lexeme.isStringChar with
        | [] => some (.fault .unterminatedString, (l.after ('"' :: t) []).cursor)
        | quote :: rest => some (.literal .string,
            (l.after ('"' :: (t.takeWhile Lexeme.isStringChar ++ [quote])) rest).cursor) := by
  have hwhole : t = t.takeWhile Lexeme.isStringChar ++ t.dropWhile Lexeme.isStringChar :=
    List.takeWhile_append_dropWhile.symm
  have hparts : l.rest = ('"' :: t.takeWhile Lexeme.isStringChar)
      ++ t.dropWhile Lexeme.isStringChar := by
    rw [hleft, List.cons_append, ← hwhole]
  have hbumped := bump_cursor h hfits hleft
  have hwalked : (l.after ['"'] t).cursor.walk Lexeme.isStringChar
      = some (l.after ('"' :: t.takeWhile Lexeme.isStringChar)
          (t.dropWhile Lexeme.isStringChar)).cursor := by
    have hmoved := walk_cursor (wellFormed_after h ['"'] hleft) hfits Lexeme.isStringChar
    rw [after_after] at hmoved
    exact hmoved
  have hbehind := wellFormed_after h _ hparts
  have hpeeked := peek_cursor hbehind
  simp only [Cursor.string, hbumped, hwalked, hpeeked, Option.bind_eq_bind, Option.bind_some]
  cases hrest : t.dropWhile Lexeme.isStringChar with
  | nil =>
    rw [hrest, List.append_nil] at hwhole
    rw [← hwhole]
    rfl
  | cons quote rest' =>
    have hclosing : (l.after ('"' :: t.takeWhile Lexeme.isStringChar)
        (t.dropWhile Lexeme.isStringChar)).rest = quote :: rest' := hrest
    have hpassed := bump_cursor hbehind hfits hclosing
    rw [after_after, hrest] at hpassed
    have hfound : (l.after ('"' :: t.takeWhile Lexeme.isStringChar) (quote :: rest')).rest.head?
        = some quote := rfl
    simp only [hfound, hpassed, Option.bind_some]
    rfl

theorem token_cursor (hleft : l.rest = c :: t) (hopening : ¬ ['/', '*'] <+: l.rest)
    {kind : Kind} {text rest : Text} (hfound : Lexeme.munch? l.rest = some (kind, text, rest)) :
    l.cursor.token c = some (kind, (l.after text rest).cursor) := by
  rw [hleft] at hfound hopening
  by_cases hquote : c = '"'
  · subst hquote
    have hletter : isAlphabetic '"' = false := by decide +kernel
    have hdigit : Char.isDigit '"' = false := by decide
    have hread := string_cursor h hfits hleft
    simp only [Cursor.token, hletter, hdigit, Bool.false_eq_true, if_false, beq_self_eq_true,
      if_true]
    rw [hread]
    simp only [Lexeme.munch?] at hfound
    cases hbehind : t.dropWhile Lexeme.isStringChar with
    | nil =>
      rw [hbehind] at hfound
      cases hfound
      rfl
    | cons c rest =>
      rw [hbehind] at hfound
      cases hfound
      rfl
  · rw [Lexeme.munch?_other hquote hopening] at hfound
    unfold Cursor.token
    split at hfound
    · next hletter =>
      cases hfound
      rw [if_pos hletter]
      exact run_cursor h hfits hleft (by simp [Lexeme.isWordChar, hletter]) Lexeme.wordKind
    · next hletter =>
      rw [if_neg hletter]
      split at hfound
      · next hdigit =>
        cases hfound
        rw [if_pos hdigit]
        exact run_cursor h hfits hleft (by simp [Lexeme.isNumberChar, hdigit]) Lexeme.numberKind
      · next hdigit =>
        rw [if_neg hdigit, if_neg (by simpa using hquote)]
        split at hfound
        · next hoperator =>
          cases hfound
          rw [if_pos hoperator]
          exact run_cursor h hfits hleft hoperator Lexeme.operatorKind
        · next hoperator =>
          cases hfound
          rw [if_neg hoperator]
          simp only [Cursor.sign, bump_cursor h hfits hleft, Option.bind_eq_bind, Option.bind_some]
          rfl

end

theorem next_cursor {l : Lexer} (h : l.WellFormed) (hfits : l.source.length < 2 ^ 63) :
    l.cursor.next = some (l.next.1, l.next.2.cursor) := by
  have henough : l.rest.length < l.cursor.turns := Nat.lt_succ_of_le (length_rest_le h)
  have hskipped := skipTrivia_cursor h hfits henough
  obtain ⟨gap, body, hdivided⟩ : ∃ gap body, Trivia.split l.rest = (gap, body) := ⟨_, _, rfl⟩
  have hparts : l.rest = gap ++ body := by
    have hwhole := Trivia.append_split l.rest
    rw [hdivided] at hwhole
    exact hwhole.symm
  have hhere := wellFormed_after h gap hparts
  have hlexeme : Lexeme.next? l.rest
      = (Lexeme.munch? body).map fun found => (⟨gap, found.1, found.2.1⟩, found.2.2) := by
    rw [Lexeme.next?, hdivided]
  rw [hdivided] at hskipped
  rw [Cursor.next, hskipped]
  -- Only a comment that is never closed still stands behind the gap: it was passed with the gap.
  by_cases hopening : ['/', '*'] <+: body
  · obtain ⟨t, rfl⟩ := hopening
    have hfound : Lexeme.next? l.rest
        = some (⟨gap, .fault .unterminatedComment, ['/', '*'] ++ t⟩, []) := hlexeme
    have hmarked : ['/', '*'] <+: ['/', '*'] ++ t := ⟨t, rfl⟩
    rw [next_of_lexeme hfound, Lexer.skipped, if_pos hmarked]
    simp only [Option.bind_eq_bind, Option.bind_some, after_after, hparts]
    rfl
  · rw [Lexer.skipped, if_neg hopening]
    have hpeeked := peek_cursor hhere
    simp only [Option.bind_eq_bind, Option.bind_some, hpeeked]
    cases body with
    | nil =>
      rw [List.append_nil] at hparts
      rw [next_of_none hlexeme, hparts]
      rfl
    | cons c t =>
      obtain ⟨⟨kind, text, rest⟩, hmunched⟩ : ∃ result, Lexeme.munch? (c :: t) = some result := by
        have hnonempty := mt Lexeme.munch?_eq_none_iff.1 (List.cons_ne_nil c t)
        exact Option.ne_none_iff_exists'.1 hnonempty
      have hfound : Lexeme.next? l.rest = some (⟨gap, kind, text⟩, rest) := by
        rw [hlexeme, hmunched]
        rfl
      have htoken := token_cursor hhere hfits rfl hopening hmunched
      have hspanned := spanFrom_after hhere (Lexeme.append_of_munch? hmunched)
      have hfirst : (l.after gap (c :: t)).rest.head? = some c := rfl
      have hstart : (l.after gap (c :: t)).cursor.index = (l.after gap (c :: t)).index := rfl
      have hfront : l.after gap (text ++ rest) = l.after gap (c :: t) := by
        rw [← Lexeme.append_of_munch? hmunched]
      simp only [hfirst, htoken, hstart, hspanned, Option.bind_some]
      rw [next_of_lexeme hfound, hfront]
      rfl

end Lexer

end LoxReader
