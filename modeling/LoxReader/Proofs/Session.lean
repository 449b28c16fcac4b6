import LoxReader.Proofs.Checked.Cursor
import LoxReader.Proofs.Checked.Excerpt
import LoxReader.Proofs.Reports

/-!
A client of the library: it has some sources and the values that operations have made so far, and
goes on from any of them. Whatever it does, its values are well formed, and a machine that reads,
looks up or shows one of them never traps.
-/

namespace LoxReader

open Text

inductive Value where
  | position (p : Position)
  | span (s : Span)
  | lexer (l : Lexer)
  | token (t : Token)

namespace Value

def source : Value → Source
  | position p => p.source
  | span s => s.source
  | lexer l => l.source
  | token t => t.span.source

def WellFormed : Value → Prop
  | position p => p.WellFormed
  | span s => s.WellFormed
  | lexer l => l.WellFormed
  | token t => t.span.WellFormed

def position? : Value → Option Position
  | position p => some p
  | _ => none

def span? : Value → Option Span
  | span s => some s
  | _ => none

def lexer? : Value → Option Lexer
  | lexer l => some l
  | _ => none

def token? : Value → Option Token
  | token t => some t
  | _ => none

/-- A machine answers every question about a value as the value itself does. -/
def Safe : Value → Prop
  | position p => Checked.location p = some p.location
  | span s =>
    Checked.text s = some s.text ∧ Checked.length s = some s.length
      ∧ Checked.location s.startPosition = some s.startLocation
      ∧ Checked.location s.stopPosition = some s.stopLocation
      ∧ ∀ help, Checked.excerpt s help = some (s.renderExcerpt help)
  | lexer l =>
    l.cursor.position = some l.position ∧ l.cursor.next = some (l.next.1, l.next.2.cursor)
  | token t =>
    Checked.text t.span = some t.text
      ∧ ∀ d, Diagnostic.ofToken? t = some d → Checked.render d = some d.render

end Value

/-- The same for a source, with any words as arguments. -/
def Source.Safe (s : Source) : Prop :=
  ∀ n : UInt64, Checked.locate s n.toNat = some (s.location n.toNat)
    ∧ Checked.lineText s n.toNat = some (s.lineText? n.toNat)

/-- Operations on sources and values, which are named by their places in a session. -/
inductive Operation where
  | position (source : Nat) (index : UInt64)
  | endPosition (source : Nat)
  | span (source : Nat) (start stop : UInt64)
  | spanToEnd (source : Nat) (start : UInt64)
  | wholeSpan (source : Nat)
  | emptySpan (source : Nat) (index : UInt64)
  | lexer (source : Nat)
  | upTo (p q : Nat)
  | extendUpTo (span : Nat) (stop : UInt64)
  | cover (s t : Nat)
  | startPosition (span : Nat)
  | stopPosition (span : Nat)
  | token (kind : Kind) (span : Nat)
  | tokenSpan (token : Nat)
  | lexerPosition (lexer : Nat)
  | next (lexer : Nat)
  | clone (value : Nat)
  deriving DecidableEq, Repr

structure Session where
  sources : List Source
  values : List Value

namespace Session

/-- Sources that are opened one after the other are different, also where their texts agree. -/
def start (texts : List (Origin × Text)) : Session where
  sources := texts.mapIdx fun number p => { number, origin := p.1, text := p.2 }
  values := []

variable (s : Session)

def operand? {α : Type} (as? : Value → Option α) (n : Nat) : Option α := s.values[n]?.bind as?

def push (v : Value) : Session := { s with values := s.values ++ [v] }

/-- Adds what an operation makes of its operand. Without one nothing is done. -/
def make {α : Type} (operand : Option α) (result : α → Except RangeError Value) :
    Except RangeError Session :=
  match operand with
  | some a => (result a).map s.push
  | none => .ok s

/-- A lexer that reads moves on, and its token is one more value. -/
def advance (n : Nat) (l : Lexer) : Session :=
  { s with values := s.values.set n (.lexer l.next.2) ++ (l.next.1.map Value.token).toList }

def step : Operation → Except RangeError Session
  | .position n index => s.make s.sources[n]? fun v => (v.position index.toNat).map .position
  | .endPosition n => s.make s.sources[n]? fun v => .ok (.position v.endPosition)
  | .span n start stop =>
    s.make s.sources[n]? fun v => (v.span start.toNat stop.toNat).map .span
  | .spanToEnd n start => s.make s.sources[n]? fun v => (v.spanToEnd start.toNat).map .span
  | .wholeSpan n => s.make s.sources[n]? fun v => .ok (.span v.wholeSpan)
  | .emptySpan n index => s.make s.sources[n]? fun v => (v.emptySpan index.toNat).map .span
  | .lexer n => s.make s.sources[n]? fun v => .ok (.lexer (.ofSource v))
  | .upTo p q =>
    s.make (do pure (← s.operand? Value.position? p, ← s.operand? Value.position? q))
      fun (p, q) => (p.upTo q).map .span
  | .extendUpTo n stop =>
    s.make (s.operand? Value.span? n) fun v => (v.extendUpTo stop.toNat).map .span
  | .cover n m =>
    s.make (do pure (← s.operand? Value.span? n, ← s.operand? Value.span? m))
      fun (v, w) => (v.cover w).map .span
  | .startPosition n => s.make (s.operand? Value.span? n) fun v => .ok (.position v.startPosition)
  | .stopPosition n => s.make (s.operand? Value.span? n) fun v => .ok (.position v.stopPosition)
  | .token kind n => s.make (s.operand? Value.span? n) fun v => .ok (.token ⟨kind, v⟩)
  | .tokenSpan n => s.make (s.operand? Value.token? n) fun t => .ok (.span t.span)
  | .lexerPosition n => s.make (s.operand? Value.lexer? n) fun l => .ok (.position l.position)
  | .next n => .ok (((s.operand? Value.lexer? n).map (s.advance n)).getD s)
  | .clone n => s.make s.values[n]? .ok

/-- An operation that gives an error makes nothing. -/
def run (s : Session) : List Operation → Session
  | [] => s
  | operation :: operations => run ((s.step operation).toOption.getD s) operations

/-- Sources are told apart by their numbers, and every value is well formed and belongs to one of
them. -/
structure Sound (s : Session) : Prop where
  distinct : ∀ a ∈ s.sources, ∀ b ∈ s.sources, a.number = b.number → a = b
  values : ∀ v ∈ s.values, v.WellFormed ∧ v.source ∈ s.sources

structure WellFormed (s : Session) : Prop extends Sound s where
  small : ∀ a ∈ s.sources, a.Small

variable {s}

theorem number_of_start {texts : List (Origin × Text)} {n : Nat} {source : Source}
    (h : (start texts).sources[n]? = some source) : source.number = n := by
  rw [start, List.getElem?_mapIdx, Option.map_eq_some_iff] at h
  obtain ⟨p, -, rfl⟩ := h
  rfl

theorem sound_start (texts : List (Origin × Text)) : (start texts).Sound where
  distinct a ha b hb hsame := by
    -- The number of a source is its place in the list.
    obtain ⟨n, hplace⟩ := List.mem_iff_getElem?.mp ha
    obtain ⟨m, hplace'⟩ := List.mem_iff_getElem?.mp hb
    rw [number_of_start hplace, number_of_start hplace'] at hsame
    rw [hsame, hplace'] at hplace
    exact (Option.some.inj hplace).symm
  values v hv := by cases hv

theorem wellFormed_start {texts : List (Origin × Text)}
    (hsmall : ∀ p ∈ texts, byteLength p.2 < 2 ^ 61) : (start texts).WellFormed where
  toSound := sound_start texts
  small a ha := by
    simp only [start, List.mem_mapIdx] at ha
    obtain ⟨n, hinside, rfl⟩ := ha
    exact hsmall _ (List.getElem_mem hinside)

theorem sound_push (h : s.Sound) {v : Value} (hgood : v.WellFormed)
    (hhere : v.source ∈ s.sources) : (s.push v).Sound where
  distinct := h.distinct
  values w hw := by
    rcases List.mem_append.1 hw with hold | hnew
    · exact h.values w hold
    · rw [List.mem_singleton.1 hnew]
      exact ⟨hgood, hhere⟩

theorem of_make {α : Type} {operand : Option α} {result : α → Except RangeError Value}
    {s' : Session} (hmade : s.make operand result = .ok s') :
    s' = s ∨ ∃ a v, operand = some a ∧ result a = .ok v ∧ s' = s.push v := by
  unfold make at hmade
  cases operand with
  | none =>
    cases hmade
    exact .inl rfl
  | some a =>
    cases houtcome : result a with
    | error e =>
      simp only [houtcome] at hmade
      cases hmade
    | ok v =>
      simp only [houtcome] at hmade
      cases hmade
      exact .inr ⟨a, v, rfl, houtcome, rfl⟩

theorem of_step_next {n : Nat} {s' : Session} (hmade : s.step (.next n) = .ok s') :
    s' = s ∨ ∃ l, s.operand? Value.lexer? n = some l ∧ s' = s.advance n l := by
  cases hfound : s.operand? Value.lexer? n with
  | none =>
    simp only [step, hfound] at hmade
    cases hmade
    exact .inl rfl
  | some l =>
    simp only [step, hfound] at hmade
    cases hmade
    exact .inr ⟨l, rfl, rfl⟩

theorem sound_make (h : s.Sound) {α : Type} {operand : Option α}
    {result : α → Except RangeError Value} {s' : Session}
    (hgood : ∀ a v, operand = some a → result a = .ok v → v.WellFormed ∧ v.source ∈ s.sources)
    (hmade : s.make operand result = .ok s') : s'.Sound := by
  rcases of_make hmade with rfl | ⟨a, v, hfound, houtcome, rfl⟩
  · exact h
  · obtain ⟨hfine, hhere⟩ := hgood a v hfound houtcome
    exact sound_push h hfine hhere

theorem of_operand? (h : s.Sound) {α : Type} {as? : Value → Option α} (wrap : α → Value)
    (hinverse : ∀ v a, as? v = some a → v = wrap a) {n : Nat} {a : α}
    (hfound : s.operand? as? n = some a) : (wrap a).WellFormed ∧ (wrap a).source ∈ s.sources := by
  obtain ⟨v, hplace, hsame⟩ := Option.bind_eq_some_iff.1 hfound
  rw [← hinverse v a hsame]
  exact h.values v (List.mem_of_getElem? hplace)

theorem of_position (h : s.Sound) {n : Nat} {p : Position}
    (hfound : s.operand? Value.position? n = some p) : p.WellFormed ∧ p.source ∈ s.sources := by
  refine of_operand? h .position (fun v a hsame => ?_) hfound
  cases v <;> cases hsame
  rfl

theorem of_span (h : s.Sound) {n : Nat} {v : Span}
    (hfound : s.operand? Value.span? n = some v) : v.WellFormed ∧ v.source ∈ s.sources := by
  refine of_operand? h .span (fun v a hsame => ?_) hfound
  cases v <;> cases hsame
  rfl

theorem of_lexer (h : s.Sound) {n : Nat} {l : Lexer}
    (hfound : s.operand? Value.lexer? n = some l) : l.WellFormed ∧ l.source ∈ s.sources := by
  refine of_operand? h .lexer (fun v a hsame => ?_) hfound
  cases v <;> cases hsame
  rfl

theorem of_token (h : s.Sound) {n : Nat} {t : Token}
    (hfound : s.operand? Value.token? n = some t) :
    t.span.WellFormed ∧ t.span.source ∈ s.sources := by
  refine of_operand? h .token (fun v a hsame => ?_) hfound
  cases v <;> cases hsame
  rfl

theorem operands {α β : Type} {x : Option α} {y : Option β} {pair : α × β}
    (hfound : (do pure (← x, ← y)) = some pair) :
    ∃ a, x = some a ∧ ∃ b, y = some b ∧ pair = (a, b) := by
  cases x with
  | none => cases hfound
  | some a =>
    cases y with
    | none => cases hfound
    | some b =>
      cases hfound
      exact ⟨a, rfl, b, rfl, rfl⟩

theorem exists_of_map {α : Type} {x : Except RangeError α} {f : α → Value} {v : Value}
    (hmade : x.map f = .ok v) : ∃ a, x = .ok a ∧ v = f a := by
  cases x with
  | error e => cases hmade
  | ok a =>
    cases hmade
    exact ⟨a, rfl, rfl⟩

theorem wellFormed_of_span {source : Source} (hhere : source ∈ s.sources) {start stop : Nat}
    {span : Span} (hspanned : source.span start stop = .ok span) :
    span.WellFormed ∧ span.source ∈ s.sources := by
  have hgood := Source.wellFormed_span hspanned
  obtain ⟨_, _, _, rfl⟩ := Source.span_eq_ok_iff.1 hspanned
  exact ⟨hgood, hhere⟩

theorem sound_advance (h : s.Sound) {n : Nat} {l : Lexer}
    (hfound : s.operand? Value.lexer? n = some l) : (s.advance n l).Sound where
  distinct := h.distinct
  values v hv := by
    obtain ⟨hgood, hhere⟩ := of_lexer h hfound
    obtain ⟨hlater, htokens⟩ := Lexer.wellFormed_next hgood
    obtain ⟨hstays, hamong⟩ := l.source_next
    rcases List.mem_append.1 hv with hold | hnew
    · rcases List.mem_or_eq_of_mem_set hold with hkept | rfl
      · exact h.values v hkept
      · refine ⟨hlater, ?_⟩
        change l.next.2.source ∈ s.sources
        rw [hstays]
        exact hhere
    · cases hread : l.next.1 with
      | none =>
        rw [hread] at hnew
        cases hnew
      | some token =>
        rw [hread] at hnew
        obtain rfl := List.mem_singleton.1 hnew
        refine ⟨htokens token hread, ?_⟩
        change token.span.source ∈ s.sources
        rw [hamong token hread]
        exact hhere

theorem sound_step (h : s.Sound) {operation : Operation} {s' : Session}
    (hmade : s.step operation = .ok s') : s'.Sound := by
  cases operation with
  | position n index =>
    refine sound_make h (fun source v hfound hresult => ?_) hmade
    obtain ⟨p, hplaced, rfl⟩ := exists_of_map hresult
    have hgood := Source.wellFormed_position hplaced
    obtain ⟨_, rfl⟩ := Source.position_eq_ok_iff.1 hplaced
    exact ⟨hgood, List.mem_of_getElem? hfound⟩
  | endPosition n =>
    refine sound_make h (fun source v hfound hresult => ?_) hmade
    cases hresult
    exact ⟨source.wellFormed_endPosition, List.mem_of_getElem? hfound⟩
  | span n start stop =>
    refine sound_make h (fun source v hfound hresult => ?_) hmade
    obtain ⟨span, hspanned, rfl⟩ := exists_of_map hresult
    exact wellFormed_of_span (List.mem_of_getElem? hfound) hspanned
  | spanToEnd n start =>
    refine sound_make h (fun source v hfound hresult => ?_) hmade
    obtain ⟨span, hspanned, rfl⟩ := exists_of_map hresult
    exact wellFormed_of_span (List.mem_of_getElem? hfound) hspanned
  | wholeSpan n =>
    refine sound_make h (fun source v hfound hresult => ?_) hmade
    cases hresult
    exact ⟨source.wellFormed_wholeSpan, List.mem_of_getElem? hfound⟩
  | emptySpan n index =>
    refine sound_make h (fun source v hfound hresult => ?_) hmade
    obtain ⟨span, hspanned, rfl⟩ := exists_of_map hresult
    exact wellFormed_of_span (List.mem_of_getElem? hfound) hspanned
  | lexer n =>
    refine sound_make h (fun source v hfound hresult => ?_) hmade
    cases hresult
    exact ⟨Lexer.wellFormed_ofSource source, List.mem_of_getElem? hfound⟩
  | upTo n m =>
    refine sound_make h (fun pair v hfound hresult => ?_) hmade
    obtain ⟨p, hfirst, q, hsecond, rfl⟩ := operands hfound
    obtain ⟨span, hjoined, rfl⟩ := exists_of_map hresult
    obtain ⟨_, hspanned⟩ := Position.upTo_eq_ok_iff.1 hjoined
    exact wellFormed_of_span (of_position h hfirst).2 hspanned
  | extendUpTo n stop =>
    refine sound_make h (fun span v hfound hresult => ?_) hmade
    obtain ⟨longer, hextended, rfl⟩ := exists_of_map hresult
    obtain ⟨_, hspanned⟩ := Span.extendUpTo_eq_ok_iff.1 hextended
    exact wellFormed_of_span (of_span h hfound).2 hspanned
  | cover n m =>
    refine sound_make h (fun pair v hfound hresult => ?_) hmade
    obtain ⟨left, hfirst, right, hsecond, rfl⟩ := operands hfound
    obtain ⟨span, hcovered, rfl⟩ := exists_of_map hresult
    obtain ⟨hgood, hhere⟩ := of_span h hfirst
    obtain ⟨hgood', hhere'⟩ := of_span h hsecond
    have hboth := Span.wellFormed_cover hgood hgood' (h.distinct _ hhere _ hhere') hcovered
    obtain ⟨_, rfl⟩ := Span.cover_eq_ok_iff.1 hcovered
    exact ⟨hboth, hhere⟩
  | startPosition n =>
    refine sound_make h (fun span v hfound hresult => ?_) hmade
    cases hresult
    obtain ⟨hgood, hhere⟩ := of_span h hfound
    exact ⟨hgood.start, hhere⟩
  | stopPosition n =>
    refine sound_make h (fun span v hfound hresult => ?_) hmade
    cases hresult
    obtain ⟨hgood, hhere⟩ := of_span h hfound
    exact ⟨hgood.stop, hhere⟩
  | token kind n =>
    refine sound_make h (fun span v hfound hresult => ?_) hmade
    cases hresult
    exact of_span h hfound
  | tokenSpan n =>
    refine sound_make h (fun token v hfound hresult => ?_) hmade
    cases hresult
    exact of_token h hfound
  | lexerPosition n =>
    refine sound_make h (fun l v hfound hresult => ?_) hmade
    cases hresult
    obtain ⟨hgood, hhere⟩ := of_lexer h hfound
    exact ⟨Lexer.isBoundary_index hgood, hhere⟩
  | next n =>
    rcases of_step_next hmade with rfl | ⟨l, hfound, rfl⟩
    · exact h
    · exact sound_advance h hfound
  | clone n =>
    refine sound_make h (fun v w hfound hresult => ?_) hmade
    cases hresult
    exact h.values v (List.mem_of_getElem? hfound)

theorem sound_run {s : Session} (h : s.Sound) (operations : List Operation) :
    (s.run operations).Sound := by
  induction operations generalizing s with
  | nil => exact h
  | cons operation operations ih =>
    rw [run]
    cases hmade : s.step operation with
    | error e => exact ih h
    | ok s' => exact ih (sound_step h hmade)

theorem sources_make {α : Type} {operand : Option α} {result : α → Except RangeError Value}
    {s' : Session} (hmade : s.make operand result = .ok s') : s'.sources = s.sources := by
  rcases of_make hmade with rfl | ⟨a, v, -, -, rfl⟩
  · rfl
  · rfl

theorem sources_step {operation : Operation} {s' : Session} (hmade : s.step operation = .ok s') :
    s'.sources = s.sources := by
  cases operation with
  | next n =>
    rcases of_step_next hmade with rfl | ⟨l, -, rfl⟩
    · rfl
    · rfl
  | _ => exact sources_make hmade

theorem sources_run (s : Session) (operations : List Operation) :
    (s.run operations).sources = s.sources := by
  induction operations generalizing s with
  | nil => rfl
  | cons operation operations ih =>
    rw [run, ih]
    cases hmade : s.step operation with
    | error e => rfl
    | ok s' => exact sources_step hmade

theorem wellFormed_run {s : Session} (h : s.WellFormed) (operations : List Operation) :
    (s.run operations).WellFormed where
  toSound := sound_run h.toSound operations
  small := by
    rw [sources_run]
    exact h.small

end Session

theorem Source.safe_of_small {s : Source} (hsmall : s.Small) : s.Safe := by
  intro n
  constructor
  · exact Checked.locate_eq hsmall.fits n.toNat
  · exact Checked.lineText_eq hsmall.fits n.toNat

theorem Value.safe_of_wellFormed {v : Value} (h : v.WellFormed) (hsmall : v.source.Small) :
    v.Safe := by
  cases v with
  | position p => exact Checked.location_eq h hsmall
  | span s =>
    have hfirst := Checked.location_eq (Span.wellFormed_startPosition h) hsmall
    have hlast := Checked.location_eq (Span.wellFormed_stopPosition h) hsmall
    exact ⟨Checked.text_eq h, Checked.length_eq h, hfirst, hlast, Checked.excerpt_eq h hsmall⟩
  | lexer l => exact ⟨Lexer.position_cursor h, Lexer.next_cursor h hsmall.fits⟩
  | token t =>
    refine ⟨Checked.text_eq h, ?_⟩
    intro d hmade
    have hsame := Diagnostic.span_of_ofToken? hmade
    exact Checked.render_eq (hsame ▸ h) (hsame ▸ hsmall)

/-- Every value that operations make, in any order and with any words as arguments, is well formed,
and no question about it or about a source makes a machine trap. -/
theorem Session.run_safe (texts : List (Origin × Text))
    (hsmall : ∀ p ∈ texts, byteLength p.2 < 2 ^ 61) (operations : List Operation) :
    (∀ source ∈ ((start texts).run operations).sources, source.Safe)
      ∧ ∀ v ∈ ((start texts).run operations).values,
        v.source ∈ ((start texts).run operations).sources ∧ v.WellFormed ∧ v.Safe := by
  have h := wellFormed_run (wellFormed_start hsmall) operations
  constructor
  · intro source hinside
    exact Source.safe_of_small (h.small source hinside)
  · intro v hinside
    obtain ⟨hgood, hhere⟩ := h.values v hinside
    exact ⟨hhere, hgood, Value.safe_of_wellFormed hgood (h.small _ hhere)⟩

theorem Session.run_safe_of_unclosed_string :
    let texts := [(Origin.synthesized [], "é\t\"x".toList)]
    let s := (start texts).run
      [.lexer 0, .next 0, .next 0, .position 0 1, .wholeSpan 0, .token (.fault .invalid) 3,
        .cover 3 3, .clone 0, .next 0]
    (∀ p ∈ texts, byteLength p.2 < 2 ^ 61) ∧ s.values.length = 7
      ∧ (∀ source ∈ s.sources, source.Safe)
      ∧ ∀ v ∈ s.values, v.source ∈ s.sources ∧ v.WellFormed ∧ v.Safe := by
  refine ⟨by decide, by decide +kernel, ?_⟩
  exact run_safe _ (by decide) _

end LoxReader
