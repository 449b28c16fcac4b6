import LoxReader.Proofs.Tiling
import LoxReader.Report.Diagnostic

/-!
The faults of a source and what is said about them: a report for each, in their order, and a
string or a comment that is never closed is the last of them.
-/

namespace LoxReader

open Text

namespace Diagnostic

def fault : Diagnostic → Fault
  | invalidToken _ => .invalid
  | unterminatedString _ => .unterminatedString
  | unterminatedComment _ => .unterminatedComment

/-- The token that a diagnostic is about. -/
def token (d : Diagnostic) : Token := ⟨.fault d.fault, d.span⟩

theorem ofToken?_token (d : Diagnostic) : ofToken? d.token = some d := by
  cases d <;> rfl

theorem ofToken?_eq_some_iff {t : Token} {d : Diagnostic} : ofToken? t = some d ↔ d.token = t := by
  constructor
  · intro h
    unfold ofToken? at h
    obtain ⟨k, s⟩ := t
    split at h <;> cases h <;> simp_all [token, fault, span]
  · rintro rfl
    exact ofToken?_token d

theorem span_of_ofToken? {t : Token} {d : Diagnostic} (h : ofToken? t = some d) :
    d.span = t.span := by
  rw [← ofToken?_eq_some_iff.mp h]
  rfl

theorem isSome_ofToken? (t : Token) : (ofToken? t).isSome = t.isError := by
  obtain ⟨k, s⟩ := t
  cases k with
  | fault f => cases f <;> rfl
  | _ => rfl

theorem map_token_filterMap (ts : List Token) :
    (ts.filterMap ofToken?).map token = ts.filter Token.isError := by
  induction ts with
  | nil => rfl
  | cons t ts ih =>
    have hsome := isSome_ofToken? t
    cases hd : ofToken? t with
    | none =>
      rw [hd] at hsome
      rw [List.filter_cons_of_neg (by simp [← hsome]), List.filterMap_cons_none hd, ih]
    | some d =>
      rw [hd] at hsome
      rw [List.filter_cons_of_pos hsome.symm, List.filterMap_cons_some hd, List.map_cons, ih,
        ofToken?_eq_some_iff.mp hd]

theorem filterMap_ofToken?_eq_nil_iff {ts : List Token} :
    ts.filterMap ofToken? = [] ↔ ∀ t ∈ ts, t.isError = false := by
  rw [List.filterMap_eq_nil_iff]
  refine forall₂_congr fun t _ => ?_
  rw [← isSome_ofToken?, Option.isSome_eq_false_iff, Option.isNone_iff_eq_none]

end Diagnostic

namespace Lexeme

theorem eq_of_isSpelled_fault {f : Fault} {groups : List Group} {t : Text} {other : Kind}
    (hgroups : Group.error ∉ groups) (h : (Kind.fault f).IsSpelled groups t other) :
    other = .fault f := by
  rcases h with ⟨hgroup, -⟩ | ⟨rfl, -⟩
  · exact absurd hgroup hgroups
  · rfl

theorem after_eq_nil_of_munch {f : Fault} {x after : Text} (h : Munch (.fault f) x after)
    (hf : f ≠ .invalid) : after = [] := by
  have hother : Kind.fault .invalid ≠ .fault f := by simp [hf.symm]
  cases h with
  | unterminatedString _ => rfl
  | unterminatedComment _ => rfl
  | invalidNumber _ _ _ => exact absurd rfl hf
  | word _ _ hk => cases eq_of_isSpelled_fault (by decide) hk
  | operator _ _ _ _ hk => exact absurd (eq_of_isSpelled_fault (by decide) hk) hother
  | sign _ _ _ _ _ hk => exact absurd (eq_of_isSpelled_fault (by decide) hk) hother

end Lexeme

namespace Placed

/-- What is never closed takes all that is left of a source. -/
theorem last_of_fault {s : Source} {front : Text} {ts : List Token} (h : Placed s front ts)
    {before after : List Token} {t : Token} (hts : ts = before ++ t :: after) {f : Fault}
    (hkind : t.kind = .fault f) (hf : f ≠ .invalid) : after = [] ∧ t.span.stop = s.length := by
  induction h generalizing before with
  | done => simp at hts
  | @token front gap x rest k ts hparts _ hmunch htail ih =>
    cases before with
    | nil =>
      obtain ⟨rfl, rfl⟩ := List.cons.inj hts
      obtain rfl : k = .fault f := hkind
      have hrest := Lexeme.after_eq_nil_of_munch hmunch hf
      rw [hrest, List.append_nil] at hparts
      exact ⟨htail.eq_nil_of_whole hparts, by rw [Source.length, hparts]⟩
    | cons _ before => exact ih (List.cons.inj hts).2

end Placed

namespace Lexer

/-- A lexer is read to its end, and what is to be said about a token is received before the next
token is read. -/
inductive Reported {σ : Type} [Collector σ Diagnostic] : Lexer → σ → List Token → σ → Prop
  | done {l last : Lexer} {collector : σ} : l.next = (none, last) →
      Reported l collector [] collector
  | fault {l l' : Lexer} {collector last : σ} {t : Token} {ts : List Token} {d : Diagnostic} :
      l.next = (some t, l') → Diagnostic.ofToken? t = some d →
      Reported l' (Collector.receive collector d) ts last → Reported l collector (t :: ts) last
  | token {l l' : Lexer} {collector last : σ} {t : Token} {ts : List Token} :
      l.next = (some t, l') → Diagnostic.ofToken? t = none →
      Reported l' collector ts last → Reported l collector (t :: ts) last

theorem reported_drain {σ : Type} [Collector σ Diagnostic] (l : Lexer) (collector : σ) :
    Reported l collector l.drain.1
      (Collector.receiveAll collector (l.drain.1.filterMap Diagnostic.ofToken?)) := by
  fun_induction drain l generalizing collector with
  | case1 l t l' hnext _ tokens last hdrain ih =>
    rw [hdrain] at ih
    cases hd : Diagnostic.ofToken? t with
    | none =>
      rw [List.filterMap_cons_none hd]
      exact .token hnext hd (ih collector)
    | some d =>
      rw [List.filterMap_cons_some hd]
      exact .fault hnext hd (ih (Collector.receive collector d))
  | case2 l l' hnext => exact .done hnext

end Lexer

namespace Source

theorem pairwise_reports (s : Source) :
    (s.tokens.filterMap Diagnostic.ofToken?).Pairwise fun d e =>
      d.span.stop ≤ e.span.start ∧ d.span.compare? e.span = some .lt := by
  have hplaced := Placed.of_source s
  have hordered : s.tokens.Pairwise fun t u =>
      t.span.stop ≤ u.span.start ∧ t.span.compare? u.span = some .lt := by
    refine hplaced.pairwise.imp_of_mem fun {t u} ht hu hle => ⟨hle, ?_⟩
    obtain ⟨hsource, hsize⟩ := hplaced.span_of_mem t ht
    have hlt : t.span.start < u.span.start := Nat.lt_of_lt_of_le hsize hle
    simp only [Span.compare?, compareWithin, hsource, (hplaced.span_of_mem u hu).1, if_true,
      Nat.compare_eq_lt.mpr hlt]
    rfl
  have hfaults := hordered.sublist (List.filter_sublist (p := Token.isError))
  rw [← Diagnostic.map_token_filterMap, List.pairwise_map] at hfaults
  exact hfaults

theorem last_of_unterminated {s : Source} {before after : List Diagnostic} {d : Diagnostic}
    (h : s.tokens.filterMap Diagnostic.ofToken? = before ++ d :: after) (hd : d.fault ≠ .invalid) :
    after = [] ∧ d.span.stop = s.length := by
  obtain ⟨ts, ts', hts, -, hrest⟩ := List.filterMap_eq_append_iff.mp h
  obtain ⟨skipped, t, us, rfl, -, ht, hafter⟩ := List.filterMap_eq_cons_iff.mp hrest
  rw [Diagnostic.ofToken?_eq_some_iff] at ht
  subst ht
  rw [← List.append_assoc] at hts
  obtain ⟨rfl, hstop⟩ := (Placed.of_source s).last_of_fault hts rfl hd
  exact ⟨hafter.symm, hstop⟩

theorem tokenize_reports (s : Source) : ∃ reports : List Diagnostic,
    reports.map Diagnostic.token = s.tokens.filter (fun t => t.kind.group = .error)
      ∧ (∀ k : Kind, k.group = .error ↔ k.code / 1000 = 0)
      ∧ (∀ (σ : Type) [Collector σ Diagnostic] (collector : σ),
        s.tokenize collector = (s.tokens, Collector.receiveAll collector reports)
          ∧ Lexer.Reported (Lexer.ofSource s) collector (s.tokenize collector).1
            (s.tokenize collector).2)
      ∧ (s.tokenize ({} : Log Diagnostic)).2.toList = reports
      ∧ (s.tokenize ({} : Log Diagnostic)).2.length = reports.length
      ∧ (s.tokenize ({} : Tally)).2.count = reports.length
      ∧ (s.tokens.filter fun t => t.kind.group = .error).length = reports.length
      ∧ (s.tokens.any Token.isError ↔ reports ≠ [])
      ∧ (∀ d ∈ reports, d.span.source = s ∧ d.span.start < d.span.stop)
      ∧ reports.Pairwise (fun d e =>
        d.span.stop ≤ e.span.start ∧ d.span.compare? e.span = some .lt)
      ∧ ∀ before d after, reports = before ++ d :: after → d.fault ≠ .invalid →
        after = [] ∧ d.span.stop = s.length := by
  have hfaults : (s.tokens.filter fun t => t.kind.group = .error) = s.tokens.filter Token.isError :=
    rfl
  have htokens := Diagnostic.map_token_filterMap s.tokens
  refine ⟨s.tokens.filterMap Diagnostic.ofToken?, htokens, fun k => ?_,
    fun σ _ collector => ⟨rfl, ?_⟩, ?_, ?_, ?_, ?_, ?_, ?_, s.pairwise_reports,
    fun before d after => last_of_unterminated⟩
  · rw [← Kind.isError_iff_code, Kind.isError, beq_iff_eq]
  · exact Lexer.reported_drain (Lexer.ofSource s) collector
  · exact Log.toList_receiveAll {} _
  · rw [← Log.length_toList]
    exact congrArg List.length (Log.toList_receiveAll {} _)
  · exact (Tally.count_receiveAll {} _).trans (Nat.zero_add _)
  · rw [hfaults, ← htokens, List.length_map]
  · rw [ne_eq, Diagnostic.filterMap_ofToken?_eq_nil_iff, List.any_eq_true]
    simp
  · intro d hd
    have hmem : d.token ∈ s.tokens.filter Token.isError := htokens ▸ List.mem_map_of_mem hd
    exact (Placed.of_source s).span_of_mem d.token (List.mem_filter.mp hmem).1

end Source

end LoxReader
