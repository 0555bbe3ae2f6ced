import TapeMachine.Proofs.RuleText
import TapeMachine.Proofs.Source.Refusal

/-!
Where a text is refused as a rule. As long as the rule is not whole the one terminal that may come
is expected there. Behind a whole rule nothing may come, and yet a semicolon is expected.
-/
namespace TapeMachine

open Terminal

namespace Form

variable {ts us w : List Terminal} {t u : Terminal} {g k : Form}

/-- What is left of a row with a bar behind it is the rest of the row and the bar. -/
theorem through_row (h : (row ts ++ barred t).through w = some g) :
    ∃ us, ts = w ++ us ∧ g = row us ++ barred t := by
  induction w generalizing ts with
  | nil =>
    cases h
    exact ⟨ts, rfl, rfl⟩
  | cons u w ih =>
    cases ts with
    | nil => cases h
    | cons v ts =>
      obtain ⟨k, hk, hg⟩ := Option.bind_eq_some_iff.mp h
      obtain ⟨rfl, hrest⟩ := Option.ite_none_right_eq_some.mp hk
      cases hrest
      obtain ⟨us, rfl, rfl⟩ := ih hg
      exact ⟨us, rfl, rfl⟩

theorem admitted_row : (row us ++ barred t).admitted = [us.head?.getD t] := by
  cases us <;> rfl

theorem complete_row : (row us ++ barred t).complete = us.isEmpty := by
  cases us <;> rfl

/-- In a row with a bar behind it comes what is next in the row. -/
theorem next_row_iff : (∃ k, (row us ++ barred t).next u = some k) ↔ us.head? = some u := by
  cases us with
  | nil =>
    constructor
    · rintro ⟨k, hk⟩
      cases hk
    · intro hu
      cases hu
  | cons v us =>
    change (∃ k, (if u = v then some (row us ++ barred t) else none) = some k) ↔ some v = some u
    by_cases huv : u = v
    · simp [huv]
    · simp [huv, Ne.symm huv]

end Form

/-- The terminals of a rule in their order. -/
def ruleRow : List Terminal :=
  [leftParen, name, comma, bit, comma, bit, comma, name, comma, name, rightParen]

theorem Terminal.lexeme?_semicolon (cs : List Char) :
    semicolon.lexeme? cs = if cs.head? = some ';' then some [';'] else none := by
  have hliteral : semicolon.literal? = some [';'] := rfl
  rw [lexeme?_literal hliteral]
  cases cs with
  | nil => rfl
  | cons c cs =>
    by_cases hc : ';' = c
    · subst hc
      rfl
    · simp [hc, Ne.symm hc]

namespace Reading

variable {source : String} {d : Diagnostic} {refusal : Refusal}

theorem parse_eq_error_iff {r : Reading} : r.parse source = .error d ↔
    ∃ refusal, r.tokens source.toList = .error refusal ∧ d = .ofRefusal source refusal := by
  unfold parse
  split
  · next hts => simp [hts]
  · next hts => simp [hts, eq_comm]

/-- What is said where some of the row of terminals is left behind a token that ends at `last`, and
the text goes on with a gap and `rest`. The next of the row is expected; behind the whole row
nothing is in the place of a semicolon, and a semicolon in the place of anything else. -/
structure RefusedBefore (us : List Terminal) (last : Position) (gap rest : List Char)
    (refusal : Refusal) : Prop where
  ends : rest = [] → us ≠ [] ∧ refusal.span = ⟨last, none⟩
  start : rest ≠ [] → refusal.span.start = last.after gap
  expected : refusal.expected =
    if us = [] ∧ rest.head? = some ';' then [] else [us.head?.getD semicolon]

theorem refusedBefore_of_unread {us : List Terminal} {last : Position} {gap rest : List Char}
    (hscan : (Form.row us ++ .barred semicolon).scan? rest = none) (hends : rest = [] → us ≠ []) :
    RefusedBefore us last gap rest
      (refusalAt (.row us ++ .barred semicolon) last (last.after gap) rest) where
  ends := by
    rintro rfl
    exact ⟨hends rfl, rfl⟩
  start hrest := by simpa [refusalAt, hrest] using foundAt_start hrest (last.after gap)
  expected := by
    have hnot : ¬ (us = [] ∧ rest.head? = some ';') := by
      rintro ⟨rfl, hhead⟩
      have hnone := Form.scan?_eq_none_iff.mp hscan semicolon (List.mem_singleton_self _)
      rw [lexeme?_semicolon, if_pos hhead] at hnone
      cases hnone
    rw [if_neg hnot]
    exact Form.admitted_row

/-- What is found in a row and may not come is the bar behind it. -/
theorem semicolon_of_barred {us : List Terminal} {rest word : List Char} {t : Terminal}
    (hscan : (Form.row us ++ .barred semicolon).scan? rest = some (t, word))
    (hbar : (Form.row us ++ .barred semicolon).next t = none) :
    us = [] ∧ word = [';'] ∧ ∃ tail, rest = ';' :: tail := by
  obtain ⟨hadmitted, hlexeme⟩ := Form.scan?_eq_some hscan
  cases us with
  | nil =>
    obtain rfl : t = semicolon := List.mem_singleton.mp hadmitted
    rw [lexeme?_semicolon, Option.ite_none_right_eq_some, Option.some.injEq] at hlexeme
    exact ⟨rfl, hlexeme.2.symm, List.head?_eq_some_iff.mp hlexeme.1⟩
  | cons v us =>
    obtain rfl : t = v := List.mem_singleton.mp hadmitted
    have hnext : ∃ k, (Form.row (t :: us) ++ .barred semicolon).next t = some k :=
      Form.next_row_iff.mpr rfl
    obtain ⟨k, hk⟩ := hnext
    rw [hbar] at hk
    cases hk

/-- A text is refused as a rule where it can be read no further. -/
theorem rule_tokens_error (h : Reading.rule.tokens source.toList = .error refusal) :
    ∃ w us last gap rest, Reading.rule.ReadsTo source w last gap rest ∧
      ruleForm.through ((w.map Token.lexeme).map Lexeme.terminal) =
        some (.row us ++ .barred semicolon) ∧
      us <:+ ruleRow ∧ RefusedBefore us last gap rest refusal := by
  obtain ⟨w, g, last, gap, rest, hstop⟩ :=
    @readFrom_stops Reading.rule.form .start .start source.toList Reading.rule.form_late [] .nil rfl
  change readFrom Reading.rule.form .start .start source.toList = _ at h
  rcases hstop with ⟨hread, hres⟩ | ⟨hread, t, word, ht, hbar, hres⟩
  · have hthrough : (Form.row ruleRow ++ .barred semicolon).through _ = some g :=
      hread.through_lexemes
    obtain ⟨us, hus, rfl⟩ := Form.through_row hthrough
    rw [hres, Form.complete_row] at h
    by_cases hends : (rest.isEmpty && us.isEmpty) = true
    · rw [if_pos hends] at h
      cases h
    rw [if_neg hends, Except.error.injEq] at h
    have hleft : rest = [] → us ≠ [] := by
      rintro rfl rfl
      exact hends rfl
    refine ⟨w, us, last, gap, rest, readsTo_of_upTo hread, hread.through_lexemes, ⟨_, hus.symm⟩, ?_⟩
    exact h ▸ refusedBefore_of_unread hread.scan hleft
  · have hthrough : (Form.row ruleRow ++ .barred semicolon).through _ = some g :=
      hread.through_lexemes
    obtain ⟨us, hus, rfl⟩ := Form.through_row hthrough
    obtain ⟨rfl, rfl, tail, rfl⟩ := semicolon_of_barred ht hbar
    rw [hres, Except.error.injEq] at h
    have hends : gap? (';' :: tail) = none := rfl
    have hnone : ∀ t k, (Form.row [] ++ .barred semicolon).next t = some k →
        ¬ t.Begins (';' :: tail) := by
      intro t k hk
      cases hk
    refine ⟨w, [], last, gap, _, readsTo_of_within hread hends hnone, hread.through_lexemes,
      List.nil_suffix, ?_⟩
    subst h
    exact ⟨by simp, fun _ => rfl, rfl⟩

end Reading

namespace Rule

variable {ls : List Lexeme} {t : Terminal} {text : String} {d : Diagnostic}

/-- Some text is read as a rule, and its tokens are these lexemes. -/
def Accepted (ls : List Lexeme) : Prop :=
  ∃ (text : String) (rule : Rule Bool) (ts : List Token), parse text = .ok rule ∧
    Reading.rule.tokens (Text.trimmed text).toList = .ok ts ∧ ts.map Token.lexeme = ls

/-- Some text is read as a rule, and its tokens begin with these lexemes and one of the terminal. -/
def MayFollow (ls : List Lexeme) (t : Terminal) : Prop :=
  ∃ l more, l.terminal = t ∧ Accepted (ls ++ l :: more)

/-- The rules that are accepted are the sentences of the notation for rules. -/
theorem accepted_iff : Accepted ls ↔ ∃ s : Sentence .rule, s.lexemes = ls := by
  constructor
  · rintro ⟨text, rule, ts, hrule, hts, rfl⟩
    obtain ⟨q, hq, -⟩ := parse_eq_ok.mp hrule
    obtain ⟨us, hus, hlexemes⟩ := Reading.tokens_of_laysOut hq
    obtain rfl := Except.ok.inj (hts.symm.trans hus)
    exact ⟨.rule q, hlexemes.symm⟩
  · rintro ⟨s, rfl⟩
    cases s with
    | rule q =>
      have hends : (Phrase.rule q).body.flatMap Lexeme.spaced =
          '(' :: ((Phrase.rule q).body.tail.dropLast.flatMap Lexeme.spaced ++ [')']) := by
        simp [Phrase.body, literal?, gapBehind]
      obtain ⟨text, htext⟩ : ∃ text : String,
          text.toList = (Phrase.rule q).body.flatMap Lexeme.spaced := ⟨_, String.toList_ofList⟩
      have hlays : Reading.LaysOut (.rule q) (Text.trimmed text) := by
        rw [trimmed_of_parens (htext.trans hends), Reading.LaysOut, htext]
        exact Lexeme.layout_spaced false _
      obtain ⟨ts, hts, hlexemes⟩ := Reading.tokens_of_laysOut hlays
      exact ⟨text, q.rule, ts, parse_eq_ok.mpr ⟨q, hlays, rfl⟩, hts, hlexemes⟩

theorem mayFollow_iff : MayFollow ls t ↔ Reading.rule.Follows ls t := by
  constructor
  · rintro ⟨l, more, ht, haccepted⟩
    obtain ⟨s, hs⟩ := accepted_iff.mp haccepted
    exact ⟨l, ht, s, more, by rw [hs, List.append_assoc, List.singleton_append]⟩
  · rintro ⟨l, ht, s, more, hs⟩
    rw [List.append_assoc, List.singleton_append] at hs
    exact ⟨l, more, ht, accepted_iff.mpr ⟨s, hs.symm⟩⟩

theorem refused_of_parse (h : parse text = .error d) :
    Reading.rule.parse (Text.trimmed text) = .error d := by
  cases ho : Reading.rule.parse (Text.trimmed text) with
  | error e => simpa [parse, ho, bind, Except.bind] using h
  | ok o =>
    obtain ⟨s, _, hs, -, -⟩ := Reading.parse_cases ho
    cases s with
    | rule q =>
      rw [parse_eq_ok.mpr ⟨q, hs, rfl⟩] at h
      cases h

section Left

variable {us : List Terminal}
  (hg : ruleForm.through (ls.map Lexeme.terminal) = some (.row us ++ .barred semicolon))
  (hls : ∀ l ∈ ls, l.Spelled)

include hg hls

theorem accepted_of_left : Accepted ls ↔ us = [] := by
  rw [accepted_iff]
  constructor
  · rintro ⟨s, hs⟩
    have hcomplete := Reading.complete_of_lexemes (r := .rule) hg hs
    rwa [Form.complete_row, List.isEmpty_iff] at hcomplete
  · rintro rfl
    exact Reading.exists_sentence (r := .rule) hls hg rfl

theorem mayFollow_of_left : MayFollow ls t ↔ us.head? = some t := by
  rw [mayFollow_iff, Reading.follows_iff_next (r := .rule) hls hg, Form.next_row_iff]

end Left

/-- Where a text is refused as a rule it can be read as tokens up to the place that is reported and
no further. Unless these tokens are a whole rule just one terminal is expected, and it is the one
that may come behind them. Behind a whole rule nothing may come, and there the text goes on: nothing
is expected in the place of a semicolon, and a semicolon in the place of anything else. -/
theorem expected_may_come (h : parse text = .error d) :
    ∃ w last gap rest expected found, Reading.rule.ReadsTo (Text.trimmed text) w last gap rest ∧
      (rest = [] → d.span = ⟨(w.getLast?.map Token.stop).getD .start, none⟩) ∧
      (rest ≠ [] → d.span.start = last.after gap) ∧ d.complaint = .unexpected expected found ∧
      (¬ Accepted (w.map Token.lexeme) → ∃ t, expected = [t.readable] ∧
        ∀ u, MayFollow (w.map Token.lexeme) u ↔ u = t) ∧
      (Accepted (w.map Token.lexeme) → rest ≠ [] ∧ (∀ u, ¬ MayFollow (w.map Token.lexeme) u) ∧
        expected = if rest.head? = some ';' then [] else [semicolon.readable]) := by
  obtain ⟨refusal, htokens, rfl⟩ := Reading.parse_eq_error_iff.mp (refused_of_parse h)
  obtain ⟨w, us, last, gap, rest, hto, hg, -, hrefused⟩ := Reading.rule_tokens_error htokens
  have hspelled := hto.reads.spelled
  have haccepted := accepted_of_left hg hspelled
  have hmay : ∀ u, MayFollow (w.map Token.lexeme) u ↔ us.head? = some u :=
    fun u => mayFollow_of_left hg hspelled
  refine ⟨w, last, gap, rest, _, _, hto, ?_, hrefused.start, rfl, ?_, ?_⟩
  · intro hrest
    rw [← hto.reads.position]
    exact (hrefused.ends hrest).2
  · rw [haccepted]
    intro hus
    obtain ⟨t, more, rfl⟩ := List.exists_cons_of_ne_nil hus
    refine ⟨t, ?_, fun u => ?_⟩
    · rw [hrefused.expected, if_neg (fun hbar => hus hbar.1)]
      rfl
    · rw [hmay, List.head?_cons, Option.some.injEq, eq_comm]
  · rw [haccepted]
    rintro rfl
    refine ⟨fun hrest => (hrefused.ends hrest).1 rfl, fun u hu => ?_, ?_⟩
    · cases (hmay u).mp hu
    · rw [hrefused.expected]
      by_cases hhead : rest.head? = some ';'
      · rw [if_pos ⟨rfl, hhead⟩, if_pos hhead]
        rfl
      · rw [if_neg (fun hbar => hhead hbar.2), if_neg hhead]
        rfl

/-- A rule that would read another symbol than 0 and 1. -/
def badBit : String := "(q0, 2, 0, R, q1)"

def badBitDiagnostic : Diagnostic where
  complaint := .unexpected ["a tape value (0 or 1)"] "'2'"
  span := ⟨⟨1, 6⟩, some ⟨1, 7⟩⟩
  code := badBit

theorem expected_may_come_badBit : parse badBit = .error badBitDiagnostic ∧
    ∃ w last gap rest, Reading.rule.ReadsTo (Text.trimmed badBit) w last gap rest ∧
      ¬ Accepted (w.map Token.lexeme) ∧
      ∃ t, t.readable = "a tape value (0 or 1)" ∧ MayFollow (w.map Token.lexeme) t := by
  have h : parse badBit = .error badBitDiagnostic := by decide +kernel
  obtain ⟨w, last, gap, rest, expected, found, hto, -, -, hcomplaint, hpartial, hwhole⟩ :=
    expected_may_come h
  cases hcomplaint
  have hnot : ¬ Accepted (w.map Token.lexeme) := by
    intro haccepted
    obtain ⟨-, -, hexpected⟩ := hwhole haccepted
    split at hexpected <;> revert hexpected <;> decide
  obtain ⟨t, ht, hmay⟩ := hpartial hnot
  exact ⟨h, w, last, gap, rest, hto, hnot, t, (List.singleton_inj.mp ht).symm, (hmay t).mpr rfl⟩

/-- A word behind a whole rule. -/
def trailing : String := "(q0, 1, 0, R, q1) x"

def trailingDiagnostic : Diagnostic where
  complaint := .unexpected ["';'"] "'x'"
  span := ⟨⟨1, 19⟩, some ⟨1, 20⟩⟩
  code := trailing

/-- A semicolon is expected behind the rule, though with one the text is no rule either. -/
theorem expected_semicolon_trailing : parse trailing = .error trailingDiagnostic ∧
    ∃ w last gap rest, Reading.rule.ReadsTo (Text.trimmed trailing) w last gap rest ∧
      trailingDiagnostic.span.start = last.after gap ∧ Accepted (w.map Token.lexeme) ∧
      ∀ t, t.readable = "';'" → ¬ MayFollow (w.map Token.lexeme) t := by
  have h : parse trailing = .error trailingDiagnostic := by decide +kernel
  obtain ⟨refusal, htokens, hd⟩ := Reading.parse_eq_error_iff.mp (refused_of_parse h)
  obtain ⟨w, us, last, gap, rest, hto, hg, hrow, hrefused⟩ := Reading.rule_tokens_error htokens
  have hexpected : ["';'"] = Names.sorted (refusal.expected.map readable) :=
    (Complaint.unexpected.inj (congrArg Diagnostic.complaint hd)).1
  have hspan : trailingDiagnostic.span = refusal.span := congrArg Diagnostic.span hd
  have hnone : ∀ t ∈ ruleRow, t.readable ≠ "';'" := by decide
  -- what is left of the row would be expected
  have hus : us = [] := by
    by_contra hus
    obtain ⟨t, more, rfl⟩ := List.exists_cons_of_ne_nil hus
    rw [hrefused.expected, if_neg (fun hbar => hus hbar.1)] at hexpected
    exact hnone t (hrow.subset List.mem_cons_self) (List.singleton_inj.mp hexpected).symm
  subst hus
  have hspelled := hto.reads.spelled
  refine ⟨h, w, last, gap, rest, hto, ?_, (accepted_of_left hg hspelled).mpr rfl, ?_⟩
  · rw [hspan]
    exact hrefused.start fun hrest => (hrefused.ends hrest).1 rfl
  · intro t _ hmay
    cases (mayFollow_of_left hg hspelled).mp hmay

end Rule

end TapeMachine
