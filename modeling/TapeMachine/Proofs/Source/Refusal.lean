import Mathlib.Data.String.Basic
import TapeMachine.Proofs.Source.Parsing
import TapeMachine.Proofs.Source.Progress

/-! What the diagnostic of a refused text says: how far the text can be read, and what may come
there. -/
namespace TapeMachine

open Terminal

namespace Names

theorem pairwise_insert {s : String} {xs : List String} (h : xs.Pairwise (· < ·)) :
    (insert s xs).Pairwise (· < ·) := by
  induction xs with
  | nil => exact List.pairwise_singleton _ _
  | cons x xs ih =>
    obtain ⟨hx, hxs⟩ := List.pairwise_cons.mp h
    unfold insert
    split
    · next hsx =>
      refine List.pairwise_cons.mpr ⟨?_, h⟩
      exact List.forall_mem_cons.mpr ⟨hsx, fun y hy => hsx.trans (hx y hy)⟩
    · next hsx =>
      split
      · exact h
      · next hne =>
        have hlt : x < s := lt_of_le_of_ne (not_lt.mp hsx) (Ne.symm hne)
        refine List.pairwise_cons.mpr ⟨fun y hy => ?_, ih hxs⟩
        rcases mem_insert.mp hy with rfl | hy
        · exact hlt
        · exact hx y hy

/-- Sorted names come in order, and none of them twice. -/
theorem pairwise_sorted (xs : List String) : (sorted xs).Pairwise (· < ·) := by
  induction xs with
  | nil => exact .nil
  | cons x xs ih => exact pairwise_insert ih

end Names

namespace Terminal

/-- A text begins with a lexeme of the terminal. -/
def Begins (t : Terminal) (cs : List Char) : Prop :=
  ∃ l : Lexeme, l.terminal = t ∧ l.Spelled ∧ l.text.toList <+: cs

theorem exists_spelled (t : Terminal) : ∃ l : Lexeme, l.terminal = t ∧ l.Spelled := by
  cases t with
  | description => exact ⟨⟨description, "///"⟩, rfl, [], rfl, List.not_mem_nil⟩
  | bit => exact ⟨.ofBit false, rfl, Lexeme.spelled_ofBit false⟩
  | name =>
    have hname : IsName "q" := by decide
    exact ⟨⟨name, "q"⟩, rfl, hname⟩
  | _ => exact ⟨.mark _, rfl, Lexeme.spelled_mark rfl⟩

/-- A lexeme that a text begins with is found, though perhaps a longer one. -/
theorem not_begins_of_lexeme? {t : Terminal} {cs : List Char} (h : t.lexeme? cs = none) :
    ¬ t.Begins cs := by
  rintro ⟨⟨u, s⟩, rfl, hl, tail, rfl⟩
  cases hw : u.literal? with
  | some w =>
    rw [Lexeme.spelled_literal hw] at hl
    simp [lexeme?_literal hw, hl] at h
  | none =>
    cases u with
    | description =>
      obtain ⟨body, hb, -⟩ := hl
      simp [lexeme?, hb] at h
    | bit => rcases hl with rfl | rfl <;> cases h
    | name =>
      obtain ⟨hne, hall⟩ := hl
      obtain ⟨c, rest, hc⟩ := List.exists_cons_of_ne_nil hne
      have hname : isNameChar c = true := hall c (by rw [hc]; exact List.mem_cons_self)
      simp [lexeme?, hc, hname] at h
    | _ => simp [literal?] at hw

end Terminal

/-- Where a text goes on with no gap there are no blanks and no comments to pass over. -/
theorem eq_nil_of_trivia {opening : Bool} {gap rest : List Char} (h : Trivia opening rest gap)
    (hg : gap? (gap ++ rest) = none) : gap = [] := by
  cases h with
  | nil => rfl
  | blank hc =>
    rw [List.cons_append, gap?_blank hc] at hg
    cases hg
  | comment => simp [gap?] at hg

theorem Reads.spelled {opening : Bool} {p q : Position} {w : List Token} {cs rest : List Char}
    (h : Reads opening p w cs q rest) : ∀ l ∈ w.map Token.lexeme, l.Spelled := by
  induction h with
  | nil => simp
  | token _ _ _ hs _ _ ih =>
    rw [List.map_cons]
    exact List.forall_mem_cons.mpr ⟨hs, ih⟩

theorem ReadsWithin.through_lexemes {f g : Form} {p q : Position} {w : List Token}
    {cs gap rest : List Char} (h : ReadsWithin f p cs w g q gap rest) :
    f.through ((w.map Token.lexeme).map Lexeme.terminal) = some g := by
  rw [List.map_map]
  exact h.through

/-- Past the last token the text goes on where that token stops. -/
theorem Reads.position {opening : Bool} {p q : Position} {w : List Token} {cs rest : List Char}
    (h : Reads opening p w cs q rest) : q = (w.getLast?.map Token.stop).getD p := by
  induction h with
  | nil => rfl
  | @token _ _ _ _ _ _ t ts _ _ _ _ _ _ ih =>
    rw [ih]
    cases ts with
    | nil => rfl
    | cons u us => simp [List.getLast?_cons]

namespace Reading

variable {r : Reading} {w : List Lexeme} {g : Form} {t : Terminal}

/-- Some sentence begins with these lexemes. -/
def Viable (r : Reading) (w : List Lexeme) : Prop := ∃ s : Sentence r, w <+: s.lexemes

/-- Some sentence begins with these lexemes and one of the terminal. -/
def Follows (r : Reading) (w : List Lexeme) (t : Terminal) : Prop :=
  ∃ l : Lexeme, l.terminal = t ∧ r.Viable (w ++ [l])

/-- Every row of terminals has a spelling. -/
theorem exists_lexemes (v : List Terminal) :
    ∃ ls : List Lexeme, ls.map Lexeme.terminal = v ∧ ∀ l ∈ ls, l.Spelled := by
  induction v with
  | nil => exact ⟨[], rfl, by simp⟩
  | cons t v ih =>
    obtain ⟨l, rfl, hl⟩ := t.exists_spelled
    obtain ⟨ls, rfl, hls⟩ := ih
    exact ⟨l :: ls, rfl, List.forall_mem_cons.mpr ⟨hl, hls⟩⟩

/-- Lexemes begin a sentence where the form of the reading goes on behind them. -/
theorem viable_iff (hw : ∀ l ∈ w, l.Spelled) :
    r.Viable w ↔ ∃ g, r.form.through (w.map Lexeme.terminal) = some g := by
  constructor
  · rintro ⟨s, ls, hs⟩
    obtain ⟨hy, -⟩ := Form.writes_iff.mpr ⟨s, hs⟩
    rw [List.map_append] at hy
    obtain ⟨g, hg, -⟩ := (Form.yields_append_iff r.form_clear).mp hy
    exact ⟨g, hg⟩
  · rintro ⟨g, hg⟩
    obtain ⟨v, hv⟩ := Form.exists_yields g
    obtain ⟨ls, rfl, hls⟩ := exists_lexemes v
    have hwrites : r.form.Writes (w ++ ls) := by
      refine ⟨?_, List.forall_mem_append.mpr ⟨hw, hls⟩⟩
      rw [List.map_append]
      exact (Form.yields_append_iff r.form_clear).mpr ⟨g, hg, hv⟩
    obtain ⟨s, hs⟩ := Form.writes_iff.mp hwrites
    exact ⟨s, ls, hs⟩

/-- What may come after lexemes is what may come next in the form that is left of the reading. -/
theorem follows_iff_next (hw : ∀ l ∈ w, l.Spelled)
    (hg : r.form.through (w.map Lexeme.terminal) = some g) :
    r.Follows w t ↔ ∃ k, g.next t = some k := by
  constructor
  · rintro ⟨l, rfl, s, ls, hs⟩
    obtain ⟨hy, -⟩ := Form.writes_iff.mpr ⟨s, hs⟩
    rw [List.append_assoc, List.map_append] at hy
    obtain ⟨k, hk, hyk⟩ := (Form.yields_append_iff r.form_clear).mp hy
    obtain rfl := Option.some.inj (hg.symm.trans hk)
    obtain ⟨next, hnext, -⟩ := Form.next_of_yields (Form.clear_through r.form_clear hg) hyk
    exact ⟨next, hnext⟩
  · rintro ⟨k, hk⟩
    obtain ⟨l, rfl, hl⟩ := t.exists_spelled
    refine ⟨l, rfl, (viable_iff ?_).mpr ⟨k, ?_⟩⟩
    · exact List.forall_mem_append.mpr ⟨hw, by simpa using hl⟩
    · rw [List.map_append, Form.through_append, hg]
      simp [Form.through, hk]

/-- In a program or a block all that the form admits may come. -/
theorem follows_iff (hr : r ≠ .rule) (hw : ∀ l ∈ w, l.Spelled)
    (hg : r.form.through (w.map Lexeme.terminal) = some g) : r.Follows w t ↔ t ∈ g.admitted := by
  rw [follows_iff_next hw hg]
  constructor
  · rintro ⟨k, hk⟩
    exact Form.mem_admitted_of_next hk
  · intro ht
    obtain ⟨k, hk, -⟩ := Form.next_of_admitted (Form.unbarred_through (form_unbarred hr) hg) ht
    exact ⟨k, hk⟩

theorem complete_of_lexemes (hg : r.form.through (w.map Lexeme.terminal) = some g)
    {s : Sentence r} (hs : s.lexemes = w) : g.complete = true := by
  obtain ⟨hy, -⟩ := Form.writes_iff.mpr ⟨s, hs.symm⟩
  rw [← List.append_nil (w.map _)] at hy
  obtain ⟨k, hk, hyk⟩ := (Form.yields_append_iff r.form_clear).mp hy
  obtain rfl := Option.some.inj (hg.symm.trans hk)
  exact Form.complete_of_yields_nil hyk

/-- Lexemes are a whole sentence where the form that is left of the reading may end. -/
theorem exists_sentence (hw : ∀ l ∈ w, l.Spelled)
    (hg : r.form.through (w.map Lexeme.terminal) = some g) (hc : g.complete = true) :
    ∃ s : Sentence r, s.lexemes = w := by
  have hy := (Form.yields_append_iff r.form_clear).mpr ⟨g, hg, Form.yields_nil_of_complete hc⟩
  rw [List.append_nil] at hy
  obtain ⟨s, hs⟩ := Form.writes_iff.mp ⟨hy, hw⟩
  exact ⟨s, hs.symm⟩

/-- A text can be read as tokens that begin a sentence, up to a rest of it and no further. -/
structure ReadsTo (r : Reading) (source : String) (w : List Token) (last : Position)
    (gap rest : List Char) : Prop where
  reads : Reads (r == .program) .start w source.toList last (gap ++ rest)
  gap_trivia : Trivia (r == .program && w.isEmpty) rest gap
  viable : r.Viable (w.map Token.lexeme)
  no_trivia : ∀ more tail, rest = more ++ tail → Trivia false tail more → more = []
  no_terminal : ∀ t, r.Follows (w.map Token.lexeme) t → ¬ t.Begins rest

/-- A text that is read within the form, and goes on with no gap and nothing that may come there, is
read so far and no further. -/
theorem readsTo_of_within {source : String} {w : List Token} {last : Position}
    {gap rest : List Char} (h : ReadsWithin r.form .start source.toList w g last gap rest)
    (hends : gap? rest = none) (hnone : ∀ t k, g.next t = some k → ¬ t.Begins rest) :
    r.ReadsTo source w last gap rest where
  reads := r.form_opening ▸ h.reads
  gap_trivia := r.form_opening ▸ h.trivia
  viable := (viable_iff h.reads.spelled).mpr ⟨g, h.through_lexemes⟩
  no_trivia := by
    rintro more tail rfl hmore
    exact eq_nil_of_trivia hmore hends
  no_terminal t ht := by
    obtain ⟨k, hk⟩ := (follows_iff_next h.reads.spelled h.through_lexemes).mp ht
    exact hnone t k hk

/-- Where nothing is found there is no terminal that may come. -/
theorem readsTo_of_upTo {source : String} {w : List Token} {last : Position}
    {gap rest : List Char} (h : ReadsUpTo r.form .start source.toList w g last gap rest) :
    r.ReadsTo source w last gap rest := by
  refine readsTo_of_within h.toReadsWithin h.ends ?_
  intro t k hk
  exact not_begins_of_lexeme? (Form.scan?_eq_none_iff.mp h.scan t (Form.mem_admitted_of_next hk))

/-- Where a text is refused it can be read no further, and what its form admits there is
expected. -/
theorem parse_error_cases {source : String} {d : Diagnostic} (hr : r ≠ .rule)
    (h : r.parse source = .error d) : ∃ w g last gap rest,
      r.ReadsTo source w last gap rest ∧
      r.form.through ((w.map Token.lexeme).map Lexeme.terminal) = some g ∧
        (rest.isEmpty && g.complete) = false ∧
        d = .ofRefusal source (refusalAt g last (last.after gap) rest) := by
  obtain ⟨w, g, last, gap, rest, hread, hres⟩ :=
    readFrom_start r.form_late (form_unbarred hr) source.toList
  refine ⟨w, g, last, gap, rest, readsTo_of_upTo hread, hread.through_lexemes, ?_⟩
  rw [parse, tokens, hres] at h
  by_cases hc : (rest.isEmpty && g.complete) = true
  · rw [if_pos hc] at h
    cases h
  · rw [if_neg hc] at h
    cases h
    exact ⟨Bool.eq_false_of_not_eq_true hc, rfl⟩

end Reading

theorem foundAt_start {cs : List Char} (hcs : cs ≠ []) (p : Position) :
    (foundAt cs p).2.start = p := by
  cases cs with
  | nil => exact (hcs rfl).elim
  | cons c cs =>
    unfold foundAt
    dsimp only
    split
    · rfl
    · split <;> rfl

namespace Reading

variable {r : Reading} {source : String} {d : Diagnostic}

/-- The diagnostic of a refused program or block is exact. The text can be read as tokens up to the
place that is reported and no further, where it ends too early or goes on with nothing that may
come; and what is expected there are, in order and each once, the names of all terminals with which
the tokens still begin a sentence. -/
theorem diagnostic_exact (hr : r ≠ .rule) (h : r.parse source = .error d) :
    ∃ w last gap rest, r.ReadsTo source w last gap rest ∧
      (rest = [] → d.span = ⟨(w.getLast?.map Token.stop).getD .start, none⟩ ∧
        ∀ s : Sentence r, s.lexemes ≠ w.map Token.lexeme) ∧
      (rest ≠ [] → d.span.start = last.after gap) ∧
      ∃ expected found, d.complaint = .unexpected expected found ∧ expected.Pairwise (· < ·) ∧
        ∀ s, s ∈ expected ↔ ∃ t, r.Follows (w.map Token.lexeme) t ∧ t.readable = s := by
  obtain ⟨w, g, last, gap, rest, hto, hg, hends, rfl⟩ := parse_error_cases hr h
  refine ⟨w, last, gap, rest, hto, ?_, ?_, ?_⟩
  · rintro rfl
    refine ⟨by rw [← hto.reads.position]; rfl, fun s hs => ?_⟩
    rw [complete_of_lexemes hg hs] at hends
    cases hends
  · intro hrest
    have hne : rest.isEmpty = false := by simpa using hrest
    have hstart := foundAt_start hrest (last.after gap)
    simpa [Diagnostic.ofRefusal, Diagnostic.inSource, refusalAt, hne] using hstart
  · refine ⟨_, _, rfl, Names.pairwise_sorted _, fun s => ?_⟩
    rw [Names.mem_sorted, List.mem_map]
    simp only [follows_iff hr hto.reads.spelled hg]
    rfl

/-- A program that lacks a comma between its final states. -/
def missingComma : String :=
  "\x7b01\x7d; I = \x7bq\x7d; // two states\nF = \x7bq r\x7d;"

def missingCommaDiagnostic : Diagnostic where
  complaint := .unexpected ["','", "'\x7d'"] "'r'"
  span := ⟨⟨2, 8⟩, some ⟨2, 9⟩⟩
  code := "F = \x7bq r\x7d;"

/-- After a final state there may be one more, or the end of the set. -/
theorem diagnostic_exact_missingComma : Reading.program ≠ .rule ∧
    Reading.program.parse missingComma = .error missingCommaDiagnostic ∧
      ∃ w last gap rest, Reading.program.ReadsTo missingComma w last gap rest ∧
        ∀ s, s ∈ ["','", "'\x7d'"] ↔
          ∃ t, Reading.program.Follows (w.map Token.lexeme) t ∧ t.readable = s := by
  have hr : Reading.program ≠ .rule := by decide
  have h : Reading.program.parse missingComma = .error missingCommaDiagnostic := by decide +kernel
  obtain ⟨w, last, gap, rest, hto, -, -, expected, found, hcomplaint, -, hall⟩ :=
    diagnostic_exact hr h
  cases hcomplaint
  exact ⟨hr, h, w, last, gap, rest, hto, hall⟩

end Reading

end TapeMachine
