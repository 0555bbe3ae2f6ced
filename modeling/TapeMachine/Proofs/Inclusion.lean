import TapeMachine.Proofs.Libraries
import TapeMachine.Proofs.Resolution
import TapeMachine.Proofs.Source.Pieces

/-! To compose libraries is to write their code in the place of the record that names them. -/
namespace TapeMachine

variable {registry : Registry} {drafts : List Library.Draft} {source : String} {o : Outline}
  {r : Record}

/-- The codes of the drafts with these names, each with the end of a line behind it. -/
def Library.codes (drafts : List Library.Draft) (names : List String) : List Char :=
  names.flatMap fun name =>
    (drafts.find? (·.name == name)).elim [] fun d => d.code.toList ++ ['\n']

/-- A text with the codes of the libraries that a record names in the place of the record. -/
def Record.included (r : Record) (drafts : List Library.Draft) (source : String) : String :=
  r.span.replaceIn source (Library.codes drafts (r.names.map Token.text))

/-- The codes of libraries lay out their rules, whatever comes behind them. -/
theorem Registry.lays_codes (h : ofDrafts drafts = .ok registry) {names : List String}
    {ls : List Library} (hls : ls.map some = names.map fun n => registry.find? n) :
    ∃ qs : List RulePhrase, Lays false (qs.flatMap fun q => (Phrase.rule q).lexemes)
      (Library.codes drafts names) ∧ qs.map RulePhrase.rule = ls.flatMap Library.rules := by
  induction names generalizing ls with
  | nil =>
    obtain rfl := List.map_eq_nil_iff.mp hls
    exact ⟨[], lays_nil, rfl⟩
  | cons name names ih =>
    obtain ⟨l, ls, rfl, hl, hls⟩ := List.map_eq_cons_iff.mp hls
    obtain ⟨more, hmore, hrules⟩ := ih hls
    obtain ⟨d, hd, hread⟩ := find?_of_drafts (ofDrafts_cases h) hl.symm
    obtain ⟨qs, hqs, hown⟩ := Library.Draft.exists_rules_of_read hread
    have hcode : Lays false (qs.flatMap fun q => (Phrase.rule q).lexemes)
        (d.code.toList ++ ['\n']) := by
      rw [← Sentence.lexemes_block]
      exact hqs.lays_line
    refine ⟨qs ++ more, ?_, by rw [List.map_append, hown, hrules, List.flatMap_cons]⟩
    rw [List.flatMap_append, Library.codes, List.flatMap_cons, hd]
    exact hcode.append hmore

/-- The groups of whole phrases do not depend on what comes behind them. -/
theorem Phrase.groups_append {ps : List Phrase} {ts : List Token}
    (h : ts.map Token.lexeme = ps.flatMap lexemes) (more : List Token) :
    groups (ts ++ more) = groups ts ++ groups more := by
  induction ps generalizing ts with
  | nil =>
    obtain rfl := List.map_eq_nil_iff.mp h
    rfl
  | cons p ps ih =>
    obtain ⟨us, rest, rfl, hus, hrest⟩ := List.map_eq_append_iff.mp h
    rw [List.append_assoc, groups_lexemes hus, groups_lexemes hus, ih hrest, List.cons_append]

/-- A row of phrases has no records of other kinds. -/
theorem Phrase.not_mem_records {ps : List Phrase} {ts : List Token}
    (h : ts.map Token.lexeme = ps.flatMap lexemes) (hps : ∀ p ∈ ps, p.kind ≠ r.kind) :
    r ∉ (groups ts).filterMap Record.ofGroup? := by
  intro hr
  have hmem : r.view ∈ ((groups ts).filterMap Record.ofGroup?).map Record.view :=
    List.mem_map_of_mem hr
  rw [records_of_lexemes h] at hmem
  obtain ⟨p, hp, hview⟩ := List.mem_map.mp hmem
  exact hps p hp (Record.kind_of_view hview.symm).symm

/-- The record of a phrase among phrases of other kinds has the tokens of the phrase. -/
theorem Phrase.record_between {ps qs : List Phrase} {p : Phrase} {us vs ws : List Token}
    (hus : us.map Token.lexeme = ps.flatMap lexemes) (hvs : vs.map Token.lexeme = p.lexemes)
    (hws : ws.map Token.lexeme = qs.flatMap lexemes)
    (hr : r ∈ (groups (us ++ (vs ++ ws))).filterMap Record.ofGroup?)
    (hothers : ∀ q ∈ ps ++ qs, q.kind ≠ r.kind) : Record.ofGroup? vs = some r := by
  obtain ⟨hps, hqs⟩ := List.forall_mem_append.mp hothers
  rw [groups_append hus, groups_lexemes hvs, List.filterMap_append, List.mem_append] at hr
  obtain ⟨g, hg, hgroup⟩ := List.mem_filterMap.mp (hr.resolve_left (not_mem_records hus hps))
  rcases List.mem_cons.mp hg with rfl | hg
  · exact hgroup
  · exact (not_mem_records hws hqs (List.mem_filterMap.mpr ⟨g, hg, hgroup⟩)).elim

/-- A record that is no rule stands from its first token to the last one of its group. -/
theorem Record.span_of_group {t : Token} {ts : List Token} (h : Record.ofGroup? (t :: ts) = some r)
    (hkind : r.kind ≠ .rule) :
    r.span = ⟨t.start, some ((t :: ts).getLast (List.cons_ne_nil t ts)).stop⟩ := by
  obtain ⟨kind, -, rfl⟩ := Option.map_eq_some_iff.mp h
  simp only [span, tokens, if_neg hkind]

namespace Sentence

variable (line : Option DescriptionLine) (bits : List Bool) (initial : Name)
  (finals : Name × List Name)
  (composed : Option (Name × List Name)) (rules : List RulePhrase)

/-- The phrases of a program before the libraries that it composes. -/
def opening : List Phrase :=
  line.toList.map .description ++
    [.tape bits, .initialState initial, .finalStates finals.1 finals.2]

theorem lexemes_opening : (program line bits initial finals composed rules).lexemes =
    (opening line bits initial finals).flatMap Phrase.lexemes ++
      ((composed.toList.flatMap fun c => (Phrase.compose c.1 c.2).lexemes) ++
        (rules.map Phrase.rule).flatMap Phrase.lexemes) := by
  simp [opening, lexemes_program, List.flatMap_map]

theorem opening_ne_nil : (opening line bits initial finals).flatMap Phrase.lexemes ≠ [] := by
  simp [opening, Phrase.lexemes, Phrase.body]

/-- Neither these phrases nor the rules compose libraries. -/
theorem kind_of_mem_opening {p : Phrase}
    (h : p ∈ opening line bits initial finals ++ rules.map Phrase.rule) : p.kind ≠ .compose := by
  simp only [opening, List.mem_append, List.mem_map, List.mem_cons, List.not_mem_nil, or_false] at h
  rcases h with (⟨d, -, rfl⟩ | rfl | rfl | rfl) | ⟨q, -, rfl⟩ <;> simp [Phrase.kind]

end Sentence

open Sentence in
/-- The record that composes libraries stands between the phrases before it and the rules, and
whatever is put in its place is laid out between them. -/
theorem Outline.replace_between {line : Option DescriptionLine} {bits : List Bool} {initial : Name}
    {finals : Name × List Name} {composed : Option (Name × List Name)} {rules : List RulePhrase}
    (hs : Reading.LaysOut (.program line bits initial finals composed rules) source)
    (ho : Reading.program.parse source = .ok o) (hr : r ∈ o.records) (hkind : r.kind = .compose) :
    r.names.map Token.text = (libraryNames composed).map Subtype.val ∧
      ∀ (ls : List Lexeme) (piece : List Char), Lays false ls piece →
        Layout true ((opening line bits initial finals).flatMap Phrase.lexemes ++
          (ls ++ (rules.map Phrase.rule).flatMap Phrase.lexemes))
            (r.span.replaceIn source piece).toList := by
  obtain ⟨ts, hts, hlex⟩ := Reading.tokens_of_laysOut hs
  obtain rfl : o = .ofTokens .program ts := by
    rw [Reading.parse, hts] at ho
    exact (Except.ok.inj ho).symm
  have hothers : ∀ p ∈ opening line bits initial finals ++ rules.map Phrase.rule, p.kind ≠ r.kind :=
    fun p hp => hkind ▸ kind_of_mem_opening _ _ _ _ _ hp
  rw [lexemes_opening] at hlex
  cases composed with
  | none =>
    rw [Option.toList_none, List.flatMap_nil, List.nil_append, ← List.flatMap_append] at hlex
    exact (Phrase.not_mem_records hlex hothers hr).elim
  | some c =>
    obtain ⟨us, ts, rfl, hus, hlex⟩ := List.map_eq_append_iff.mp hlex
    obtain ⟨vs, ws, rfl, hvs, hws⟩ := List.map_eq_append_iff.mp hlex
    rw [Option.toList_some, List.flatMap_singleton] at hvs
    have hgroup := Phrase.record_between hus hvs hws hr hothers
    obtain ⟨r', hr', hview⟩ := Phrase.record_of_body hvs rfl
    obtain rfl : r' = r := Option.some.inj (hr'.symm.trans hgroup)
    refine ⟨Record.names_of_view hview, fun ls piece hpiece => ?_⟩
    cases us with
    | nil => exact (opening_ne_nil _ _ _ _ hus.symm).elim
    | cons u us =>
      cases vs with
      | nil => cases hvs
      | cons v vs =>
        obtain ⟨q, gap, hreads, hgap⟩ := Reading.reads_of_tokens hts
        obtain ⟨before, old, behind, hsource, hstart, hstop, hlays⟩ := hreads.replace hgap
        have hspan : r'.span = ⟨Position.start.after before,
            some ((Position.start.after before).after old)⟩ := by
          rw [Record.span_of_group hgroup (by rw [hkind]; decide), hstart, hstop]
        have hnew := hlays _ _ hpiece
        rw [hus, hws] at hnew
        rw [hspan, Span.replaceIn_eq hsource, String.toList_ofList]
        exact hnew

open Sentence in
/-- With other rules in the place of the record that composes libraries, the text is a program that
composes nothing. -/
theorem Outline.replace_compose {line : Option DescriptionLine} {bits : List Bool} {initial : Name}
    {finals : Name × List Name} {composed : Option (Name × List Name)} {rules : List RulePhrase}
    (hs : Reading.LaysOut (.program line bits initial finals composed rules) source)
    (ho : Reading.program.parse source = .ok o) (hr : r ∈ o.records) (hkind : r.kind = .compose) :
    r.names.map Token.text = (libraryNames composed).map Subtype.val ∧
      ∀ (qs : List RulePhrase) (piece : List Char),
        Lays false (qs.flatMap fun q => (Phrase.rule q).lexemes) piece →
          Reading.LaysOut (.program line bits initial finals none (qs ++ rules))
            (r.span.replaceIn source piece) := by
  obtain ⟨hnames, hlays⟩ := Outline.replace_between hs ho hr hkind
  refine ⟨hnames, fun qs piece hpiece => ?_⟩
  have hnew := hlays _ _ hpiece
  rw [Reading.LaysOut, lexemes_opening]
  simpa [List.flatMap_map] using hnew

namespace Program

variable {p : Program}

/-- The machine of a program holds the rules that the codes of its libraries lay out, and after them
those of the program. -/
theorem Realizes.machine {line : Option DescriptionLine} {bits : List Bool} {initial : Name}
    {finals : Name × List Name} {composed : Option (Name × List Name)} {rules : List RulePhrase}
    (hdrafts : Registry.ofDrafts drafts = .ok registry)
    (h : p.Realizes registry source (.program line bits initial finals composed rules)) :
    ∃ qs : List RulePhrase, Lays false (qs.flatMap fun q => (Phrase.rule q).lexemes)
      (Library.codes drafts ((Sentence.libraryNames composed).map Subtype.val)) ∧
        p.machine = .load bits initial.1 ((finals.1 :: finals.2).map Subtype.val)
          ((qs ++ rules).map RulePhrase.rule) := by
  obtain ⟨-, -, hcomposed, hmachine, -⟩ := h
  have hfound : p.composed.map some =
      ((Sentence.libraryNames composed).map Subtype.val).map fun n => registry.find? n := by
    rw [hcomposed, List.map_map]
    rfl
  obtain ⟨qs, hlays, hrules⟩ := Registry.lays_codes hdrafts hfound
  exact ⟨qs, hlays, by rw [hmachine, List.map_append, hrules]⟩

/-- A program that composes libraries builds to the same machine when their code stands in the place
of the record that names them, and no registry is asked then. -/
theorem build_included (hdrafts : Registry.ofDrafts drafts = .ok registry)
    (h : build registry source = .ok p) (ho : Reading.program.parse source = .ok o)
    (hr : r ∈ o.records) (hkind : r.kind = .compose) (other : Registry) :
    ∃ q, build other (r.included drafts source) = .ok q ∧ q.description = p.description ∧
      q.machine = p.machine := by
  obtain ⟨line, bits, initial, finals, composed, rules, hs, hreal, hbits⟩ := realizes_of_build h
  obtain ⟨hnames, hreplaced⟩ := Outline.replace_compose hs ho hr hkind
  obtain ⟨qs, hlays, hmachine⟩ := hreal.machine hdrafts
  obtain ⟨-, hdescription, -⟩ := hreal
  rw [← hnames] at hlays
  obtain ⟨q, hq, -, hsame, hbuilt⟩ := build_of_composeless (hreplaced qs _ hlays) hbits other
  exact ⟨q, hq, hsame.trans hdescription.symm, hbuilt.trans hmachine.symm⟩

/-- Two libraries, the code of one with a comment at its end and no end of a line. -/
def flipAndHop : List Library.Draft :=
  [⟨"flip", "", "flip0", "flipf", ["flip0", "flipf"],
      "/// Flips a cell\n(flip0, 1, 0, H, flipf);\n(flip0, 0, 1, H, flipf); // flipped"⟩,
    ⟨"hop", "", "hop0", "hopf", ["hop0", "hopf"], "(hop0, 1, 1, R, hopf); (hop0, 0, 0, R, hopf);"⟩]

def flipAndHopRegistry : Registry :=
  [⟨"flip", "", "flip0", "flipf", ["flip0", "flipf"],
      [⟨"flip0", true, false, .halt, "flipf"⟩, ⟨"flip0", false, true, .halt, "flipf"⟩]⟩,
    ⟨"hop", "", "hop0", "hopf", ["hop0", "hopf"],
      [⟨"hop0", true, true, .right, "hopf"⟩, ⟨"hop0", false, false, .right, "hopf"⟩]⟩]

/-- A program that composes them, in the other order and one of them twice. -/
def flipping : String :=
  "/// Flips and hops\n\x7b1\x7d; I = \x7bq\x7d; F = \x7bhopf\x7d; // and now\n" ++
    "compose = \x7bhop, flip, hop\x7d; (q, 1, 1, H, flip0); (flipf, 0, 0, H, hop0);\n"

theorem build_included_flipping : ∃ p o r,
    Registry.ofDrafts flipAndHop = .ok flipAndHopRegistry ∧
      build flipAndHopRegistry flipping = .ok p ∧ Reading.program.parse flipping = .ok o ∧
      r ∈ o.records ∧ r.kind = .compose ∧ ∃ q, build [] (r.included flipAndHop flipping) = .ok q ∧
        q.description = p.description ∧ q.machine = p.machine := by
  have hdrafts : Registry.ofDrafts flipAndHop = .ok flipAndHopRegistry := by decide +kernel
  have hbuild : (build flipAndHopRegistry flipping).isOk = true := by decide +kernel
  have hcompose : ((Reading.program.parse flipping).map fun o =>
      o.records.any (·.kind == .compose)) = .ok true := by decide +kernel
  cases hp : build flipAndHopRegistry flipping with
  | error e =>
    rw [hp] at hbuild
    cases hbuild
  | ok p =>
    cases ho : Reading.program.parse flipping with
    | error e =>
      rw [ho] at hcompose
      cases hcompose
    | ok o =>
      rw [ho] at hcompose
      obtain ⟨r, hr, hkind⟩ := List.any_eq_true.mp (Except.ok.inj hcompose)
      have hkind : r.kind = .compose := beq_iff_eq.mp hkind
      exact ⟨p, o, r, hdrafts, rfl, rfl, hr, hkind, build_included hdrafts hp ho hr hkind []⟩

end Program

end TapeMachine
