import Mathlib.Data.List.Basic
import TapeMachine.Diagnostic
import TapeMachine.Proofs.Source.Sentence

/-! The parser accepts the layouts of sentences, and gives the tree of the one sentence laid out. -/
namespace TapeMachine

open Terminal Lexeme

/-- A terminal that ends a group of tokens. -/
def Terminal.closes (t : Terminal) : Bool := t == semicolon || t == description

theorem groups_append {g ts : List Token} {t : Token} (hg : ∀ u ∈ g, u.closes = false)
    (ht : t.closes = true) : groups (g ++ t :: ts) = (g ++ [t]) :: groups ts := by
  induction g with
  | nil => simp [groups, ht]
  | cons u g ih =>
    obtain ⟨hu, hg⟩ := List.forall_mem_cons.mp hg
    simp [groups, hu, ih hg]

theorem groups_open {g : List Token} (hne : g ≠ []) (hg : ∀ u ∈ g, u.closes = false) :
    groups g = [g] := by
  induction g with
  | nil => exact (hne rfl).elim
  | cons u g ih =>
    obtain ⟨hu, hg⟩ := List.forall_mem_cons.mp hg
    cases g with
    | nil => simp [groups, hu]
    | cons v g =>
      have htail := ih (List.cons_ne_nil v g) hg
      rw [groups, htail]
      simp [hu]

namespace Record

/-- What a tree shows of a record. -/
def view (r : Record) : RecordKind × List Lexeme := (r.kind, r.kept.map Token.lexeme)

theorem kept_ofGroup {g : List Token} {r : Record} (h : ofGroup? g = some r) :
    r.kept = g.filter (·.terminal.isKept) := by
  cases g with
  | nil => cases h
  | cons t ts =>
    obtain ⟨kind, -, rfl⟩ := Option.map_eq_some_iff.mp h
    have hsemi : (ts.filter (·.terminal != semicolon)).filter (·.terminal.isKept) =
        ts.filter (·.terminal.isKept) := by
      rw [List.filter_filter]
      congr 1
      funext u
      cases hu : u.terminal <;> rfl
    unfold kept tokens
    split
    · simp only [List.filter_cons, hsemi]
    · rfl

end Record

namespace Phrase

variable {p : Phrase}


/-- The first lexeme of a phrase tells its kind. -/
theorem body_opened (p : Phrase) :
    ∃ l ls, p.body = l :: ls ∧ RecordKind.openedBy? l.terminal = some p.kind := by
  cases p <;> exact ⟨_, _, rfl, rfl⟩

theorem body_open (hp : p.kind ≠ .description) : ∀ l ∈ p.body, l.terminal.closes = false := by
  have hb : ∀ first others, ∀ l ∈ braced first others, l.terminal.closes = false := by
    intro first others l hl
    simp only [braced, List.mem_cons, List.mem_append, List.mem_flatMap, List.not_mem_nil,
      or_false] at hl
    rcases hl with rfl | rfl | ⟨n, -, rfl | rfl⟩ | rfl <;> rfl
  cases p with
  | description => exact (hp rfl).elim
  | tape bits =>
    intro l hl
    simp only [body, List.mem_cons, List.mem_append, List.mem_map, List.not_mem_nil, or_false] at hl
    rcases hl with rfl | ⟨b, -, rfl⟩ | rfl <;> rfl
  | initialState n =>
    simp only [body, List.forall_mem_cons]
    simp [Terminal.closes]
  | finalStates first others | compose first others =>
    exact List.forall_mem_cons.mpr ⟨rfl, List.forall_mem_cons.mpr ⟨rfl, hb first others⟩⟩
  | rule r =>
    simp only [body, List.forall_mem_cons]
    simp [Terminal.closes]

/-- The last lexeme of a phrase closes it, and no other one does. -/
theorem lexemes_closed (p : Phrase) : ∃ ls l, p.lexemes = ls ++ [l] ∧ l.terminal.closes = true ∧
    ∀ m ∈ ls, m.terminal.closes = false := by
  by_cases hp : p.kind = .description
  · cases p with
    | description line => exact ⟨[], ofLine line, rfl, rfl, by simp⟩
    | _ => cases hp
  · have hclose : p.close = [mark semicolon] := by
      cases p with
      | description => exact (hp rfl).elim
      | _ => rfl
    exact ⟨p.body, mark semicolon, by rw [lexemes, hclose], rfl, body_open hp⟩

/-- In a row of phrases each one is a group of its own. -/
theorem groups_lexemes {us : List Token} (h : us.map Token.lexeme = p.lexemes) (ts : List Token) :
    groups (us ++ ts) = us :: groups ts := by
  obtain ⟨ls, l, hl, hclose, hopen⟩ := p.lexemes_closed
  obtain ⟨g, last, rfl, rfl, hlast⟩ := List.map_eq_append_iff.mp (h.trans hl)
  obtain ⟨t, rfl, rfl⟩ := List.map_eq_singleton_iff.mp hlast
  have hg : ∀ u ∈ g, u.closes = false := fun u hu => hopen _ (List.mem_map_of_mem hu)
  simpa using groups_append hg hclose

theorem record_of_body {us : List Token} {c : List Lexeme}
    (h : us.map Token.lexeme = p.body ++ c) (hc : c.filter (·.terminal.isKept) = []) :
    ∃ r, Record.ofGroup? us = some r ∧ r.view = p.view := by
  obtain ⟨l, ls, hbody, hkind⟩ := p.body_opened
  have hkept : (us.filter (·.terminal.isKept)).map Token.lexeme = p.kept := calc
    _ = (us.map Token.lexeme).filter (·.terminal.isKept) := by rw [List.filter_map]; rfl
    _ = p.kept := by rw [h, List.filter_append, hc, List.append_nil, kept]
  cases us with
  | nil => simp [hbody] at h
  | cons t us =>
    have ht : t.lexeme = l := by
      rw [hbody] at h
      exact (List.cons.inj h).1
    have hterm : RecordKind.openedBy? t.terminal = some p.kind := by
      rw [← hkind, ← ht]
      rfl
    obtain ⟨r, hr, hrk⟩ : ∃ r, Record.ofGroup? (t :: us) = some r ∧ r.kind = p.kind := by
      rw [Record.ofGroup?, hterm]
      exact ⟨_, rfl, rfl⟩
    exact ⟨r, hr, by rw [Record.view, Record.kept_ofGroup hr, hkept, hrk, view]⟩

theorem filter_isKept_names (ns : List Name) :
    (ns.flatMap fun n => [mark comma, ofName n]).filter (·.terminal.isKept) = ns.map ofName := by
  induction ns with
  | nil => rfl
  | cons n ns ih =>
    rw [List.flatMap_cons, List.filter_append, ih]
    rfl

theorem kept_braced (first : Name) (others : List Name) :
    (braced first others).filter (·.terminal.isKept) =
      mark leftBrace :: ((first :: others).map ofName ++ [mark rightBrace]) := by
  rw [braced, List.filter_cons_of_pos rfl, List.filter_cons_of_pos rfl, List.filter_append,
    filter_isKept_names]
  rfl

theorem kept_tape (bits : List Bool) :
    (tape bits).kept = mark leftBrace :: (bits.map ofBit ++ [mark rightBrace]) := by
  have hbits : (bits.map ofBit).filter (·.terminal.isKept) = bits.map ofBit := by
    rw [List.filter_eq_self]
    intro l hl
    obtain ⟨b, -, rfl⟩ := List.mem_map.mp hl
    rfl
  rw [kept, body, List.filter_cons_of_pos rfl, List.filter_append, hbits]
  rfl

theorem names_of_kept {first first' : Name} {others others' : List Name}
    (h : (braced first others).filter (·.terminal.isKept) =
      (braced first' others').filter (·.terminal.isKept)) : first = first' ∧ others = others' := by
  rw [kept_braced, kept_braced] at h
  have hmap := List.append_cancel_right (List.cons.inj h).2
  exact List.cons.inj (List.map_injective_iff.mpr ofName_injective hmap)

theorem bits_of_kept {bits bits' : List Bool} (h : (tape bits).kept = (tape bits').kept) :
    bits = bits' := by
  rw [kept_tape, kept_tape] at h
  have hmap := List.append_cancel_right (List.cons.inj h).2
  exact List.map_injective_iff.mpr ofBit_injective hmap

theorem rule_of_kept {r r' : RulePhrase} (h : (rule r).kept = (rule r').kept) : r = r' := by
  have hr : [ofName r.source, ofBit r.read, ofBit r.write, ofName r.move, ofName r.target] =
    [ofName r'.source, ofBit r'.read, ofBit r'.write, ofName r'.move, ofName r'.target] := h
  simp only [List.cons.injEq, ofName_injective.eq_iff, ofBit_injective.eq_iff, and_true] at hr
  obtain ⟨hp, ha, hb, hm, hq⟩ := hr
  obtain ⟨p, a, b, m, q⟩ := r
  cases hp
  cases ha
  cases hb
  cases hm
  cases hq
  rfl

/-- What is kept of a phrase tells the phrase. -/
theorem view_injective : Function.Injective view := by
  intro p q h
  have hkind : p.kind = q.kind := congrArg Prod.fst h
  have hkept : p.kept = q.kept := congrArg Prod.snd h
  cases p with
  | description line =>
    cases q with
    | description line' => rw [ofLine_injective (List.cons.inj hkept).1]
    | _ => cases hkind
  | tape bits =>
    cases q with
    | tape bits' => rw [bits_of_kept hkept]
    | _ => cases hkind
  | initialState n =>
    cases q with
    | initialState n' =>
      have hn : [mark leftBrace, ofName n, mark rightBrace] =
        [mark leftBrace, ofName n', mark rightBrace] := hkept
      rw [ofName_injective (List.cons.inj (List.cons.inj hn).2).1]
    | _ => cases hkind
  | finalStates first others =>
    cases q with
    | finalStates first' others' =>
      obtain ⟨rfl, rfl⟩ := names_of_kept hkept
      rfl
    | _ => cases hkind
  | compose first others =>
    cases q with
    | compose first' others' =>
      obtain ⟨rfl, rfl⟩ := names_of_kept hkept
      rfl
    | _ => cases hkind
  | rule r =>
    cases q with
    | rule r' => rw [rule_of_kept hkept]
    | _ => cases hkind

/-- The groups of a row of phrases are the records of these phrases. -/
theorem records_of_lexemes {ps : List Phrase} {ts : List Token}
    (h : ts.map Token.lexeme = ps.flatMap lexemes) :
    ((groups ts).filterMap Record.ofGroup?).map Record.view = ps.map Phrase.view := by
  induction ps generalizing ts with
  | nil =>
    obtain rfl := List.map_eq_nil_iff.mp h
    rfl
  | cons p ps ih =>
    obtain ⟨us, rest, rfl, hus, hrest⟩ := List.map_eq_append_iff.mp h
    have hclose : p.close.filter (·.terminal.isKept) = [] := by cases p <;> rfl
    obtain ⟨r, hr, hview⟩ := record_of_body hus hclose
    rw [groups_lexemes hus, List.filterMap_cons_some hr, List.map_cons, List.map_cons,
      hview, ih hrest]

end Phrase

/-- The tree of an outline: the kind of each record with the tokens kept of it. -/
def Outline.tree (o : Outline) : List (Option (RecordKind × List Lexeme)) :=
  o.places.map (·.map Record.view)

namespace Sentence

variable {r : Reading}

def phrases (s : Sentence r) : List Phrase := s.places.filterMap id

/-- The tokens of a sentence are cut into its phrases. -/
theorem records_of_lexemes {s : Sentence r} {ts : List Token}
    (h : ts.map Token.lexeme = s.lexemes) :
    ((groups ts).filterMap Record.ofGroup?).map Record.view =
      s.phrases.map Phrase.view := by
  cases s with
  | rule r =>
    have hne : ts ≠ [] := by
      rintro rfl
      cases h
    have hopen : ∀ t ∈ ts, t.closes = false := by
      intro t ht
      have hmem : t.lexeme ∈ (Sentence.rule r).lexemes := h ▸ List.mem_map_of_mem ht
      exact Phrase.body_open (p := .rule r) (by simp [Phrase.kind]) _ hmem
    obtain ⟨rec, hrec, hview⟩ := Phrase.record_of_body (p := .rule r)
      (h.trans (List.append_nil _).symm) rfl
    rw [groups_open hne hopen, List.filterMap_cons_some hrec]
    simp [hview, phrases, places]
  | program | block => exact Phrase.records_of_lexemes h

/-- Views in the places that a reading has for them. -/
def placed (vs : List (RecordKind × List Lexeme)) : Reading →
    List (Option (RecordKind × List Lexeme))
  | .program =>
    [(vs.filter (·.1 == .description)).head?] ++ (vs.filter (·.1 == .tape)).map some ++
      (vs.filter (·.1 == .initialState)).map some ++ (vs.filter (·.1 == .finalStates)).map some ++
      [(vs.filter (·.1 == .compose)).head?] ++ (vs.filter (·.1 == .rule)).map some
  | .rule | .block => vs.map some

theorem tree_outline (o : Outline) : o.tree = placed (o.records.map Record.view) o.reading := by
  have hkind : ∀ kind, (o.records.filter (·.kind == kind)).map Record.view =
      (o.records.map Record.view).filter (·.1 == kind) := by
    intro kind
    rw [List.filter_map]
    rfl
  unfold Outline.tree Outline.places
  cases o.reading with
  | program =>
    simp only [placed, ← hkind]
    simp [Function.comp_def]
  | rule | block => simp [placed, Function.comp_def]

theorem tree_eq_placed (s : Sentence r) :
    s.tree = placed (s.phrases.map Phrase.view) r := by
  cases s with
  | program line bits initial finals composed rules =>
    have hrule : ∀ kind, (rules.map fun r => (Phrase.rule r).view).filter (·.1 == kind) =
        if kind = .rule then rules.map fun r => (Phrase.rule r).view else [] := by
      intro kind
      split
      · next hk => simp [hk, Phrase.view, Phrase.kind]
      · next hk => simp [Ne.symm hk, Phrase.view, Phrase.kind]
    have hphrases : (program line bits initial finals composed rules).phrases.map Phrase.view =
        (line.map fun d => (Phrase.description d).view).toList ++ [(Phrase.tape bits).view,
          (Phrase.initialState initial).view, (Phrase.finalStates finals.1 finals.2).view] ++
          (composed.map fun c => (Phrase.compose c.1 c.2).view).toList ++
          rules.map fun r => (Phrase.rule r).view := by
      cases line <;> cases composed <;>
        simp [phrases, places, List.filterMap_map, Function.comp_def]
    rw [hphrases]
    cases line <;> cases composed <;>
      simp [placed, tree, places, hrule, Phrase.view_fst, Phrase.kind, Function.comp_def]
  | rule | block =>
    simp [tree, placed, phrases, places, List.filterMap_map, Function.comp_def]

/-- The records of a sentence in their places are its tree. -/
theorem tree_ofTokens {s : Sentence r} {ts : List Token} (h : ts.map Token.lexeme = s.lexemes) :
    (Outline.ofTokens r ts).tree = s.tree := by
  rw [tree_outline, tree_eq_placed]
  exact congrArg (placed · r) (records_of_lexemes h)

theorem places_injective : Function.Injective (places (r := r)) := by
  have hrules : ∀ {rules rules' : List RulePhrase},
      (rules.map fun r => some (Phrase.rule r)) = rules'.map (fun r => some (Phrase.rule r)) →
        rules = rules' := by
    intro rules rules' h
    refine List.map_injective_iff.mpr ?_ h
    intro r r' hr
    exact Phrase.rule.inj (Option.some.inj hr)
  intro s s' h
  cases s with
  | program line bits initial finals composed rules =>
    cases s' with
    | program line' bits' initial' finals' composed' rules' =>
      simp only [places, List.cons_append, List.nil_append, List.cons.injEq, Option.some.injEq,
        Phrase.tape.injEq, Phrase.initialState.injEq, Phrase.finalStates.injEq] at h
      obtain ⟨hline, rfl, rfl, hfinals, hcomposed, hr⟩ := h
      obtain rfl := hrules hr
      obtain rfl : finals = finals' := Prod.ext hfinals.1 hfinals.2
      obtain rfl := Option.map_injective (fun _ _ => Phrase.description.inj) hline
      obtain rfl : composed = composed' := by
        refine Option.map_injective ?_ hcomposed
        intro c c' hc
        obtain ⟨h1, h2⟩ := Phrase.compose.inj hc
        exact Prod.ext h1 h2
      rfl
  | rule r =>
    cases s' with
    | rule r' =>
      obtain rfl : r = r' := by
        simpa [places] using h
      rfl
  | block rules =>
    cases s' with
    | block rules' => rw [hrules h]

/-- The tree of a sentence tells the sentence. -/
theorem tree_injective : Function.Injective (tree (r := r)) := by
  intro s s' h
  have hplaces := List.map_injective_iff.mpr (Option.map_injective Phrase.view_injective) h
  exact places_injective hplaces

end Sentence

theorem Reading.form_clear (r : Reading) : r.form.Clear [] := by
  cases r <;> decide

/-- A description comes first in a program or nowhere. -/
theorem Reading.form_late (r : Reading) : r.form.Late := by
  cases r with
  | program =>
    intro t g hn
    have hform : ∃ rest : Form, Reading.program.form = .opt description .done rest ∧ rest.Plain :=
      ⟨_, rfl, by decide⟩
    obtain ⟨rest, hrest, hplain⟩ := hform
    rw [hrest, Form.next] at hn
    split at hn
    · cases hn
      exact hplain
    · exact Form.late_of_plain hplain t g hn
  | rule => exact Form.late_of_plain (by decide)
  | block => exact Form.late_of_plain (by decide)

theorem Reading.form_opening (r : Reading) : r.form.opening = (r == .program) := by
  cases r <;> rfl

namespace Reading

variable {r : Reading} {source : String}

/-- The text is a layout of the sentence. In a program the first line of three slashes is its
description unless the tape comes before it; in the other readings such a line is a comment. -/
def LaysOut (s : Sentence r) (source : String) : Prop :=
  Layout (r == .program) s.lexemes source.toList

/-- The tokens of a layout are those of its sentence. -/
theorem tokens_of_laysOut {s : Sentence r} (h : LaysOut s source) :
    ∃ ts, r.tokens source.toList = .ok ts ∧ ts.map Token.lexeme = s.lexemes := by
  have hw : r.form.Writes s.lexemes := Form.writes_iff.mpr ⟨s, rfl⟩
  exact readFrom_complete h r.form_opening.symm r.form_clear r.form_late hw.1 hw.2 .start .start

theorem parse_of_laysOut {s : Sentence r} (h : LaysOut s source) :
    ∃ o, r.parse source = .ok o ∧ o.tree = s.tree := by
  obtain ⟨ts, hts, hls⟩ := tokens_of_laysOut h
  refine ⟨.ofTokens r ts, ?_, Sentence.tree_ofTokens hls⟩
  rw [parse, hts]

/-- What is read are the tokens of a sentence. -/
theorem tokens_cases {ts : List Token} (h : r.tokens source.toList = .ok ts) :
    ∃ s : Sentence r, LaysOut s source ∧ ts.map Token.lexeme = s.lexemes := by
  obtain ⟨hy, hl, hs⟩ := readFrom_sound r.form_late h
  have hw : r.form.Writes (ts.map Token.lexeme) := by
    refine ⟨by rwa [List.map_map], ?_⟩
    intro l hm
    obtain ⟨t, ht, rfl⟩ := List.mem_map.mp hm
    exact hs t ht
  obtain ⟨s, hsl⟩ := Form.writes_iff.mp hw
  rw [hsl, r.form_opening] at hl
  exact ⟨s, hl, hsl⟩

theorem parse_cases {o : Outline} (h : r.parse source = .ok o) :
    ∃ (s : Sentence r) (ts : List Token), LaysOut s source ∧ o = .ofTokens r ts ∧
      ts.map Token.lexeme = s.lexemes := by
  unfold parse at h
  split at h
  · next ts hts =>
    cases h
    obtain ⟨s, hs, hlexemes⟩ := tokens_cases hts
    exact ⟨s, ts, hs, rfl, hlexemes⟩
  · cases h

/-- No text lays out two sentences. -/
theorem laysOut_unique {s s' : Sentence r} (hs : LaysOut s source) (hs' : LaysOut s' source) :
    s' = s := by
  obtain ⟨o, ho, htree⟩ := parse_of_laysOut hs
  obtain ⟨o', ho', htree'⟩ := parse_of_laysOut hs'
  obtain rfl : o = o' := Except.ok.inj (ho.symm.trans ho')
  exact Sentence.tree_injective (htree'.symm.trans htree)

/-- Parsing succeeds on exactly the layouts of sentences. No text lays out two sentences, and the
outline of a layout is the tree of its sentence, whatever blanks and comments there are. -/
theorem parse_iff_layout (r : Reading) (source : String) :
    ((∃ o, r.parse source = .ok o) ↔ ∃! s : Sentence r, LaysOut s source) ∧
      ∀ s : Sentence r, LaysOut s source → ∃ o, r.parse source = .ok o ∧ o.tree = s.tree := by
  refine ⟨⟨?_, ?_⟩, fun s => parse_of_laysOut⟩
  · rintro ⟨o, ho⟩
    obtain ⟨s, -, hs, -⟩ := parse_cases ho
    exact ⟨s, hs, fun s' hs' => laysOut_unique hs hs'⟩
  · rintro ⟨s, hs, -⟩
    obtain ⟨o, ho, -⟩ := parse_of_laysOut hs
    exact ⟨o, ho⟩

/-- Every sentence can be written down, whatever its names are. -/
theorem laysOut_lines (s : Sentence r) :
    LaysOut s (String.ofList (s.lexemes.flatMap fun l => l.text.toList ++ ['\n'])) := by
  unfold LaysOut
  rw [String.toList_ofList]
  exact layout_lines _ s.lexemes

/-- A program whose states and libraries are named like the marks and bits of the notation. -/
def marksAsNames : Sentence .program :=
  .program none [true] ⟨"I", by decide⟩ (⟨"F", by decide⟩, [⟨"0", by decide⟩])
    (some (⟨"compose", by decide⟩, []))
    [⟨⟨"R", by decide⟩, false, true, ⟨"R", by decide⟩, ⟨"1", by decide⟩⟩]

/-- The program above with each lexeme on a line of its own. -/
def marksAsNamesText : String :=
  "\x7b\n1\n\x7d\n;\nI\n=\n\x7b\nI\n\x7d\n;\nF\n=\n\x7b\nF\n,\n0\n\x7d\n;\n" ++
    "compose\n=\n\x7b\ncompose\n\x7d\n;\n(\nR\n,\n0\n,\n1\n,\nR\n,\n1\n)\n;\n"

theorem laysOut_marksAsNames : LaysOut marksAsNames marksAsNamesText := by
  have htext : marksAsNamesText =
      String.ofList (marksAsNames.lexemes.flatMap fun l => l.text.toList ++ ['\n']) := by decide
  rw [htext]
  exact laysOut_lines marksAsNames

theorem parse_iff_layout_marksAsNames : LaysOut marksAsNames marksAsNamesText ∧
    ∃ o, Reading.program.parse marksAsNamesText = .ok o ∧ o.tree = marksAsNames.tree :=
  ⟨laysOut_marksAsNames, (parse_iff_layout .program _).2 _ laysOut_marksAsNames⟩

end Reading

end TapeMachine
