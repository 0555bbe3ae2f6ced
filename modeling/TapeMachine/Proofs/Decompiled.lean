import Mathlib.Data.Set.List
import TapeMachine.Proofs.Inclusion
import TapeMachine.Proofs.TapeView
import TapeMachine.Proofs.Text.Description

/-! A built machine can be written down as a program again, and that program builds to the
machine. -/
namespace TapeMachine

open Terminal Lexeme

theorem Move.isName_letter (m : Move) : IsName m.letter := by
  cases m <;> decide

/-- A separator stands before each name but the first. -/
theorem Names.toList_joined (separator first : String) (others : List String) :
    (joined separator (first :: others)).toList =
      first.toList ++ others.flatMap fun n => separator.toList ++ n.toList := by
  induction others generalizing first with
  | nil => simp [joined]
  | cons n others ih =>
    have hcons : joined separator (first :: n :: others) =
        first ++ separator ++ joined separator (n :: others) := String.intercalate_cons_cons
    rw [hcons, String.toList_append, String.toList_append, ih, List.flatMap_cons]
    simp only [List.append_assoc]

theorem Rule.text_map (r : Rule Bool) : (r.map bitValue).text = r.text := by
  have hspell : ∀ b, Symbol.spell (bitValue b) = Symbol.spell b := by decide
  simp only [text, map, hspell]

/-- A rule as it is written, with the letter of its direction. -/
def RulePhrase.lettered (q : RulePhrase) : RulePhrase :=
  { q with move := ⟨q.rule.move.letter, Move.isName_letter _⟩ }

@[simp] theorem RulePhrase.rule_lettered (q : RulePhrase) : q.lettered.rule = q.rule := by
  simp [lettered, rule]

/-- What is written behind a terminal. -/
def Terminal.gapBehind : Terminal → List Char
  | description | semicolon => ['\n']
  | comma | equals | initialMark | finalMark | composeMark => [' ']
  | _ => []

namespace Lexeme

def spaced (l : Lexeme) : List Char := l.text.toList ++ l.terminal.gapBehind

theorem isGap_of_gapBehind (t : Terminal) : ∀ c ∈ t.gapBehind, isGap c = true := by
  cases t <;> simp [gapBehind, isGap]

theorem layout_spaced (opening : Bool) (ls : List Lexeme) : Layout opening ls (ls.flatMap spaced) :=
  layout_gaps isGap_of_gapBehind rfl opening ls

theorem lays_spaced (ls : List Lexeme) : Lays false ls (ls.flatMap spaced) := by
  induction ls with
  | nil => exact lays_nil
  | cons l ls ih =>
    have hfirst : Lays false [l] (spaced l) := by
      intro ms cs hcs
      rw [spaced, List.append_assoc]
      refine .lexeme (fun hd => .inr ?_) (hcs.blanks (isGap_of_gapBehind l.terminal))
      rw [hd]
      rfl
    exact hfirst.append ih

@[simp] theorem spaced_mark (t : Terminal) :
    spaced (mark t) = t.literal?.getD [] ++ t.gapBehind := by
  simp [spaced, mark]

@[simp] theorem spaced_ofName (n : Name) : spaced (ofName n) = n.1.toList := List.append_nil _

@[simp] theorem spaced_ofBit (b : Bool) : spaced (ofBit b) = (Symbol.spell b).toList := by
  revert b
  decide

end Lexeme

namespace Phrase

theorem spaced_tape (bits : List Bool) : (tape bits).lexemes.flatMap spaced =
    '{' :: (bits.map digit ++ ['}', ';', '\n']) := by
  have hbits : (bits.map ofBit).flatMap spaced = bits.map digit := by
    rw [List.flatMap_map, List.map_eq_flatMap]
    simp
  simp [lexemes, body, close, literal?, gapBehind, hbits]

theorem spaced_initialState (n : Name) : (initialState n).lexemes.flatMap spaced =
    "I = \x7b".toList ++ (n.1.toList ++ "\x7d;\n".toList) := by
  simp [lexemes, body, close, literal?, gapBehind]

theorem spaced_finalStates (first : Name) (others : List Name) :
    (finalStates first others).lexemes.flatMap spaced = "F = \x7b".toList ++
      ((Names.joined ", " ((first :: others).map Subtype.val)).toList ++ "\x7d;\n".toList) := by
  rw [List.map_cons, Names.toList_joined]
  simp [lexemes, body, close, braced, literal?, gapBehind, List.flatMap_assoc]

theorem spaced_body (q : RulePhrase) :
    (rule q.lettered).body.flatMap spaced = q.rule.text.toList := by
  simp [body, literal?, gapBehind, Rule.text, RulePhrase.lettered, RulePhrase.rule]

theorem spaced_rule (q : RulePhrase) :
    (rule q.lettered).lexemes.flatMap spaced = (q.rule.text ++ ";\n").toList := by
  rw [lexemes, List.flatMap_append, spaced_body]
  simp [close, literal?, gapBehind]

theorem spaced_description {text : Option String} {line : Option DescriptionLine}
    (h : line.map Subtype.val = text.map descriptionLine) :
    (line.toList.flatMap fun d => (description d).lexemes).flatMap spaced =
      (text.elim "" (descriptionLine · ++ "\n")).toList := by
  cases line with
  | none =>
    obtain rfl := Option.map_eq_none_iff.mp h.symm
    rfl
  | some d =>
    obtain ⟨text, rfl, htext⟩ := Option.map_eq_some_iff.mp h.symm
    simp [lexemes, body, close, spaced, ofLine, gapBehind, htext]

end Phrase

namespace Program

variable {σ : Type} [Symbol σ]

/-- The text of a program that composes nothing, with each of its records on a line. -/
def written (description : Option String) (bits : List Bool) (initial : String)
    (finals : List String) (rules : List (Rule σ)) : String :=
  description.elim "" (descriptionLine · ++ "\n") ++
    "\x7b" ++ String.ofList (bits.map digit) ++ "\x7d;\n" ++
    "I = \x7b" ++ initial ++ "\x7d;\n" ++
    "F = \x7b" ++ Names.joined ", " finals ++ "\x7d;\n" ++
    String.join (rules.map fun r => r.text ++ ";\n")

theorem written_map (description : Option String) (bits : List Bool) (initial : String)
    (finals : List String) (rules : List (Rule Bool)) :
    written description bits initial finals (rules.map (Rule.map bitValue)) =
      written description bits initial finals rules := by
  simp [written, Rule.text_map, Function.comp_def]

/-- The text of a program lays it out. -/
theorem laysOut_written {description : Option String} {line : Option DescriptionLine}
    (hline : line.map Subtype.val = description.map descriptionLine) (bits : List Bool)
    (initial first : Name) (others : List Name) (qs : List RulePhrase) :
    Reading.LaysOut
      (.program line bits initial (first, others) none (qs.map RulePhrase.lettered))
      (written description bits initial.1 ((first :: others).map Subtype.val)
        (qs.map RulePhrase.rule)) := by
  have hrules :
      ((qs.map RulePhrase.lettered).flatMap fun q => (Phrase.rule q).lexemes).flatMap spaced =
      (String.join ((qs.map RulePhrase.rule).map fun r => r.text ++ ";\n")).toList := by
    rw [String.toList_join, List.flatMap_assoc, List.flatMap_map, List.flatMap_map,
      List.flatMap_map]
    exact List.flatMap_congr fun q _ => Phrase.spaced_rule q
  have hspaced := layout_spaced true
    (Sentence.program line bits initial (first, others) none (qs.map RulePhrase.lettered)).lexemes
  rw [Sentence.lexemes_program] at hspaced
  simp only [List.flatMap_append, Phrase.spaced_description hline, Phrase.spaced_tape,
    Phrase.spaced_initialState, Phrase.spaced_finalStates, hrules] at hspaced
  rw [Reading.LaysOut, Sentence.lexemes_program]
  simpa [written] using hspaced

end Program

/-- The cells from the head on. -/
def Tape.ahead (t : Tape) : List Bool := t.cells.drop t.head.toNat

theorem Tape.load_cons (b : Bool) (cells : List Bool) :
    load (b :: cells) = within (padTo margin []) b (padTo margin cells) := by
  have hinside : ¬ ((0 : Int) < 0 ∨ ((b :: cells).length : Int) ≤ 0) := by
    rw [List.length_cons]
    omega
  rw [load, place, dif_neg hinside]
  rfl

/-- A loaded tape is loaded again from its cells from the head on. -/
theorem Tape.load_ahead {bits : List Bool} (h : bits ≠ []) :
    load (load bits).ahead = load bits ∧ bits <+: (load bits).ahead := by
  obtain ⟨b, bits, rfl⟩ := List.exists_cons_of_ne_nil h
  have hahead : (load (b :: bits)).ahead = b :: padTo margin bits := by
    rw [load_cons, ahead, cells, head]
    exact List.drop_left' (by rw [List.length_reverse]; rfl)
  have hpadded : padTo margin (padTo margin bits) = padTo margin bits := by
    apply padTo_of_le
    rw [length_padTo]
    exact le_max_left _ _
  rw [hahead, load_cons, load_cons, hpadded]
  refine ⟨rfl, List.cons_prefix_cons.mpr ⟨rfl, ?_⟩⟩
  rw [padTo_eq]
  exact List.prefix_append _ _

namespace Table

theorem mem_of_mem_insert {r x : Rule Bool} {t : Table} (h : x ∈ insert r t) : x = r ∨ x ∈ t := by
  induction t with
  | nil => exact .inl (List.mem_singleton.mp h)
  | cons y ys ih =>
    rw [insert] at h
    split at h
    · exact (List.mem_cons.mp h).imp_right (List.mem_cons_of_mem y)
    · rcases List.mem_cons.mp h with rfl | h
      · exact .inr List.mem_cons_self
      · exact (ih h).imp_right (List.mem_cons_of_mem y)

theorem mem_of_mem_ofRules {rules : List (Rule Bool)} {r : Rule Bool} (h : r ∈ ofRules rules) :
    r ∈ rules := by
  induction rules using List.reverseRecOn with
  | nil => cases h
  | append_singleton rules x ih =>
    rw [ofRules_concat] at h
    rcases mem_of_mem_insert h with rfl | h
    · exact List.mem_append_right _ (List.mem_singleton_self r)
    · exact List.mem_append_left _ (ih h)

/-- The rules that are left of written ones are written ones. -/
theorem exists_phrases (qs : List RulePhrase) :
    ∃ ps : List RulePhrase, ps.map RulePhrase.rule = ofRules (qs.map RulePhrase.rule) := by
  have hphrase : ∀ r ∈ ofRules (qs.map RulePhrase.rule), r ∈ Set.range RulePhrase.rule := by
    intro r hr
    obtain ⟨q, -, rfl⟩ := List.mem_map.mp (mem_of_mem_ofRules hr)
    exact ⟨q, rfl⟩
  have hrange : ofRules (qs.map RulePhrase.rule) ∈ Set.range (List.map RulePhrase.rule) := by
    rw [Set.range_list_map]
    exact hphrase
  exact hrange

end Table

namespace Program

variable {registry : Registry} {drafts : List Library.Draft} {source : String} {p : Program}
  {finals : List String}

/-- What a program comes to, written down. -/
def decompiled (p : Program) (finals : List String) : String :=
  written p.description p.machine.tape.ahead p.machine.initial finals p.machine.rules

/-- A description comes from a line that says it, even if it is another line than the one it was. -/
theorem exists_line {description : Option String} {line : Option DescriptionLine}
    (h : description = line.bind fun d => described? d.1) :
    ∃ line' : Option DescriptionLine, line'.map Subtype.val = description.map descriptionLine ∧
      description = line'.bind fun d => described? d.1 := by
  cases description with
  | none => exact ⟨none, rfl, rfl⟩
  | some text =>
    obtain ⟨d, -, hd⟩ := Option.bind_eq_some_iff.mp h.symm
    refine ⟨some ⟨descriptionLine text, isDescription_descriptionLine d.2 hd⟩, rfl, ?_⟩
    rw [Option.bind_some, described?_descriptionLine hd]

theorem exists_names {first : Name} {others : List Name}
    (h : ∀ s, s ∈ finals ↔ s ∈ (first :: others).map Subtype.val) :
    ∃ (first' : Name) (others' : List Name), finals = (first' :: others').map Subtype.val := by
  have hnames : finals ∈ Set.range (List.map (Subtype.val : Name → String)) := by
    rw [Set.range_list_map]
    intro s hs
    obtain ⟨n, -, rfl⟩ := List.mem_map.mp ((h s).mp hs)
    exact ⟨n, rfl⟩
  obtain ⟨ns, rfl⟩ := hnames
  cases ns with
  | nil => cases (h first.1).mpr List.mem_cons_self
  | cons n ns => exact ⟨n, ns, rfl⟩

/-- A built machine that is written down builds to itself again, with every registry and without
warnings; only its final states come in the order in which they are written, and the blanks behind
the cells are written like the cells. -/
theorem build_decompiled (hdrafts : Registry.ofDrafts drafts = .ok registry)
    (h : build registry source = .ok p) (hfinals : ∀ s, s ∈ finals ↔ s ∈ p.machine.finals)
    (other : Registry) : ∃ q, build other (p.decompiled finals) = .ok q ∧ q.warnings = [] ∧
      q.description = p.description ∧
      q.machine = { p.machine with origin := p.machine.tape.ahead, finals := finals } := by
  obtain ⟨line, bits, initial, names, composed, rules, -, hreal, hbits⟩ := realizes_of_build h
  obtain ⟨qs, -, hmachine⟩ := hreal.machine hdrafts
  obtain ⟨-, hdescription, -⟩ := hreal
  have hstates : p.machine.finals = (names.1 :: names.2).map Subtype.val := by
    rw [hmachine]
    rfl
  rw [hstates] at hfinals
  obtain ⟨first, others, rfl⟩ := exists_names hfinals
  obtain ⟨line', hline, hagain⟩ := exists_line hdescription
  obtain ⟨ps, hps⟩ := Table.exists_phrases (qs ++ rules)
  obtain ⟨hload, hbegins⟩ := Tape.load_ahead (List.ne_nil_of_mem hbits)
  have htext : p.decompiled ((first :: others).map Subtype.val) =
      written p.description (Tape.load bits).ahead initial.1 ((first :: others).map Subtype.val)
        (ps.map RulePhrase.rule) := by
    rw [← written_map, hps, decompiled, Machine.rules, hmachine]
    exact congrArg _ (Stray.weave_nil 0 _)
  have hwritten := laysOut_written hline (Tape.load bits).ahead initial first others ps
  obtain ⟨q, hq, hwarnings, hsame, hbuilt⟩ :=
    build_of_composeless hwritten (hbegins.subset hbits) other
  have hlettered : (ps.map RulePhrase.lettered).map RulePhrase.rule = ps.map RulePhrase.rule := by
    rw [List.map_map]
    exact List.map_congr_left fun q _ => q.rule_lettered
  refine ⟨q, by rw [htext, hq], hwarnings, hsame.trans hagain.symm, ?_⟩
  rw [hbuilt, hlettered, hps, hmachine, Machine.load, Machine.load, hload,
    Table.ofRules_of_distinct (Table.distinct_ofRules _)]

/-- A program with slashes in its description, a rule in the place of one of a library, and a move
of neither direction. -/
def overridden : String :=
  "//// a /// b \n\x7b10\x7d; I = \x7bq\x7d; F = \x7bhopf, q\x7d; compose = \x7bhop\x7d;\n" ++
    "(q, 1, 1, N, flip0); (hop0, 1, 0, L, q);\n"

theorem build_decompiled_overridden : ∃ p, Registry.ofDrafts flipAndHop = .ok flipAndHopRegistry ∧
    build flipAndHopRegistry overridden = .ok p ∧
    (∀ s, s ∈ ["q", "hopf"] ↔ s ∈ p.machine.finals) ∧
    ∃ q, build [] (p.decompiled ["q", "hopf"]) = .ok q ∧ q.warnings = [] ∧
      q.description = p.description ∧
      q.machine = { p.machine with origin := p.machine.tape.ahead, finals := ["q", "hopf"] } := by
  have hdrafts : Registry.ofDrafts flipAndHop = .ok flipAndHopRegistry := by decide +kernel
  have hbuild : (build flipAndHopRegistry overridden).map (·.machine.finals) =
      .ok ["hopf", "q"] := by
    decide +kernel
  cases hp : build flipAndHopRegistry overridden with
  | error e =>
    rw [hp] at hbuild
    cases hbuild
  | ok p =>
    rw [hp] at hbuild
    have hstates : p.machine.finals = ["hopf", "q"] := Except.ok.inj hbuild
    have hfinals : ∀ s, s ∈ ["q", "hopf"] ↔ s ∈ p.machine.finals := by
      intro s
      rw [hstates, List.mem_pair, List.mem_pair, or_comm]
    exact ⟨p, hdrafts, rfl, hfinals, build_decompiled hdrafts hp hfinals []⟩

end Program

end TapeMachine
