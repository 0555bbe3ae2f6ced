import TapeMachine.Proofs.Source.Scanner
import TapeMachine.Source.Outline

/-! The sentences of the notation as syntax trees, and the rows of lexemes that spell them. -/
namespace TapeMachine

open Terminal

/-- Whatever serves as the name of a state or a library. -/
abbrev Name := {s : String // IsName s}

/-- A line of description with its slashes. -/
abbrev DescriptionLine := {s : String // IsDescription s}

namespace Lexeme

/-- The lexeme of a terminal that has one spelling only. -/
def mark (t : Terminal) : Lexeme := ⟨t, String.ofList (t.literal?.getD [])⟩

def ofName (n : Name) : Lexeme := ⟨name, n.1⟩

def ofBit (b : Bool) : Lexeme := ⟨bit, if b then "1" else "0"⟩

def ofLine (d : DescriptionLine) : Lexeme := ⟨description, d.1⟩

@[simp] theorem terminal_mark (t : Terminal) : (mark t).terminal = t := rfl

@[simp] theorem terminal_ofName (n : Name) : (ofName n).terminal = name := rfl

@[simp] theorem terminal_ofBit (b : Bool) : (ofBit b).terminal = bit := rfl

@[simp] theorem terminal_ofLine (d : DescriptionLine) : (ofLine d).terminal = description := rfl

theorem ofName_injective : Function.Injective ofName := by
  intro m n h
  exact Subtype.ext (congrArg text h)

theorem ofBit_injective : Function.Injective ofBit := by
  intro a b h
  revert h
  cases a <;> cases b <;> decide

theorem ofLine_injective : Function.Injective ofLine := by
  intro d e h
  exact Subtype.ext (congrArg text h)

theorem spelled_mark {t : Terminal} (h : t.literal?.isSome = true) : (mark t).Spelled := by
  obtain ⟨w, hw⟩ := Option.isSome_iff_exists.mp h
  exact (spelled_literal hw).mpr (by simp [hw])

theorem spelled_ofBit (b : Bool) : (ofBit b).Spelled := by
  cases b
  · exact .inl rfl
  · exact .inr rfl

theorem eq_mark {l : Lexeme} {t : Terminal} (ht : l.terminal = t) (h : t.literal?.isSome = true)
    (hl : l.Spelled) : l = mark t := by
  obtain ⟨t, s⟩ := l
  subst ht
  obtain ⟨w, hw⟩ := Option.isSome_iff_exists.mp h
  have hs : s = String.ofList w := by rw [← (spelled_literal hw).mp hl, String.ofList_toList]
  simp [mark, hw, hs]

end Lexeme

open Lexeme

/-- A rule as it is written; the move may be any name. -/
structure RulePhrase where
  source : Name
  read : Bool
  write : Bool
  move : Name
  target : Name

/-- What is written for one record. -/
inductive Phrase where
  | description (line : DescriptionLine)
  | tape (bits : List Bool)
  | initialState (name : Name)
  | finalStates (first : Name) (others : List Name)
  | compose (first : Name) (others : List Name)
  | rule (r : RulePhrase)

namespace Phrase

variable (p : Phrase)

def kind : Phrase → RecordKind
  | description _ => .description
  | tape _ => .tape
  | initialState _ => .initialState
  | finalStates _ _ => .finalStates
  | compose _ _ => .compose
  | rule _ => .rule

/-- Names in braces, separated by commas. -/
def braced (first : Name) (others : List Name) : List Lexeme :=
  mark leftBrace :: ofName first ::
    (others.flatMap (fun n => [mark comma, ofName n]) ++ [mark rightBrace])

/-- A phrase without the semicolon after it. -/
def body : Phrase → List Lexeme
  | description line => [ofLine line]
  | tape bits => mark leftBrace :: (bits.map ofBit ++ [mark rightBrace])
  | initialState n => [mark initialMark, mark equals, mark leftBrace, ofName n, mark rightBrace]
  | finalStates first others => mark finalMark :: mark equals :: braced first others
  | compose first others => mark composeMark :: mark equals :: braced first others
  | rule r =>
    [mark leftParen, ofName r.source, mark comma, ofBit r.read, mark comma, ofBit r.write,
      mark comma, ofName r.move, mark comma, ofName r.target, mark rightParen]

/-- A semicolon closes every phrase but a description. -/
def close : Phrase → List Lexeme
  | description _ => []
  | _ => [mark semicolon]

def lexemes : List Lexeme := p.body ++ p.close

/-- What a tree keeps of a phrase. -/
def kept : List Lexeme := p.body.filter (·.terminal.isKept)

/-- The part of a tree that a phrase makes. -/
def view : RecordKind × List Lexeme := (p.kind, p.kept)

theorem view_fst : p.view.1 = p.kind := rfl

end Phrase

/-- The sentences of the notation: programs, single rules and blocks of rules. -/
inductive Sentence : Reading → Type where
  | program (description : Option DescriptionLine) (tape : List Bool) (initial : Name)
      (finals : Name × List Name) (composed : Option (Name × List Name))
      (rules : List RulePhrase) : Sentence .program
  | rule (r : RulePhrase) : Sentence .rule
  | block (rules : List RulePhrase) : Sentence .block

namespace Sentence

variable {r : Reading}

/-- The phrases of a sentence; the description and the composed libraries may be left out. -/
def places : {r : Reading} → Sentence r → List (Option Phrase)
  | _, program line bits initial finals composed rules =>
    [line.map .description, some (.tape bits), some (.initialState initial),
      some (.finalStates finals.1 finals.2), composed.map fun c => .compose c.1 c.2] ++
      rules.map fun r => some (.rule r)
  | _, rule r => [some (.rule r)]
  | _, block rules => rules.map fun r => some (.rule r)

/-- The lexemes of a sentence in order; no semicolon closes a single rule. -/
def lexemes : {r : Reading} → Sentence r → List Lexeme
  | .rule, rule r => (Phrase.rule r).body
  | _, s => (s.places.filterMap id).flatMap Phrase.lexemes

theorem lexemes_program (line : Option DescriptionLine) (bits : List Bool) (initial : Name)
    (finals : Name × List Name) (composed : Option (Name × List Name)) (rules : List RulePhrase) :
    (program line bits initial finals composed rules).lexemes =
      line.toList.flatMap (fun d => (Phrase.description d).lexemes) ++
        ((Phrase.tape bits).lexemes ++ ((Phrase.initialState initial).lexemes ++
          ((Phrase.finalStates finals.1 finals.2).lexemes ++
            (composed.toList.flatMap (fun c => (Phrase.compose c.1 c.2).lexemes) ++
              rules.flatMap fun r => (Phrase.rule r).lexemes)))) := by
  cases line <;> cases composed <;>
    simp [lexemes, places, List.filterMap_map, List.flatMap_map]

theorem lexemes_block (rules : List RulePhrase) :
    (block rules).lexemes = rules.flatMap fun r => (Phrase.rule r).lexemes := by
  simp [lexemes, places, List.filterMap_map, List.flatMap_map]

/-- The tree of a sentence: the kind of each phrase with what is kept of it. -/
def tree (s : Sentence r) : List (Option (RecordKind × List Lexeme)) :=
  s.places.map (·.map Phrase.view)

end Sentence

namespace Form

variable {t : Terminal} {k body rest : Form} {ls : List Lexeme}

/-- The rows of well spelled lexemes that a form stands for. -/
def Writes (f : Form) (ls : List Lexeme) : Prop :=
  f.Yields (ls.map (·.terminal)) ∧ ∀ l ∈ ls, l.Spelled

theorem writes_nil (h : k.Yields []) (hw : ∀ w, k.Yields w → w = []) : k.Writes ls ↔ ls = [] := by
  constructor
  · rintro ⟨hy, -⟩
    exact List.map_eq_nil_iff.mp (hw _ hy)
  · rintro rfl
    exact ⟨h, by simp⟩

theorem writes_done : done.Writes ls ↔ ls = [] := by
  apply writes_nil .done
  intro w hw
  cases hw
  rfl

theorem writes_barred : (barred t).Writes ls ↔ ls = [] := by
  apply writes_nil .barred
  intro w hw
  cases hw
  rfl

theorem writes_one : (one t k).Writes ls ↔
    ∃ l ms, ls = l :: ms ∧ l.terminal = t ∧ l.Spelled ∧ k.Writes ms := by
  constructor
  · rintro ⟨hy, hs⟩
    cases ls with
    | nil => cases hy
    | cons l ms =>
      obtain ⟨hl, hms⟩ := List.forall_mem_cons.mp hs
      cases hy with
      | one hy => exact ⟨l, ms, rfl, rfl, hl, hy, hms⟩
  · rintro ⟨l, ms, rfl, rfl, hl, hy, hms⟩
    exact ⟨.one hy, List.forall_mem_cons.mpr ⟨hl, hms⟩⟩

theorem writes_mark (h : t.literal?.isSome = true) :
    (one t k).Writes ls ↔ ∃ ms, ls = mark t :: ms ∧ k.Writes ms := by
  rw [writes_one]
  constructor
  · rintro ⟨l, ms, rfl, ht, hl, hms⟩
    exact ⟨ms, by rw [eq_mark ht h hl], hms⟩
  · rintro ⟨ms, rfl, hms⟩
    exact ⟨_, ms, rfl, rfl, spelled_mark h, hms⟩

/-- A terminal that is spelled in many ways writes what the ways stand for. -/
theorem writes_value {α : Type} {of : α → Lexeme}
    (hof : ∀ a, (of a).terminal = t ∧ (of a).Spelled)
    (hvalue : ∀ l : Lexeme, l.terminal = t → l.Spelled → ∃ a, l = of a) :
    (one t k).Writes ls ↔ ∃ a ms, ls = of a :: ms ∧ k.Writes ms := by
  rw [writes_one]
  constructor
  · rintro ⟨l, ms, rfl, ht, hl, hms⟩
    obtain ⟨a, rfl⟩ := hvalue l ht hl
    exact ⟨a, ms, rfl, hms⟩
  · rintro ⟨a, ms, rfl, hms⟩
    exact ⟨of a, ms, rfl, (hof a).1, (hof a).2, hms⟩

theorem writes_name : (one name k).Writes ls ↔ ∃ n ms, ls = ofName n :: ms ∧ k.Writes ms := by
  refine writes_value (fun n => ⟨rfl, n.2⟩) ?_
  rintro ⟨_, s⟩ rfl hl
  exact ⟨⟨s, hl⟩, rfl⟩

theorem writes_bit : (one bit k).Writes ls ↔ ∃ b ms, ls = ofBit b :: ms ∧ k.Writes ms := by
  refine writes_value (fun b => ⟨rfl, spelled_ofBit b⟩) ?_
  rintro ⟨_, s⟩ rfl (rfl | rfl)
  · exact ⟨false, rfl⟩
  · exact ⟨true, rfl⟩

theorem writes_line :
    (one description k).Writes ls ↔ ∃ d ms, ls = ofLine d :: ms ∧ k.Writes ms := by
  refine writes_value (fun d => ⟨rfl, d.2⟩) ?_
  rintro ⟨_, s⟩ rfl hl
  exact ⟨⟨s, hl⟩, rfl⟩

theorem yields_opt_iff {w : List Terminal} :
    (opt t body rest).Yields w ↔ rest.Yields w ∨ (one t (body ++ rest)).Yields w := by
  constructor
  · intro h
    cases h with
    | optSkip h => exact .inl h
    | optTake h => exact .inr (.one h)
  · rintro (h | h)
    · exact .optSkip h
    · cases h with
      | one h => exact .optTake h

theorem yields_many_iff {w : List Terminal} : (many t body rest).Yields w ↔
    rest.Yields w ∨ (one t (body ++ many t body rest)).Yields w := by
  constructor
  · intro h
    cases h with
    | manySkip h => exact .inl h
    | manyTake h => exact .inr (.one h)
  · rintro (h | h)
    · exact .manySkip h
    · cases h with
      | one h => exact .manyTake h

theorem writes_opt_iff :
    (opt t body rest).Writes ls ↔ rest.Writes ls ∨ (one t (body ++ rest)).Writes ls := by
  simp only [Writes, yields_opt_iff, or_and_right]

theorem writes_many_iff : (many t body rest).Writes ls ↔
    rest.Writes ls ∨ (one t (body ++ many t body rest)).Writes ls := by
  simp only [Writes, yields_many_iff, or_and_right]

/-- A stretch of a form writes one part, whatever comes after it. -/
def WritesPart {α : Type} (t : Terminal) (body : Form) (part : α → List Lexeme) : Prop :=
  ∀ k ls, (one t (body ++ k)).Writes ls ↔ ∃ a ms, ls = part a ++ ms ∧ k.Writes ms

theorem writes_opt {α : Type} {part : α → List Lexeme} (hpart : WritesPart t body part) :
    (opt t body rest).Writes ls ↔
      ∃ (o : Option α) (ms : List Lexeme), ls = o.toList.flatMap part ++ ms ∧ rest.Writes ms := by
  rw [writes_opt_iff, hpart rest ls]
  constructor
  · rintro (h | ⟨a, ms, rfl, hms⟩)
    · exact ⟨none, ls, rfl, h⟩
    · exact ⟨some a, ms, by simp, hms⟩
  · rintro ⟨_ | a, ms, rfl, hms⟩
    · exact .inl hms
    · exact .inr ⟨a, ms, by simp, hms⟩

theorem writes_many {α : Type} {part : α → List Lexeme} (hne : ∀ a, part a ≠ [])
    (hpart : WritesPart t body part) :
    (many t body rest).Writes ls ↔
      ∃ (as : List α) (ms : List Lexeme), ls = as.flatMap part ++ ms ∧ rest.Writes ms := by
  constructor
  · intro h
    -- each round takes at least one lexeme away
    induction hn : ls.length using Nat.strong_induction_on generalizing ls with
    | _ n ih =>
      rcases writes_many_iff.mp h with h | h
      · exact ⟨[], ls, rfl, h⟩
      · obtain ⟨a, ms, rfl, hms⟩ := (hpart _ _).mp h
        have hpos := List.length_pos_iff.mpr (hne a)
        have hlt : ms.length < n := by
          rw [← hn, List.length_append]
          omega
        obtain ⟨as, ns, rfl, hns⟩ := ih _ hlt hms rfl
        exact ⟨a :: as, ns, by simp, hns⟩
  · rintro ⟨as, ms, rfl, hms⟩
    induction as with
    | nil => exact writes_many_iff.mpr (.inl hms)
    | cons a as ih =>
      refine writes_many_iff.mpr (.inr ((hpart _ _).mpr ⟨a, _, ?_, ih⟩))
      simp

theorem writes_bits : (many bit done k).Writes ls ↔
    ∃ (bits : List Bool) (ms : List Lexeme), ls = bits.map ofBit ++ ms ∧ k.Writes ms := by
  have hpart : WritesPart bit done fun b => [ofBit b] := fun k ls => writes_bit
  rw [writes_many (by simp) hpart]
  simp only [List.map_eq_flatMap]

theorem writes_nameSet : (nameSet k).Writes ls ↔ ∃ first others ms,
    ls = Phrase.braced first others ++ ms ∧ k.Writes ms := by
  have hpart : WritesPart comma (one name done) fun n => [mark comma, ofName n] := by
    intro k ls
    have hform : one name done ++ k = one name k := rfl
    rw [hform, writes_mark rfl]
    simp only [writes_name]
    constructor
    · rintro ⟨_, rfl, n, ms, rfl, hms⟩
      exact ⟨n, ms, rfl, hms⟩
    · rintro ⟨n, ms, rfl, hms⟩
      exact ⟨_, rfl, n, ms, rfl, hms⟩
  unfold nameSet
  simp (disch := decide) only [writes_mark, writes_name, writes_many (by simp) hpart]
  constructor
  · rintro ⟨_, rfl, first, _, rfl, others, _, rfl, ms, rfl, hms⟩
    exact ⟨first, others, ms, by simp [Phrase.braced], hms⟩
  · rintro ⟨first, others, ms, rfl, hms⟩
    exact ⟨_, rfl, first, _, rfl, others, _, by simp, ms, rfl, hms⟩

theorem writes_rule : WritesPart leftParen ruleBody fun r => (Phrase.rule r).body := by
  intro k ls
  have hform : ruleBody ++ k = one name (one comma (one bit (one comma (one bit (one comma
    (one name (one comma (one name (one rightParen k))))))))) := rfl
  rw [hform]
  simp (disch := decide) only [writes_mark, writes_name, writes_bit]
  constructor
  · rintro ⟨_, rfl, p, _, rfl, _, rfl, a, _, rfl, _, rfl, b, _, rfl, _, rfl, m, _, rfl, _, rfl,
      q, _, rfl, ms, rfl, hms⟩
    exact ⟨⟨p, a, b, m, q⟩, ms, rfl, hms⟩
  · rintro ⟨⟨p, a, b, m, q⟩, ms, rfl, hms⟩
    exact ⟨_, rfl, p, _, rfl, _, rfl, a, _, rfl, _, rfl, b, _, rfl, _, rfl, m, _, rfl, _, rfl,
      q, _, rfl, ms, rfl, hms⟩

theorem writes_block :
    blockForm.Writes ls ↔ ∃ rules : List RulePhrase, ls = rules.flatMap fun r =>
      (Phrase.rule r).lexemes := by
  have hpart : WritesPart leftParen (ruleBody ++ one semicolon done)
      fun r => (Phrase.rule r).lexemes := by
    intro k ls
    have hform : (ruleBody ++ one semicolon done) ++ k = ruleBody ++ one semicolon k := rfl
    rw [hform, writes_rule]
    simp (disch := decide) only [writes_mark]
    constructor
    · rintro ⟨r, _, rfl, ms, rfl, hms⟩
      exact ⟨r, ms, by simp [Phrase.lexemes, Phrase.close], hms⟩
    · rintro ⟨r, ms, rfl, hms⟩
      exact ⟨r, _, by simp [Phrase.lexemes, Phrase.close], ms, rfl, hms⟩
  unfold blockForm
  rw [writes_many (by simp [Phrase.lexemes, Phrase.close]) hpart]
  simp only [writes_done]
  constructor
  · rintro ⟨rules, _, rfl, rfl⟩
    exact ⟨rules, List.append_nil _⟩
  · rintro ⟨rules, rfl⟩
    exact ⟨rules, [], (List.append_nil _).symm, rfl⟩

theorem writes_description : WritesPart description done fun d => (Phrase.description d).lexemes :=
  fun _ _ => writes_line

theorem writes_tape : (one leftBrace (many bit done (one rightBrace (one semicolon k)))).Writes ls ↔
    ∃ bits ms, ls = (Phrase.tape bits).lexemes ++ ms ∧ k.Writes ms := by
  simp (disch := decide) only [writes_mark, writes_bits]
  constructor
  · rintro ⟨_, rfl, bits, _, rfl, _, rfl, ms, rfl, hms⟩
    exact ⟨bits, ms, by simp [Phrase.lexemes, Phrase.body, Phrase.close], hms⟩
  · rintro ⟨bits, ms, rfl, hms⟩
    exact ⟨_, rfl, bits, _, by simp [Phrase.close], _, rfl, ms, rfl, hms⟩

theorem writes_initialState : (one initialMark (one equals (one leftBrace (one name
    (one rightBrace (one semicolon k)))))).Writes ls ↔
      ∃ initial ms, ls = (Phrase.initialState initial).lexemes ++ ms ∧ k.Writes ms := by
  simp (disch := decide) only [writes_mark, writes_name]
  constructor
  · rintro ⟨_, rfl, _, rfl, _, rfl, initial, _, rfl, _, rfl, ms, rfl, hms⟩
    exact ⟨initial, ms, rfl, hms⟩
  · rintro ⟨initial, ms, rfl, hms⟩
    exact ⟨_, rfl, _, rfl, _, rfl, initial, _, rfl, _, rfl, ms, rfl, hms⟩

theorem writes_finalStates :
    (one finalMark (one equals (nameSet (one semicolon k)))).Writes ls ↔
      ∃ first others ms, ls = (Phrase.finalStates first others).lexemes ++ ms ∧ k.Writes ms := by
  simp (disch := decide) only [writes_mark, writes_nameSet]
  constructor
  · rintro ⟨_, rfl, _, rfl, first, others, _, rfl, ms, rfl, hms⟩
    exact ⟨first, others, ms, by simp [Phrase.lexemes, Phrase.body, Phrase.close], hms⟩
  · rintro ⟨first, others, ms, rfl, hms⟩
    exact ⟨_, rfl, _, rfl, first, others, _, by simp [Phrase.close], ms, rfl, hms⟩

theorem writes_compose : WritesPart composeMark (one equals (nameSet (one semicolon done)))
    fun c : Name × List Name => (Phrase.compose c.1 c.2).lexemes := by
  intro k ls
  have hform : one equals (nameSet (one semicolon done)) ++ k =
      one equals (nameSet (one semicolon k)) := rfl
  rw [hform]
  simp (disch := decide) only [writes_mark, writes_nameSet]
  constructor
  · rintro ⟨_, rfl, _, rfl, first, others, _, rfl, ms, rfl, hms⟩
    exact ⟨(first, others), ms, by simp [Phrase.lexemes, Phrase.body, Phrase.close], hms⟩
  · rintro ⟨c, ms, rfl, hms⟩
    exact ⟨_, rfl, _, rfl, c.1, c.2, _, by simp [Phrase.close], ms, rfl, hms⟩

theorem writes_program : programForm.Writes ls ↔ ∃ s : Sentence .program, ls = s.lexemes := by
  simp only [programForm, writes_opt writes_description, writes_tape, writes_initialState,
    writes_finalStates, writes_opt writes_compose, writes_block]
  constructor
  · rintro ⟨line, _, rfl, bits, _, rfl, initial, _, rfl, first, others, _, rfl, composed, _, rfl,
      rules, rfl⟩
    refine ⟨.program line bits initial (first, others) composed rules, ?_⟩
    rw [Sentence.lexemes_program]
  · rintro ⟨s, rfl⟩
    cases s with
    | program line bits initial finals composed rules =>
      rw [Sentence.lexemes_program]
      exact ⟨line, _, rfl, bits, _, rfl, initial, _, rfl, finals.1, finals.2, _, rfl,
        composed, _, rfl, rules, rfl⟩

/-- A reading stands for the rows of its sentences. -/
theorem writes_iff {r : Reading} : r.form.Writes ls ↔ ∃ s : Sentence r, ls = s.lexemes := by
  cases r with
  | program => exact writes_program
  | rule =>
    have hform : Reading.rule.form = one leftParen (ruleBody ++ barred semicolon) := rfl
    rw [hform, writes_rule]
    simp only [writes_barred]
    constructor
    · rintro ⟨r, _, rfl, rfl⟩
      exact ⟨.rule r, List.append_nil _⟩
    · rintro ⟨s, rfl⟩
      cases s with
      | rule r => exact ⟨r, [], (List.append_nil _).symm, rfl⟩
  | block =>
    have hform : Reading.block.form = blockForm := rfl
    rw [hform, writes_block]
    constructor
    · rintro ⟨rules, rfl⟩
      exact ⟨.block rules, (Sentence.lexemes_block rules).symm⟩
    · rintro ⟨s, rfl⟩
      cases s with
      | block rules => exact ⟨rules, Sentence.lexemes_block rules⟩

end Form

end TapeMachine
