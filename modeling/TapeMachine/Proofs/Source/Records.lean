import TapeMachine.Proofs.Source.Parsing
import TapeMachine.Proofs.Source.Progress
import TapeMachine.Proofs.Text.Lines

/-! The records of a sentence: the names, bits and rules they hold, and where they stand. -/
namespace TapeMachine

open Terminal Lexeme

/-- The rule that is written; a word that is no direction halts. -/
def RulePhrase.rule (r : RulePhrase) : Rule Bool :=
  ⟨r.source.1, r.read, r.write, .ofWord r.move.1, r.target.1⟩

namespace Phrase

def names : Phrase → List Name
  | initialState n => [n]
  | finalStates first others | compose first others => first :: others
  | rule r => [r.source, r.move, r.target]
  | description _ | tape _ => []

def bits : Phrase → List Bool
  | tape bits => bits
  | rule r => [r.read, r.write]
  | _ => []

variable {p : Phrase}

theorem filter_terminal_map {α : Type} {of : α → Lexeme} {t : Terminal} (u : Terminal)
    (hof : ∀ a, (of a).terminal = t) (as : List α) :
    (as.map of).filter (·.terminal == u) = if t = u then as.map of else [] := by
  split
  · next h =>
    rw [List.filter_eq_self]
    intro l hl
    obtain ⟨a, -, rfl⟩ := List.mem_map.mp hl
    simp [hof, h]
  · next h =>
    rw [List.filter_eq_nil_iff]
    intro l hl
    obtain ⟨a, -, rfl⟩ := List.mem_map.mp hl
    simp [hof, h]

theorem filter_kept_name (p : Phrase) :
    p.kept.filter (·.terminal == name) = p.names.map ofName := by
  have hbraced : ∀ first others,
      ((braced first others).filter (·.terminal.isKept)).filter (·.terminal == name) =
        (first :: others).map ofName := by
    intro first others
    rw [kept_braced, List.filter_cons_of_neg (by decide), List.filter_append,
      filter_terminal_map name terminal_ofName]
    exact List.append_nil _
  cases p with
  | tape bits =>
    rw [kept_tape, List.filter_cons_of_neg (by decide), List.filter_append,
      filter_terminal_map name terminal_ofBit]
    rfl
  | finalStates first others | compose first others => exact hbraced first others
  | description | initialState | rule => rfl

theorem filter_kept_bit (p : Phrase) :
    p.kept.filter (·.terminal == bit) = p.bits.map ofBit := by
  have hbraced : ∀ first others,
      ((braced first others).filter (·.terminal.isKept)).filter (·.terminal == bit) = [] := by
    intro first others
    rw [kept_braced, List.filter_cons_of_neg (by decide), List.filter_append,
      filter_terminal_map bit terminal_ofName]
    rfl
  cases p with
  | tape bits =>
    rw [kept_tape, List.filter_cons_of_neg (by decide), List.filter_append,
      filter_terminal_map bit terminal_ofBit]
    exact List.append_nil _
  | finalStates first others | compose first others => exact hbraced first others
  | description | initialState | rule => rfl

end Phrase

namespace Record

variable {r : Record} {p : Phrase} {ts : List Token}

theorem kind_of_view (h : r.view = p.view) : r.kind = p.kind := congrArg Prod.fst h

/-- The tokens of a terminal that is kept are those of the phrase. -/
theorem filter_of_view (h : r.view = p.view) {t : Terminal} (ht : t.isKept = true) :
    (r.tokens.filter (·.terminal == t)).map Token.lexeme = p.kept.filter (·.terminal == t) := by
  have hkept : r.kept.filter (·.terminal == t) = r.tokens.filter (·.terminal == t) := by
    rw [kept, List.filter_filter]
    congr 1
    funext u
    cases hu : u.terminal == t with
    | false => rfl
    | true => rw [beq_iff_eq.mp hu, ht]; rfl
  have hview : r.kept.map Token.lexeme = p.kept := congrArg Prod.snd h
  rw [← hview, List.filter_map, ← hkept]
  rfl

theorem names_of_view (h : r.view = p.view) :
    r.names.map Token.text = p.names.map Subtype.val := by
  have hmap := congrArg (List.map Lexeme.text) (filter_of_view h (t := name) rfl)
  rw [Phrase.filter_kept_name, List.map_map, List.map_map] at hmap
  exact hmap

theorem bits_of_view (h : r.view = p.view) : r.bits = p.bits := by
  have hmap := congrArg (List.map fun l : Lexeme => l.text == "1") (filter_of_view h (t := bit) rfl)
  rw [Phrase.filter_kept_bit, List.map_map, List.map_map] at hmap
  have hbit : ((fun l : Lexeme => l.text == "1") ∘ ofBit) = id := by
    funext b
    cases b <;> rfl
  rw [hbit, List.map_id] at hmap
  exact hmap

theorem rule_of_view {q : RulePhrase} (h : r.view = (Phrase.rule q).view) :
    r.rule? = some q.rule := by
  have hnames := names_of_view h
  have hbits : r.bits = [q.read, q.write] := bits_of_view h
  simp only [Phrase.names, List.map_cons, List.map_nil] at hnames
  obtain ⟨a, l, hl, ha, htail⟩ := List.map_eq_cons_iff.mp hnames
  obtain ⟨b, l', rfl, hb, htail'⟩ := List.map_eq_cons_iff.mp htail
  obtain ⟨c, rfl, hc⟩ := List.map_eq_singleton_iff.mp htail'
  rw [rule?, hl, hbits]
  simp [RulePhrase.rule, ha, hb, hc]

/-- The first token of a group tells the kind of its record, which has no other tokens. -/
theorem ofGroup_cases {g : List Token} (h : ofGroup? g = some r) :
    RecordKind.openedBy? r.first.terminal = some r.kind ∧ ∀ t ∈ r.tokens, t ∈ g := by
  cases g with
  | nil => cases h
  | cons t ts =>
    obtain ⟨kind, hkind, rfl⟩ := Option.map_eq_some_iff.mp h
    refine ⟨hkind, List.forall_mem_cons.mpr ⟨List.mem_cons_self, fun u hu => ?_⟩⟩
    apply List.mem_cons_of_mem
    dsimp only at hu
    split at hu
    · exact List.mem_of_mem_filter hu
    · exact hu

/-- The text of a description is that of its first token. -/
theorem first_of_view {line : DescriptionLine} (h : r.view = (Phrase.description line).view)
    (hfirst : RecordKind.openedBy? r.first.terminal = some r.kind) : r.first.text = line.1 := by
  have hkind : r.kind = .description := kind_of_view h
  have hterm : r.first.terminal = description := by
    rw [hkind] at hfirst
    revert hfirst
    cases r.first.terminal <;> decide
  have hkept : r.kept.map Token.lexeme = [ofLine line] := congrArg Prod.snd h
  have hcons : r.kept = r.first :: r.others.filter (·.terminal.isKept) :=
    List.filter_cons_of_pos (by rw [hterm]; rfl)
  rw [hcons, List.map_cons] at hkept
  exact congrArg Lexeme.text (List.cons.inj hkept).1

end Record

theorem mem_groups {ts g : List Token} (hg : g ∈ groups ts) : ∀ t ∈ g, t ∈ ts := by
  induction ts generalizing g with
  | nil => cases hg
  | cons t ts ih =>
    rw [groups] at hg
    split at hg
    · rcases List.mem_cons.mp hg with rfl | hg
      · simp
      · exact fun u hu => List.mem_cons_of_mem t (ih hg u hu)
    · split at hg
      · simp_all
      · next g' gs hgs =>
        rw [hgs] at ih
        rcases List.mem_cons.mp hg with rfl | hg
        · have hg' := ih List.mem_cons_self
          exact List.forall_mem_cons.mpr
            ⟨List.mem_cons_self, fun u hu => List.mem_cons_of_mem t (hg' u hu)⟩
        · exact fun u hu => List.mem_cons_of_mem t (ih (List.mem_cons_of_mem g' hg) u hu)

namespace Sentence

/-- The names of the libraries that a program composes, in order. -/
def libraryNames (composed : Option (Name × List Name)) : List Name :=
  composed.elim [] fun c => c.1 :: c.2

theorem phrases_program (line : Option DescriptionLine) (bits : List Bool) (initial : Name)
    (finals : Name × List Name) (composed : Option (Name × List Name)) (rules : List RulePhrase) :
    (program line bits initial finals composed rules).phrases =
      line.toList.map .description ++
        ([.tape bits, .initialState initial, .finalStates finals.1 finals.2] ++
          (composed.toList.map (fun c => .compose c.1 c.2) ++ rules.map .rule)) := by
  cases line <;> cases composed <;>
    simp [phrases, places, List.filterMap_map]

end Sentence

/-- The tokens of a text stand in it up to blanks and comments at its end. -/
theorem Reading.reads_of_tokens {r : Reading} {cs : List Char} {ts : List Token}
    (h : r.tokens cs = .ok ts) : ∃ q gap, Reads (r == .program) .start ts cs q gap ∧
      Trivia (r == .program && ts.isEmpty) [] gap := by
  rw [← r.form_opening]
  exact readFrom_reads r.form_late .nil rfl h

/-- The outline of a text is made of the tokens of a sentence, which stand in the text. -/
theorem Reading.exists_reads_of_parse {r : Reading} {source : String} {o : Outline}
    (h : r.parse source = .ok o) :
    ∃ (s : Sentence r) (ts : List Token) (q : Position) (gap : List Char), o = .ofTokens r ts ∧
      ts.map Token.lexeme = s.lexemes ∧
        Reads (r == .program) .start ts source.toList q gap ∧
          Trivia (r == .program && ts.isEmpty) [] gap := by
  unfold parse at h
  split at h
  · next ts hts =>
    cases h
    obtain ⟨s, -, hlexemes⟩ := tokens_cases hts
    obtain ⟨q, gap, hreads, hgap⟩ := reads_of_tokens hts
    exact ⟨s, ts, q, gap, rfl, hlexemes, hreads, hgap⟩
  · cases h

namespace Outline

variable {source : String} {o : Outline} {r : Record} {reading : Reading}

theorem record_cases {ts : List Token} (hr : r ∈ (ofTokens reading ts).records) :
    RecordKind.openedBy? r.first.terminal = some r.kind ∧ ∀ t ∈ r.tokens, t ∈ ts := by
  obtain ⟨g, hg, hr⟩ := List.mem_filterMap.mp hr
  obtain ⟨hfirst, htokens⟩ := Record.ofGroup_cases hr
  exact ⟨hfirst, fun t ht => mem_groups hg t (htokens t ht)⟩

/-- The records of a text that lays out a sentence are the phrases of the sentence. -/
theorem exists_records {s : Sentence reading} (h : Reading.LaysOut s source) :
    ∃ o, reading.parse source = .ok o ∧ o.tree = s.tree ∧
      o.records.map Record.view = s.phrases.map Phrase.view ∧
        ∀ r ∈ o.records, RecordKind.openedBy? r.first.terminal = some r.kind := by
  obtain ⟨o, ho, htree⟩ := Reading.parse_of_laysOut h
  obtain ⟨s', ts, -, rfl, hts⟩ := Reading.parse_cases ho
  obtain rfl : s' = s := Sentence.tree_injective ((Sentence.tree_ofTokens hts).symm.trans htree)
  exact ⟨_, ho, htree, Sentence.records_of_lexemes hts, fun r hr => (record_cases hr).1⟩

/-- Every token of a record stands in the text, so there is a line that shows it. -/
theorem exists_line_of_token (h : reading.parse source = .ok o) (hr : r ∈ o.records) {t : Token}
    (ht : t ∈ r.tokens) :
    Text.IsLine source t.start.line (Text.line source t.start.line.toNat) := by
  obtain ⟨_, ts, _, _, rfl, -, hreads, -⟩ := Reading.exists_reads_of_parse h
  obtain ⟨hspelled, before, behind, hsource, hstart, -⟩ :=
    hreads.placed t ((record_cases hr).2 t ht)
  obtain ⟨c, tail, hc, -⟩ := hspelled.opens
  have hc : t.text.toList = c :: tail := hc
  have hne : t.text.toList ≠ [] := hc ▸ List.cons_ne_nil c tail
  rw [hstart]
  exact Text.exists_line hsource (List.append_ne_nil_of_left_ne_nil hne behind)

end Outline

end TapeMachine
