import TapeMachine.Proofs.Decompiled

/-! The text of a rule is read back as that rule, alone or in a block with blanks and comments. -/
namespace TapeMachine

open Terminal Lexeme

namespace Rule

/-- The states of a rule are names, and its symbols are bits. -/
structure Spelled (r : Rule Int) : Prop where
  source : IsName r.source
  target : IsName r.target
  read : r.read = 0 ∨ r.read = 1
  write : r.write = 0 ∨ r.write = 1

theorem spelled_iff {r : Rule Int} :
    r.Spelled ↔ ∃ q : RulePhrase, q.rule.map bitValue = r := by
  have hbit : ∀ n : Int, n = 0 ∨ n = 1 ↔ ∃ b, bitValue b = n := by
    intro n
    simp [bitValue, eq_comm]
  constructor
  · rintro ⟨hsource, htarget, hread, hwrite⟩
    obtain ⟨a, ha⟩ := (hbit r.read).mp hread
    obtain ⟨b, hb⟩ := (hbit r.write).mp hwrite
    refine ⟨⟨⟨r.source, hsource⟩, a, b, ⟨r.move.letter, Move.isName_letter _⟩,
      ⟨r.target, htarget⟩⟩, ?_⟩
    simp [RulePhrase.rule, map, ha, hb]
  · rintro ⟨q, rfl⟩
    exact ⟨q.source.2, q.target.2, (hbit _).mpr ⟨_, rfl⟩, (hbit _).mpr ⟨_, rfl⟩⟩

/-- One rule is read as the rule that its text lays out between the blanks at its ends. -/
theorem parse_eq_ok {text : String} {rule : Rule Bool} : parse text = .ok rule ↔
    ∃ q, Reading.LaysOut (.rule q) (Text.trimmed text) ∧ q.rule = rule := by
  have hread : ∀ q, Reading.LaysOut (.rule q) (Text.trimmed text) → parse text = .ok q.rule := by
    intro q hq
    obtain ⟨o, ho, -, hviews, -⟩ := Outline.exists_records hq
    have hrules : rulesOf (Text.trimmed text) o.records = .ok ([q].map RulePhrase.rule) :=
      rulesOf_of_views hviews
    simp [parse, ho, hrules, bind, Except.bind, pure, Except.pure]
  constructor
  · intro h
    cases ho : Reading.rule.parse (Text.trimmed text) with
    | error e => simp [parse, ho, bind, Except.bind] at h
    | ok o =>
      obtain ⟨s, _, hs, -, -⟩ := Reading.parse_cases ho
      cases s with
      | rule q => exact ⟨q, hs, Except.ok.inj ((hread q hs).symm.trans h)⟩
  · rintro ⟨q, hq, rfl⟩
    exact hread q hq

/-- Nothing is trimmed off a text with parentheses at its ends. -/
theorem trimmed_of_parens {s : String} {parts : List Char}
    (h : s.toList = '(' :: (parts ++ [')'])) :
    Text.trimmed s = s := by
  have htrim : Text.trim s.toList = s.toList := by
    apply Text.trim_of_ends
    · rw [h]
      simp [show Text.isBlank '(' = false by decide]
    · rw [h, ← List.cons_append, List.getLast?_concat]
      simp [show Text.isBlank ')' = false by decide]
  rw [Text.trimmed, htrim, String.ofList_toList]

theorem trimmed_text (r : Rule Bool) : Text.trimmed r.text = r.text := by
  have hends : ∃ parts, r.text.toList = '(' :: (parts ++ [')']) := by
    simp only [text, String.toList_append]
    exact ⟨_, rfl⟩
  obtain ⟨parts, hparts⟩ := hends
  exact trimmed_of_parens hparts

theorem parse_text (q : RulePhrase) : parse q.rule.text = .ok q.rule := by
  refine parse_eq_ok.mpr ⟨q.lettered, ?_, q.rule_lettered⟩
  have hlayout := layout_spaced false (Phrase.rule q.lettered).body
  rw [Phrase.spaced_body] at hlayout
  rw [trimmed_text]
  exact hlayout

/-- The texts of rules, each with a semicolon right behind it, and blanks and comments around
them. -/
inductive Listed : List (Rule Int) → List Char → Prop
  | nil {gap : List Char} : Trivia false [] gap → Listed [] gap
  | cons {r : Rule Int} {rs : List (Rule Int)} {gap cs : List Char} :
      Trivia false (r.text.toList ++ ';' :: cs) gap → Listed rs cs →
      Listed (r :: rs) (gap ++ (r.text.toList ++ ';' :: cs))

theorem lays_text (q : RulePhrase) :
    Lays false (Phrase.rule q.lettered).lexemes (q.rule.text.toList ++ [';']) := by
  have hmark : Lays false [mark semicolon] [';'] := by
    intro ms cs hcs
    have hlayout : Layout false (mark semicolon :: ms) ((mark semicolon).text.toList ++ cs) :=
      .lexeme (fun hd => by cases hd) hcs
    exact hlayout
  rw [← Phrase.spaced_body]
  exact (lays_spaced _).append hmark

/-- Such a text lays out the rules. -/
theorem Listed.layout {rs : List (Rule Int)} {cs : List Char} (h : Listed rs cs)
    (hrs : ∀ r ∈ rs, r.Spelled) : ∃ qs : List RulePhrase,
      (qs.map RulePhrase.rule).map (map bitValue) = rs ∧
        Layout false (qs.flatMap fun q => (Phrase.rule q).lexemes) cs := by
  induction h with
  | nil hgap => exact ⟨[], rfl, by simpa using hgap.layout id .nil⟩
  | @cons r rs gap cs hgap _ ih =>
    obtain ⟨hr, hothers⟩ := List.forall_mem_cons.mp hrs
    obtain ⟨q, rfl⟩ := spelled_iff.mp hr
    obtain ⟨qs, rfl, hlayout⟩ := ih hothers
    refine ⟨q.lettered :: qs, by simp, hgap.layout id ?_⟩
    have hmore := lays_text q _ _ hlayout
    rw [text_map]
    simpa using hmore

/-- A rule is read back from its text exactly if its states are names and its symbols are bits. The
text of a rule that was read is read as the same rule, and so is a block of such texts with blanks
and comments between them. -/
theorem text_read_back :
    (∀ r : Rule Int, (∃ q, parse r.text = .ok q ∧ q.map bitValue = r) ↔ r.Spelled) ∧
      (∀ (text : String) (q : Rule Bool), parse text = .ok q → parse q.text = .ok q) ∧
      ∀ (rs : List (Rule Int)) (text : String), (∀ r ∈ rs, r.Spelled) → Listed rs text.toList →
        ∃ qs, parseBlock text = .ok qs ∧ qs.map (map bitValue) = rs := by
  refine ⟨fun r => ⟨?_, ?_⟩, ?_, ?_⟩
  · rintro ⟨rule, hrule, hr⟩
    obtain ⟨q, -, rfl⟩ := parse_eq_ok.mp hrule
    exact spelled_iff.mpr ⟨q, hr⟩
  · intro hr
    obtain ⟨q, rfl⟩ := spelled_iff.mp hr
    exact ⟨q.rule, by rw [text_map, parse_text], rfl⟩
  · intro text rule hrule
    obtain ⟨q, -, rfl⟩ := parse_eq_ok.mp hrule
    exact parse_text q
  · intro rs text hrs hlisted
    obtain ⟨qs, hqs, hlayout⟩ := hlisted.layout hrs
    have hlays : Reading.LaysOut (.block qs) text := by
      rw [Reading.LaysOut, Sentence.lexemes_block]
      exact hlayout
    exact ⟨_, parseBlock_eq_ok.mpr ⟨qs, hlays, rfl⟩, hqs⟩

/-- Two rules on states that are named like marks and bits. -/
def backAndForth : List (Rule Int) := [⟨"0", 1, 1, .left, "compose"⟩, ⟨"compose", 0, 1, .halt, "0"⟩]

def backAndForthText : String := "(0, 1, 1, L, compose); // back\n(compose, 0, 1, H, 0);\n"

theorem listed_backAndForth : Listed backAndForth backAndForthText.toList := by
  have hspace : isGap ' ' = true := rfl
  have hfeed : isGap '\n' = true := rfl
  have hcomment : ∀ rest, Trivia false rest ('/' :: '/' :: (" back".toList ++ ['\n'])) :=
    fun rest => .comment (by decide) (fun hopening => by cases hopening) (.inr rfl)
      (.blank hfeed .nil)
  have hlisted : ∃ cs, Listed backAndForth cs ∧ cs = backAndForthText.toList := by
    refine ⟨_, .cons .nil (.cons (.blank hspace (hcomment _)) (.nil (.blank hfeed .nil))), ?_⟩
    decide
  obtain ⟨_, hlisted, rfl⟩ := hlisted
  exact hlisted

theorem text_read_back_backAndForth :
    (∀ r ∈ backAndForth, r.Spelled) ∧ Listed backAndForth backAndForthText.toList ∧
      (∃ qs, parseBlock backAndForthText = .ok qs ∧ qs.map (map bitValue) = backAndForth) ∧
      ∃ q, parse " (0,1, 1,N, F) // halts" = .ok q ∧ parse q.text = .ok q := by
  obtain ⟨hiff, hagain, hblock⟩ := text_read_back
  have hspelled : ∀ r ∈ backAndForth, r.Spelled :=
    List.forall_mem_cons.mpr ⟨⟨by decide, by decide, .inr rfl, .inr rfl⟩,
      List.forall_mem_cons.mpr ⟨⟨by decide, by decide, .inl rfl, .inr rfl⟩, by simp⟩⟩
  refine ⟨hspelled, listed_backAndForth, hblock _ _ hspelled listed_backAndForth, ?_⟩
  have hparse : parse " (0,1, 1,N, F) // halts" = .ok ⟨"0", true, true, .halt, "F"⟩ := by
    decide +kernel
  exact ⟨_, hparse, hagain _ _ hparse⟩

end Rule

end TapeMachine
