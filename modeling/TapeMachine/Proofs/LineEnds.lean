import TapeMachine.Program
import TapeMachine.Proofs.Source.LineEnds

/-! How the lines of a program end does not matter for what is built from it. -/
namespace TapeMachine

open Text (withReturns)

/-- Besides blanks and comments the text holds a description, and nothing else. -/
def OnlyDescribed (source : String) : Prop :=
  ∃ line : DescriptionLine, Layout true [.ofLine line] source.toList

/-- One description. -/
def descriptionForm : Form := .one .description .done

theorem onlyDescribed_iff {source : String} : OnlyDescribed source ↔
    (readFrom descriptionForm .start .start source.toList).isOk = true := by
  have hlate : descriptionForm.Late := by
    intro t g hn
    obtain ⟨rfl, rfl⟩ : t = .description ∧ Form.done = g := by
      simpa [descriptionForm, Form.next, Option.ite_none_right_eq_some] using hn
    trivial
  constructor
  · rintro ⟨line, hlayout⟩
    have hyields : descriptionForm.Yields ([Lexeme.ofLine line].map Lexeme.terminal) := .one .done
    have hspelled : ∀ l ∈ [Lexeme.ofLine line], l.Spelled := by
      intro l hl
      obtain rfl := List.mem_singleton.mp hl
      exact line.2
    obtain ⟨ts, hts, -⟩ :=
      readFrom_complete hlayout rfl (by decide) hlate hyields hspelled .start .start
    rw [hts]
    rfl
  · intro h
    cases hread : readFrom descriptionForm .start .start source.toList with
    | error e =>
      rw [hread] at h
      cases h
    | ok ts =>
      obtain ⟨hyields, hlayout, hspelled⟩ := readFrom_sound hlate hread
      generalize hterminals : ts.map Token.terminal = w at hyields
      obtain ⟨⟩ | ⟨⟨⟩⟩ := hyields
      obtain ⟨t, rfl, ht⟩ := List.map_eq_singleton_iff.mp hterminals
      have hlexeme : t.lexeme = ⟨.description, t.text⟩ := by rw [Token.lexeme, ht]
      have hline := hspelled t List.mem_cons_self
      rw [hlexeme] at hline
      rw [List.map_singleton, hlexeme] at hlayout
      exact ⟨⟨t.text, hline⟩, hlayout⟩

instance (source : String) : Decidable (OnlyDescribed source) :=
  decidable_of_iff _ onlyDescribed_iff.symm

variable {source : String} {registry : Registry} {handled : List RecordKind}

theorem inSource_withReturns (h : '\r' ∉ source.toList) :
    Diagnostic.inSource (withReturns source) = Diagnostic.inSource source := by
  funext complaint span
  rw [Diagnostic.inSource, Diagnostic.inSource, Text.line_withReturns h]

namespace Draft

theorem compose_withReturns (h : '\r' ∉ source.toList) (d : Draft) (ts : List Token) :
    compose (withReturns source) registry d ts = compose source registry d ts := by
  induction ts generalizing d with
  | nil => rfl
  | cons t ts ih =>
    rw [compose, compose, inSource_withReturns h]
    cases registry.find? t.text with
    | none => rfl
    | some library =>
      dsimp only
      rw [ih]

theorem take_withReturns (h : '\r' ∉ source.toList) (d : Draft) (r : Record) :
    take (withReturns source) registry d r = take source registry d r := by
  unfold take
  rw [inSource_withReturns h, compose_withReturns h]

theorem link_withReturns (h : '\r' ∉ source.toList) (d : Draft) (rs : List Record) :
    link (withReturns source) registry handled d rs = link source registry handled d rs := by
  induction rs generalizing d with
  | nil => rfl
  | cons r rs ih => simp only [link, take_withReturns h, inSource_withReturns h, ih]

/-- A carriage return at its end has no part in what a description says. -/
theorem link_returned (hhandled : handled.contains .description = true) (d : Draft) (t : Token)
    (rs : List Record) : link source registry handled d (⟨.description, t.returned, []⟩ :: rs) =
      link source registry handled d (⟨.description, t, []⟩ :: rs) := by
  have htext : descriptionText t.returned.text = descriptionText t.text :=
    descriptionText_return t.text
  simp only [link, hhandled, take, htext, if_true]

end Draft

theorem records_description {d : Token} (hd : d.terminal = .description) (ts : List Token) :
    (groups (d :: ts)).filterMap Record.ofGroup? =
      ⟨.description, d, []⟩ :: (groups ts).filterMap Record.ofGroup? := by
  have hcloses : d.closes = true := by simp [Token.closes, hd]
  have hrecord : Record.ofGroup? [d] = some ⟨.description, d, []⟩ := by
    simp [Record.ofGroup?, hd, RecordKind.openedBy?]
  rw [groups, if_pos hcloses, List.filterMap_cons, hrecord]

namespace Program

/-- With carriage returns before its line feeds a program is built as without them. -/
theorem buildWith_withReturns (hsource : '\r' ∉ source.toList) (hmore : ¬ OnlyDescribed source)
    (hhandled : handled.contains .description = true) :
    buildWith handled registry (withReturns source) = (buildWith handled registry source).map id
      (Except.map fun p => { p with source := withReturns source }) := by
  have halike := readFrom_opening_returned Reading.program.form_late (Reading.form_unbarred nofun)
    Reading.program.form_clear .start .start source.toList fun line hline => hmore ⟨line, hline⟩
  have htokens : (withReturns source).toList = Text.returned source.toList := String.toList_ofList
  have hrefusal : Diagnostic.ofRefusal (withReturns source) = Diagnostic.ofRefusal source := by
    funext r
    rw [Diagnostic.ofRefusal, Diagnostic.ofRefusal, inSource_withReturns hsource]
  unfold buildWith Reading.parse Reading.tokens
  rw [htokens, hrefusal]
  generalize readFrom Reading.program.form .start .start source.toList = r at halike ⊢
  generalize readFrom Reading.program.form .start .start (Text.returned source.toList) =
    r' at halike ⊢
  cases halike with
  | same =>
    cases r with
    | error e => rfl
    | ok ts =>
      simp only [Draft.link_withReturns hsource]
      rcases Draft.link source registry handled .empty (Outline.ofTokens .program ts).records with
        ⟨notes, e | d⟩
      · rfl
      · rfl
  | @description d r hd =>
    cases r with
    | error e => rfl
    | ok ts =>
      simp only [Except.map, Outline.ofTokens, records_description hd,
        records_description (d := d.returned) hd, Draft.link_withReturns hsource,
        Draft.link_returned hhandled]
      rcases Draft.link source registry handled .empty _ with ⟨notes, e | d⟩
      · rfl
      · rfl

/-- How its lines end does not matter for a program, unless it is a description only. The same is
refused at the same place with the same line of text, or the same machine is built with the same
warnings. -/
theorem build_withReturns (hsource : '\r' ∉ source.toList) (hmore : ¬ OnlyDescribed source)
    (registry : Registry) : build registry (withReturns source) =
      (build registry source).map fun p => { p with source := withReturns source } := by
  rw [build, buildWith_withReturns hsource hmore rfl]
  rfl

def adding : String :=
  "/// Adds one\n\x7b11\x7d; // a two\nI = \x7binc0\x7d;\nF = \x7bincf\x7d;\n" ++
    "compose = \x7binc\x7d;\n(q, 1, 1, R, inc1);\n"

theorem build_withReturns_adding : '\r' ∉ adding.toList ∧ ¬ OnlyDescribed adding ∧
    (build Catalog.all (withReturns adding)).map
      (fun p => (p.description, p.warnings.map Warning.text)) =
      .ok (some "Adds one", ["Instruction (q, 1, 1, R, inc1) jumps to state 'inc1', " ++
        "used internally by library 'inc' (line 6, column 1)"]) := by
  refine ⟨by decide, by decide +kernel, ?_⟩
  rw [build_withReturns (by decide) (by decide +kernel)]
  decide +kernel

/-- A text that ends with its description is refused one column further on. -/
example : build [] "/// Adds one\n" ≠ build [] (withReturns "/// Adds one\n") := by decide +kernel

end Program

end TapeMachine
