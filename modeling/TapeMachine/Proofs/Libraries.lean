import Mathlib.Data.List.Forall2
import TapeMachine.Library
import TapeMachine.Proofs.Source.Records

/-! What libraries are read from: the code of each one is a block of rules. -/
namespace TapeMachine

/-- Reading all of a list succeeds when each member can be read. -/
theorem mapM_eq_ok {ε α β : Type} {f : α → Except ε β} {as : List α} {bs : List β} :
    as.mapM f = .ok bs ↔ as.Forall₂ (fun a b => f a = .ok b) bs := by
  induction as generalizing bs with
  | nil => cases bs <;> simp [pure, Except.pure]
  | cons a as ih =>
    rw [List.mapM_cons]
    constructor
    · intro h
      cases hb : f a with
      | error e => simp [hb, bind, Except.bind] at h
      | ok b =>
        cases hbs : as.mapM f with
        | error e => simp [hb, hbs, bind, Except.bind] at h
        | ok bs' =>
          simp only [hb, hbs, bind, Except.bind, pure, Except.pure] at h
          cases h
          exact .cons hb (ih.mp hbs)
    · intro h
      cases h with
      | cons hb hbs =>
        rw [hb, ih.mpr hbs]
        rfl

theorem rule_of_views {rs : List Record} {qs : List RulePhrase}
    (h : rs.map Record.view = qs.map fun q => (Phrase.rule q).view) :
    rs.Forall₂ (fun r q => r.rule? = some q.rule) qs := by
  induction qs generalizing rs with
  | nil =>
    obtain rfl := List.map_eq_nil_iff.mp h
    exact .nil
  | cons q qs ih =>
    obtain ⟨r, rs, rfl, hr, hrs⟩ := List.map_eq_cons_iff.mp h
    exact .cons (Record.rule_of_view hr) (ih hrs)

/-- The rules of a text are those of its phrases. -/
theorem rulesOf_of_views {source : String} {rs : List Record} {qs : List RulePhrase}
    (h : rs.map Record.view = qs.map fun q => (Phrase.rule q).view) :
    rulesOf source rs = .ok (qs.map RulePhrase.rule) := by
  rw [rulesOf, mapM_eq_ok, List.forall₂_map_right_iff]
  refine (rule_of_views h).imp fun r q hr => ?_
  rw [hr]

/-- A block is read as the rules that its text lays out. -/
theorem Rule.parseBlock_eq_ok {text : String} {rules : List (Rule Bool)} :
    parseBlock text = .ok rules ↔
      ∃ qs, Reading.LaysOut (.block qs) text ∧ qs.map RulePhrase.rule = rules := by
  have hread : ∀ qs, Reading.LaysOut (.block qs) text →
      parseBlock text = .ok (qs.map RulePhrase.rule) := by
    intro qs hqs
    obtain ⟨o, ho, -, hviews, -⟩ := Outline.exists_records hqs
    have hphrases : (Sentence.block qs).phrases = qs.map Phrase.rule := by
      simp [Sentence.phrases, Sentence.places, List.filterMap_map]
    rw [hphrases, List.map_map] at hviews
    rw [parseBlock, ho]
    exact rulesOf_of_views hviews
  constructor
  · intro h
    cases ho : Reading.block.parse text with
    | error e => simp [parseBlock, ho, bind, Except.bind] at h
    | ok o =>
      obtain ⟨s, _, hs, -, -⟩ := Reading.parse_cases ho
      cases s with
      | block qs => exact ⟨qs, hs, Except.ok.inj ((hread qs hs).symm.trans h)⟩
  · rintro ⟨qs, hqs, rfl⟩
    exact hread qs hqs

namespace Library.Draft

variable {d : Draft} {L : Library}

theorem read_eq_ok : d.read = .ok L ↔ ∃ rules, Rule.parseBlock d.code = .ok rules ∧
    L = ⟨d.name, d.description, d.initial, d.final, d.used, rules⟩ := by
  rw [read]
  cases Rule.parseBlock d.code with
  | error e => simp [Except.map]
  | ok rules => simp [Except.map, eq_comm]

theorem name_of_read (h : d.read = .ok L) : L.name = d.name := by
  obtain ⟨_, -, rfl⟩ := read_eq_ok.mp h
  rfl

/-- The code of a library lays out its rules. -/
theorem exists_rules_of_read (h : d.read = .ok L) :
    ∃ qs, Reading.LaysOut (.block qs) d.code ∧ qs.map RulePhrase.rule = L.rules := by
  obtain ⟨_, hrules, rfl⟩ := read_eq_ok.mp h
  exact Rule.parseBlock_eq_ok.mp hrules

end Library.Draft

namespace Registry

variable {registry r : Registry} {drafts : List Library.Draft} {ls : List Library} {name : String}
  {L : Library}

theorem extend_eq_ok (h : extend r ls = .ok registry) : registry = r ++ ls := by
  induction ls generalizing r with
  | nil =>
    cases h
    exact (List.append_nil _).symm
  | cons l ls ih =>
    rw [extend] at h
    split at h
    · cases h
    · rw [ih h, List.append_assoc, List.singleton_append]

/-- A registry holds the libraries that are read from its drafts, in order. -/
theorem ofDrafts_cases (h : ofDrafts drafts = .ok registry) :
    drafts.Forall₂ (fun d L => d.read = .ok L) registry := by
  rw [ofDrafts] at h
  split at h
  · next libraries hread =>
    obtain rfl := extend_eq_ok h
    exact mapM_eq_ok.mp hread
  · cases h

/-- The library of a name is read from the draft of that name. -/
theorem find?_of_drafts (h : drafts.Forall₂ (fun d L => d.read = .ok L) registry)
    (hL : registry.find? name = some L) :
    ∃ d, drafts.find? (·.name == name) = some d ∧ d.read = .ok L := by
  induction h with
  | nil => cases hL
  | @cons d M drafts registry hd _ ih =>
    have hname := Library.Draft.name_of_read hd
    rw [find?, List.find?_cons] at hL
    rw [List.find?_cons, ← hname]
    split at hL
    · cases hL
      exact ⟨d, rfl, hd⟩
    · exact ih hL

end Registry

/-- The libraries of the catalog are what its codes are read as. -/
theorem Catalog.ofDrafts_drafts : Registry.ofDrafts Catalog.drafts = .ok Catalog.all := by
  decide +kernel

end TapeMachine
