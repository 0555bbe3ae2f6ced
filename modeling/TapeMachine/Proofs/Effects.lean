import TapeMachine.Proofs.Build
import TapeMachine.Proofs.Source.Records

/-! What the records of a program leave when they take effect one after the other. -/
namespace TapeMachine

namespace Draft

variable {source : String} {handled : List RecordKind} {registry : Registry} {d e : Draft}
  {r : Record} {rs qs : List Record}

/-- Records take effect one after the other. -/
def TakesAll (registry : Registry) : List Record → Draft → Draft → Prop
  | [], d, e => d = e
  | r :: rs, d, e => ∃ next, Takes registry r d next ∧ TakesAll registry rs next e

theorem takesAll_append :
    TakesAll registry (rs ++ qs) d e ↔
      ∃ next, TakesAll registry rs d next ∧ TakesAll registry qs next e := by
  induction rs generalizing d with
  | nil => simp [TakesAll]
  | cons r rs ih =>
    simp only [List.cons_append, TakesAll, ih]
    constructor
    · rintro ⟨m, hm, next, hnext, hqs⟩
      exact ⟨next, ⟨m, hm, hnext⟩, hqs⟩
    · rintro ⟨next, ⟨m, hm, hnext⟩, hqs⟩
      exact ⟨m, hm, next, hnext, hqs⟩

theorem takesAll_of_link (h : (link source registry handled d rs).2 = .ok e) :
    TakesAll registry rs d e := by
  induction rs generalizing d with
  | nil =>
    cases h
    rfl
  | cons r rs ih =>
    obtain ⟨-, next, ht, hl⟩ := link_cons h
    exact ⟨next, ht, ih hl⟩

theorem link_of_takes (hk : r.kind ∈ handled) (h : Takes registry r d e) :
    (link source registry handled d (r :: rs)).2 = (link source registry handled e rs).2 := by
  have ht : (take source registry d r).2 = .ok e := take_eq_ok.mpr h
  rw [link, if_pos (List.contains_iff_mem.mpr hk)]
  split
  · next hr => simp [hr] at ht
  · next hr =>
    rw [hr] at ht
    cases ht
    rfl

variable {line : DescriptionLine} {bits : List Bool} {n first : Name} {others : List Name}
  {q : RulePhrase} {rules : List RulePhrase}

theorem takes_description (h : Takes registry r d e) (hv : r.view = (Phrase.description line).view)
    (hfirst : RecordKind.openedBy? r.first.terminal = some r.kind) :
    e = { d with description := (described? line.1).or d.description } := by
  rw [← Record.first_of_view hv hfirst]
  simpa only [Takes, Record.kind_of_view hv, Phrase.kind] using h

theorem takes_tape (h : Takes registry r d e) (hv : r.view = (Phrase.tape bits).view) :
    e = { d with tape := bits } := by
  simp only [Takes, Record.kind_of_view hv, Phrase.kind] at h
  rw [h.2, Record.bits_of_view hv]
  rfl

theorem takes_initialState (h : Takes registry r d e) (hv : r.view = (Phrase.initialState n).view) :
    e = { d with initial := n.1 } := by
  simp only [Takes, Record.kind_of_view hv, Phrase.kind] at h
  obtain ⟨t, ht, rfl⟩ := h
  have hnames := Record.names_of_view hv
  rw [ht] at hnames
  exact congrArg (fun s => { d with initial := s }) (List.cons.inj hnames).1

theorem takes_finalStates (h : Takes registry r d e)
    (hv : r.view = (Phrase.finalStates first others).view) :
    e = { d with finals := (first :: others).map Subtype.val } := by
  simp only [Takes, Record.kind_of_view hv, Phrase.kind] at h
  rw [h, Record.names_of_view hv]
  rfl

theorem takes_compose (h : Takes registry r d e)
    (hv : r.view = (Phrase.compose first others).view) : ∃ ls : List Library,
      (first :: others).map (fun n => registry.find? n.1) = ls.map some ∧ e = { d with
        composed := d.composed ++ ls
        table := Table.insertAll (ls.flatMap Library.rules) d.table } := by
  simp only [Takes, Record.kind_of_view hv, Phrase.kind] at h
  obtain ⟨ls, hls, he⟩ := h
  refine ⟨ls, ?_, he⟩
  have hnames := congrArg (List.map registry.find?) (Record.names_of_view hv)
  rw [List.map_map, List.map_map] at hnames
  exact hnames.symm.trans hls

theorem takes_rule (h : Takes registry r d e) (hv : r.view = (Phrase.rule q).view) :
    e = { d with table := d.table.insert q.rule, own := d.own ++ [(q.rule, r.span)] } := by
  simp only [Takes, Record.kind_of_view hv, Phrase.kind, Record.rule_of_view hv] at h
  obtain ⟨rule, hrule, rfl⟩ := h
  cases hrule
  rfl

/-- Rules go into the table in order, and into the list of the program's own rules. -/
theorem takesAll_rules (h : TakesAll registry rs d e)
    (hv : rs.map Record.view = rules.map fun q => (Phrase.rule q).view) :
    ∃ own, own.map Prod.fst = rules.map RulePhrase.rule ∧ e = { d with
      table := Table.insertAll (rules.map RulePhrase.rule) d.table
      own := d.own ++ own } := by
  induction rules generalizing rs d with
  | nil =>
    obtain rfl := List.map_eq_nil_iff.mp hv
    obtain rfl : d = e := h
    exact ⟨[], rfl, by simp [Table.insertAll]⟩
  | cons q rules ih =>
    obtain ⟨r, rs, rfl, hr, hrs⟩ := List.map_eq_cons_iff.mp hv
    obtain ⟨next, ht, hall⟩ := h
    obtain rfl := takes_rule ht hr
    obtain ⟨own, hown, rfl⟩ := ih hall hrs
    exact ⟨(q.rule, r.span) :: own, by simp [hown], by simp [Table.insertAll]⟩

/-- A description that says nothing leaves none. -/
theorem takesAll_description {line : Option DescriptionLine} (h : TakesAll registry rs d e)
    (hv : rs.map Record.view = line.toList.map fun l => (Phrase.description l).view)
    (hfirst : ∀ r ∈ rs, RecordKind.openedBy? r.first.terminal = some r.kind) :
    e = { d with description := (line.bind fun l => described? l.1).or d.description } := by
  cases line with
  | none =>
    obtain rfl := List.map_eq_nil_iff.mp hv
    obtain rfl : d = e := h
    rfl
  | some l =>
    obtain ⟨r, rfl, hr⟩ := List.map_eq_singleton_iff.mp hv
    obtain ⟨next, ht, rfl⟩ := h
    rw [Option.bind_some]
    exact takes_description ht hr (hfirst r (List.mem_singleton_self r))

theorem takesAll_compose {composed : Option (Name × List Name)} (h : TakesAll registry rs d e)
    (hv : rs.map Record.view = composed.toList.map fun c => (Phrase.compose c.1 c.2).view) :
    ∃ ls : List Library,
      (Sentence.libraryNames composed).map (fun n => registry.find? n.1) = ls.map some ∧
      e = { d with
        composed := d.composed ++ ls
        table := Table.insertAll (ls.flatMap Library.rules) d.table } := by
  cases composed with
  | none =>
    obtain rfl := List.map_eq_nil_iff.mp hv
    obtain rfl : d = e := h
    exact ⟨[], rfl, by simp [Table.insertAll]⟩
  | some c =>
    obtain ⟨r, rfl, hr⟩ := List.map_eq_singleton_iff.mp hv
    obtain ⟨next, ht, rfl⟩ := h
    exact takes_compose ht hr

/-- The draft of a program in which every record took effect. -/
theorem takesAll_program {line : Option DescriptionLine} {bits : List Bool} {initial : Name}
    {finals : Name × List Name} {composed : Option (Name × List Name)} {rules : List RulePhrase}
    (h : TakesAll registry rs .empty e)
    (hv : rs.map Record.view =
      (Sentence.program line bits initial finals composed rules).phrases.map Phrase.view)
    (hfirst : ∀ r ∈ rs, RecordKind.openedBy? r.first.terminal = some r.kind) :
    ∃ (ls : List Library) (own : List (Rule Bool × Span)),
      (Sentence.libraryNames composed).map (fun n => registry.find? n.1) = ls.map some ∧
        own.map Prod.fst = rules.map RulePhrase.rule ∧ e = {
          description := line.bind fun l => described? l.1
          tape := bits
          initial := initial.1
          finals := (finals.1 :: finals.2).map Subtype.val
          composed := ls
          table := Table.ofRules (ls.flatMap Library.rules ++ rules.map RulePhrase.rule)
          own := own } := by
  rw [Sentence.phrases_program, List.map_append, List.map_append, List.map_append] at hv
  obtain ⟨opening, rs, rfl, hopening, hv⟩ := List.map_eq_append_iff.mp hv
  obtain ⟨required, rs, rfl, hrequired, hv⟩ := List.map_eq_append_iff.mp hv
  obtain ⟨libraries, rs, rfl, hlibraries, hrules⟩ := List.map_eq_append_iff.mp hv
  obtain ⟨t, l, rfl, ht, hl⟩ := List.map_eq_cons_iff.mp hrequired
  obtain ⟨i, l', rfl, hi, hl'⟩ := List.map_eq_cons_iff.mp hl
  obtain ⟨f, rfl, hf⟩ := List.map_eq_singleton_iff.mp hl'
  obtain ⟨d₁, h₁, h⟩ := takesAll_append.mp h
  obtain ⟨d₂, ⟨d₃, h₃, d₄, h₄, d₅, h₅, rfl⟩, h⟩ := takesAll_append.mp h
  obtain ⟨d₆, h₆, h₇⟩ := takesAll_append.mp h
  rw [List.map_map] at hopening hlibraries hrules
  obtain rfl := takesAll_description h₁ hopening fun r hr => hfirst r (List.mem_append_left _ hr)
  obtain rfl := takes_tape h₃ ht
  obtain rfl := takes_initialState h₄ hi
  obtain rfl := takes_finalStates h₅ hf
  obtain ⟨ls, hls, rfl⟩ := takesAll_compose h₆ hlibraries
  obtain ⟨own, hown, rfl⟩ := takesAll_rules h₇ hrules
  refine ⟨ls, own, hls, hown, ?_⟩
  simp [empty, Table.ofRules, Table.insertAll_append]

end Draft

namespace Program

/-- Every record of a sentence took effect in a program: its description, tape and states are the
ones written, the libraries are those that the registry has under the names, and the rules are those
of the libraries with the program's own after them, on which the remarks are. -/
def Realizes (registry : Registry) (source : String) (p : Program) : Sentence .program → Prop
  | .program line bits initial finals composed rules =>
    p.source = source ∧
    p.description = (line.bind fun l => described? l.1) ∧
    p.composed.map some = (Sentence.libraryNames composed).map (fun n => registry.find? n.1) ∧
    p.machine = .load bits initial.1 ((finals.1 :: finals.2).map Subtype.val)
      (p.composed.flatMap Library.rules ++ rules.map RulePhrase.rule) ∧
    p.warnings.map Warning.message =
      p.composed.flatMap fun l => (rules.map RulePhrase.rule).filterMap (Draft.collision? l)

theorem message_collisions (d : Draft) : d.collisions.map Warning.message =
    d.composed.flatMap fun l => (d.own.map Prod.fst).filterMap (Draft.collision? l) := by
  rw [Draft.collisions, List.map_flatMap]
  congr 1
  funext l
  rw [List.map_filterMap, List.filterMap_map]
  congr 1
  funext x
  simp [Function.comp_def]

theorem realizes_of_takesAll {registry : Registry} {source : String} {rs : List Record}
    {d : Draft} {s : Sentence .program} (h : Draft.TakesAll registry rs .empty d)
    (hv : rs.map Record.view = s.phrases.map Phrase.view)
    (hfirst : ∀ r ∈ rs, RecordKind.openedBy? r.first.terminal = some r.kind) :
    (d.toProgram source).Realizes registry source s := by
  cases s with
  | program line bits initial finals composed rules =>
    obtain ⟨ls, own, hls, hown, rfl⟩ := Draft.takesAll_program h hv hfirst
    refine ⟨rfl, rfl, hls.symm, ?_, ?_⟩
    · unfold Draft.toProgram Machine.load
      rw [Table.ofRules_of_distinct (Table.distinct_ofRules _)]
    · rw [← hown]
      exact message_collisions _

end Program

end TapeMachine
