import TapeMachine.Proofs.BuildOutcome

/-!
What a build reports: every record as it takes effect, and in the end the one error that stopped it
or the remarks on the program that was built.
-/
namespace TapeMachine

/-- What is reported of a library that is composed; nothing if it is not known. -/
def Registry.note? (registry : Registry) (name : String) : Option Note :=
  (registry.find? name).map fun library => .composed library.name library.rules.length

/-- What is reported of a phrase that takes effect. -/
def Phrase.told (registry : Registry) : Phrase → List Note
  | description line => (described? line.1).toList.map .description
  | tape bits => [.tape bits]
  | initialState name => [.initialState name.1]
  | finalStates first others => [.finalStates ((first :: others).map Subtype.val)]
  | compose first others => ((first :: others).map Subtype.val).filterMap registry.note?
  | rule r => [.rule r.rule]

theorem Phrase.level_of_told {registry : Registry} {p : Phrase} {n : Note}
    (h : n ∈ p.told registry) :
    n.level = .debug := by
  cases p with
  | description line =>
    obtain ⟨text, -, rfl⟩ := List.mem_map.mp h
    rfl
  | compose first others =>
    obtain ⟨name, -, hn⟩ := List.mem_filterMap.mp h
    obtain ⟨library, -, rfl⟩ := Option.map_eq_some_iff.mp hn
    rfl
  | tape | initialState | finalStates | rule =>
    obtain rfl := List.mem_singleton.mp h
    rfl

namespace Draft

variable {source : String} {handled : List RecordKind} {registry : Registry} {d e : Draft}
  {r : Record} {rs : List Record} {p : Phrase} {ps : List Phrase} {fault : Diagnostic}

/-- Libraries are reported up to the first unknown one. -/
theorem compose_told (source : String) (registry : Registry) (d : Draft) (ts : List Token) :
    (compose source registry d ts).1 <+: (ts.map Token.text).filterMap registry.note? ∧
      ∀ e, (compose source registry d ts).2 = .ok e →
        (compose source registry d ts).1 = (ts.map Token.text).filterMap registry.note? := by
  induction ts generalizing d with
  | nil => exact ⟨List.prefix_refl _, fun _ _ => rfl⟩
  | cons t ts ih =>
    unfold compose
    split
    · exact ⟨List.nil_prefix, nofun⟩
    · next library hfind =>
      have hnote : registry.note? t.text = some (.composed library.name library.rules.length) := by
        rw [Registry.note?, hfind, Option.map_some]
      rw [List.map_cons, List.filterMap_cons_some hnote]
      obtain ⟨hread, hall⟩ := ih { d with
        composed := d.composed ++ [library]
        table := d.table.insertAll library.rules }
      exact ⟨List.cons_prefix_cons.mpr ⟨rfl, hread⟩, fun e he => congrArg _ (hall e he)⟩

/-- A record that takes effect is reported, and one at fault as far as it was read. -/
theorem take_told (hv : r.view = p.view)
    (hfirst : RecordKind.openedBy? r.first.terminal = some r.kind)
    (source : String) (registry : Registry) (d : Draft) :
    (take source registry d r).1 <+: p.told registry ∧
      ∀ e, (take source registry d r).2 = .ok e →
        (take source registry d r).1 = p.told registry := by
  have hkind := Record.kind_of_view hv
  have hnames := Record.names_of_view hv
  cases p with
  | description line =>
    have htold : (take source registry d r).1 = (Phrase.description line).told registry := by
      rw [take, hkind, Record.first_of_view hv hfirst, Phrase.told, described?]
      simp only [Phrase.kind]
      split <;> rfl
    exact ⟨htold ▸ List.prefix_refl _, fun _ _ => htold⟩
  | tape bits =>
    have htold : (take source registry d r).1 = (Phrase.tape bits).told registry := by
      rw [take, hkind, Record.bits_of_view hv]
      rfl
    exact ⟨htold ▸ List.prefix_refl _, fun _ _ => htold⟩
  | initialState name =>
    obtain ⟨t, ht, htext⟩ := List.map_eq_singleton_iff.mp hnames
    have htold : (take source registry d r).1 = (Phrase.initialState name).told registry := by
      simp only [take, hkind, Phrase.kind, ht, Phrase.told, htext]
    exact ⟨htold ▸ List.prefix_refl _, fun _ _ => htold⟩
  | finalStates first others =>
    have htold :
        (take source registry d r).1 = (Phrase.finalStates first others).told registry := by
      rw [take, hkind, hnames]
      rfl
    exact ⟨htold ▸ List.prefix_refl _, fun _ _ => htold⟩
  | compose first others =>
    have hcompose := compose_told source registry d r.names
    rw [hnames] at hcompose
    rw [take, hkind]
    exact hcompose
  | rule q =>
    have htold : (take source registry d r).1 = (Phrase.rule q).told registry := by
      simp only [take, hkind, Phrase.kind, Record.rule_of_view hv, Phrase.told]
    exact ⟨htold ▸ List.prefix_refl _, fun _ _ => htold⟩

/-- A record takes effect and the others follow, or it is at fault and the last one looked at. -/
theorem link_cases (source : String) (handled : List RecordKind) (registry : Registry) (d : Draft)
    (r : Record) (rs : List Record) :
    (∃ next, (take source registry d r).2 = .ok next ∧
      link source registry handled d (r :: rs) =
        ((take source registry d r).1 ++ (link source registry handled next rs).1,
          (link source registry handled next rs).2)) ∨
      ∃ notes fault, notes <+: (take source registry d r).1 ∧
        link source registry handled d (r :: rs) = (notes, .error fault) := by
  rw [link]
  split
  · rcases take source registry d r with ⟨notes, fault | next⟩
    · exact .inr ⟨notes, fault, List.prefix_refl _, rfl⟩
    · exact .inl ⟨next, rfl, rfl⟩
  · exact .inr ⟨[], _, List.nil_prefix, rfl⟩

/-- Records are reported in order: all of them if all take effect, or else those up to the one at
fault and of that one what was read. -/
theorem link_told (hv : rs.map Record.view = ps.map Phrase.view)
    (hfirst : ∀ r ∈ rs, RecordKind.openedBy? r.first.terminal = some r.kind) (d : Draft) :
    (∃ e, link source registry handled d rs = (ps.flatMap (Phrase.told registry), .ok e)) ∨
      ∃ before p after part fault, ps = before ++ p :: after ∧ part <+: p.told registry ∧
        link source registry handled d rs =
          (before.flatMap (Phrase.told registry) ++ part, .error fault) := by
  induction rs generalizing d ps with
  | nil =>
    obtain rfl := List.map_eq_nil_iff.mp hv.symm
    exact .inl ⟨d, rfl⟩
  | cons r rs ih =>
    obtain ⟨p, ps, rfl, hp, hps⟩ := List.map_eq_cons_iff.mp hv.symm
    obtain ⟨hr, hrs⟩ := List.forall_mem_cons.mp hfirst
    obtain ⟨hread, htold⟩ := take_told hp.symm hr source registry d
    rcases link_cases source handled registry d r rs
        with ⟨next, hnext, hlink⟩ | ⟨notes, fault, hnotes, hlink⟩
    · rw [hlink, htold next hnext]
      rcases ih hps.symm hrs next with ⟨e, he⟩ | ⟨before, q, after, part, fault, rfl, hpart, hfault⟩
      · rw [he]
        exact .inl ⟨e, rfl⟩
      · rw [hfault]
        refine .inr ⟨p :: before, q, after, part, fault, rfl, hpart, ?_⟩
        rw [List.flatMap_cons, List.append_assoc]
    · exact .inr ⟨[], p, ps, notes, fault, rfl, hnotes.trans hread, hlink⟩

end Draft

namespace Note

/-- The notes of a level. -/
def ofLevel (level : Level) (notes : List Note) : List Note := notes.filter (·.level == level)

theorem ofLevel_append (level : Level) (notes more : List Note) :
    ofLevel level (notes ++ more) = ofLevel level notes ++ ofLevel level more :=
  List.filter_append ..

theorem ofLevel_of_forall {level : Level} {notes : List Note} (h : ∀ n ∈ notes, n.level = level) :
    ofLevel level notes = notes := by
  rw [ofLevel, List.filter_eq_self]
  exact fun n hn => beq_iff_eq.mpr (h n hn)

theorem ofLevel_of_ne {level other : Level} {notes : List Note} (h : ∀ n ∈ notes, n.level = other)
    (hne : other ≠ level) : ofLevel level notes = [] := by
  rw [ofLevel, List.filter_eq_nil_iff]
  intro n hn
  rw [h n hn, beq_iff_eq]
  exact hne

end Note

namespace Program

variable {handled : List RecordKind} {registry : Registry} {source : String} {p : Program}
  {d : Diagnostic}

/-- What a program that was built reports of its text. -/
theorem notes_of_ok {s : Sentence .program} (hs : Reading.LaysOut s source)
    (h : (buildWith handled registry source).2 = .ok p) :
    (buildWith handled registry source).1 =
      s.phrases.flatMap (Phrase.told registry) ++ p.warnings.map fun w => .collision w.message := by
  obtain ⟨o, ho, -, hviews, hfirst⟩ := Outline.exists_records hs
  unfold buildWith at h ⊢
  rw [ho] at h ⊢
  dsimp only at h ⊢
  rcases Draft.link_told hviews hfirst .empty
      with ⟨e, hlink⟩ | ⟨before, q, after, part, fault, -, -, hlink⟩
  · rw [hlink] at h ⊢
    cases h
    rfl
  · rw [hlink] at h
    cases h

/-- What a build reports before its error. -/
theorem notes_of_error (h : (buildWith handled registry source).2 = .error d) :
    ∃ notes, (buildWith handled registry source).1 = notes ++ [.buildFailed d] ∧
      (∀ n ∈ notes, n.level = .debug) ∧
      ∀ s : Sentence .program, Reading.LaysOut s source → ∃ before q after part,
        s.phrases = before ++ q :: after ∧ part <+: q.told registry ∧
          notes = before.flatMap (Phrase.told registry) ++ part := by
  cases hparse : Reading.program.parse source with
  | error refusal =>
    have hbuild : buildWith handled registry source =
        ([.readFailed refusal, .buildFailed refusal], .error refusal) := by
      rw [buildWith, hparse]
    rw [hbuild] at h ⊢
    cases h
    refine ⟨[.readFailed d], rfl, by simp [Note.level], fun s hs => ?_⟩
    obtain ⟨o, ho, -⟩ := Outline.exists_records hs
    rw [hparse] at ho
    cases ho
  | ok o =>
    obtain ⟨s, _, hs, -⟩ := Reading.parse_cases hparse
    obtain ⟨o', ho', -, hviews, hfirst⟩ := Outline.exists_records hs
    obtain rfl : o = o' := Except.ok.inj (hparse.symm.trans ho')
    unfold buildWith at h ⊢
    rw [hparse] at h ⊢
    dsimp only at h ⊢
    rcases Draft.link_told hviews hfirst .empty with
      ⟨e, hlink⟩ | ⟨before, q, after, part, fault, hs', hpart, hlink⟩
    · rw [hlink] at h
      cases h
    · rw [hlink] at h ⊢
      cases h
      refine ⟨_, rfl, fun n hn => ?_, fun s' hlays => ?_⟩
      · rcases List.mem_append.mp hn with hn | hn
        · obtain ⟨_, -, hn⟩ := List.mem_flatMap.mp hn
          exact Phrase.level_of_told hn
        · exact Phrase.level_of_told (hpart.subset hn)
      · obtain rfl := Reading.laysOut_unique hs hlays
        exact ⟨before, q, after, part, hs', hpart, rfl⟩

/-- The phrases of a program are told in the order of its text: the description if it says anything,
the tape, the initial state and the final states, each library that is composed, and each rule. -/
theorem told_phrases {line : Option DescriptionLine} {bits : List Bool} {initial : Name}
    {finals : Name × List Name} {composed : Option (Name × List Name)} {rules : List RulePhrase}
    (h : p.Realizes registry source (.program line bits initial finals composed rules)) :
    (Sentence.program line bits initial finals composed rules).phrases.flatMap
      (Phrase.told registry) =
      p.description.toList.map .description ++
        ([.tape bits, .initialState initial.1,
          .finalStates ((finals.1 :: finals.2).map Subtype.val)] ++
          (p.composed.map (fun l => .composed l.name l.rules.length) ++
            rules.map fun r => .rule r.rule)) := by
  obtain ⟨-, hdescription, hcomposed, -, -⟩ := h
  have hline : (line.toList.map Phrase.description).flatMap (Phrase.told registry) =
      p.description.toList.map .description := by
    rw [hdescription]
    cases line <;> simp [Phrase.told]
  have hlibraries :
      (composed.toList.map fun c => Phrase.compose c.1 c.2).flatMap (Phrase.told registry) =
      p.composed.map fun l => .composed l.name l.rules.length := by
    have hnames :
        (composed.toList.map fun c => Phrase.compose c.1 c.2).flatMap (Phrase.told registry) =
        (Sentence.libraryNames composed).filterMap fun n => registry.note? n.1 := by
      cases composed <;> simp [Phrase.told, Sentence.libraryNames]
    have hfound :=
      congrArg (List.filterMap (Option.map fun l : Library => Note.composed l.name l.rules.length))
        hcomposed
    rw [List.filterMap_map, List.filterMap_map] at hfound
    rw [hnames, ← List.filterMap_eq_map]
    exact hfound.symm
  have hrules : (rules.map Phrase.rule).flatMap (Phrase.told registry) =
      rules.map fun r => .rule r.rule := by
    rw [List.flatMap_map, List.map_eq_flatMap]
    rfl
  rw [Sentence.phrases_program, List.flatMap_append, List.flatMap_append,
    List.flatMap_append, hline, hlibraries, hrules]
  rfl

/-- The notes of a build agree with what it comes to, whatever kinds of records are taken care of. A
build that fails has one error among its notes, which is the last of them and says what is wrong;
there is no warning, and before it the records up to the one at fault are told. A build that
succeeds has no error; its warnings are the remarks on the program, in order, and apart from these
it tells of every record of the text in order: of a description if it says anything, of each library
that is composed and of each rule, also of one that another rule replaces. -/
theorem build_reported (handled : List RecordKind) (registry : Registry) (source : String) :
    (∀ d, (buildWith handled registry source).2 = .error d →
      ∃ notes, (buildWith handled registry source).1 = notes ++ [.buildFailed d] ∧
        (Note.buildFailed d).level = .error ∧
        (Note.buildFailed d).text = "Could not build the machine: " ++ d.text ∧
        (∀ n ∈ notes, n.level = .debug) ∧
        ∀ s : Sentence .program, Reading.LaysOut s source → ∃ before q after part,
          s.phrases = before ++ q :: after ∧ part <+: q.told registry ∧
            notes = before.flatMap (Phrase.told registry) ++ part) ∧
      ∀ p, (buildWith handled registry source).2 = .ok p →
        ∃ line bits initial finals composed rules,
          Reading.LaysOut (.program line bits initial finals composed rules) source ∧
          p.Realizes registry source (.program line bits initial finals composed rules) ∧
          Note.ofLevel .error (buildWith handled registry source).1 = [] ∧
          (Note.ofLevel .warning (buildWith handled registry source).1).map Note.text =
            p.warnings.map Warning.message ∧
          Note.ofLevel .debug (buildWith handled registry source).1 =
            p.description.toList.map .description ++
              ([.tape bits, .initialState initial.1,
                .finalStates ((finals.1 :: finals.2).map Subtype.val)] ++
                (p.composed.map (fun l => .composed l.name l.rules.length) ++
                  rules.map fun r => .rule r.rule)) := by
  constructor
  · intro d hd
    obtain ⟨notes, hnotes, hdebug, htold⟩ := notes_of_error hd
    exact ⟨notes, hnotes, rfl, rfl, hdebug, htold⟩
  · intro p hp
    obtain ⟨s, hs⟩ : ∃ s : Sentence .program, Reading.LaysOut s source := by
      by_contra hnone
      obtain ⟨d, _, _, hd, -⟩ := (build_outcome handled registry source).1.mp hnone
      rw [hp] at hd
      cases hd
    obtain ⟨o, -, -, ⟨_, _, _, -, -, herror⟩ | ⟨-, p', hp', hreal⟩⟩ :=
      buildWith_of_laysOut handled registry hs
    · rw [hp] at herror
      cases herror
    obtain rfl : p' = p := Except.ok.inj (hp'.symm.trans hp)
    have htold : ∀ n ∈ s.phrases.flatMap (Phrase.told registry), n.level = .debug := by
      intro n hn
      obtain ⟨_, -, hn⟩ := List.mem_flatMap.mp hn
      exact Phrase.level_of_told hn
    have hremarks : ∀ n ∈ p'.warnings.map fun w => Note.collision w.message,
        n.level = .warning := by
      intro n hn
      obtain ⟨_, -, rfl⟩ := List.mem_map.mp hn
      rfl
    cases s with
    | program line bits initial finals composed rules =>
      rw [notes_of_ok hs hp]
      refine ⟨line, bits, initial, finals, composed, rules, hs, hreal, ?_, ?_, ?_⟩
      · rw [Note.ofLevel_append, Note.ofLevel_of_ne htold (by decide),
          Note.ofLevel_of_ne hremarks (by decide)]
        rfl
      · rw [Note.ofLevel_append, Note.ofLevel_of_ne htold (by decide),
          Note.ofLevel_of_forall hremarks, List.nil_append, List.map_map]
        rfl
      · rw [Note.ofLevel_append, Note.ofLevel_of_forall htold,
          Note.ofLevel_of_ne hremarks (by decide), List.append_nil, told_phrases hreal]

/-- A program whose first rule reaches into a library, and is replaced by the second one. -/
def reachingIn : String :=
  "/// adds\n\x7b1\x7d; I = \x7bq\x7d; F = \x7bq\x7d; compose = \x7binc\x7d; " ++
    "(q, 1, 1, R, inc1); (q, 1, 1, H, q);"

/-- This program is built with a remark, and one with two faults is not built. -/
theorem build_reported_reachingIn :
    (∃ p, (buildWith RecordKind.all Catalog.all reachingIn).2 = .ok p ∧
      Note.ofLevel .error (buildWith RecordKind.all Catalog.all reachingIn).1 = [] ∧
      (Note.ofLevel .warning (buildWith RecordKind.all Catalog.all reachingIn).1).map Note.text =
      ["Instruction (q, 1, 1, R, inc1) jumps to state 'inc1', used internally by library 'inc'"]) ∧
      ∃ d notes, (buildWith RecordKind.all Catalog.all twoFaults).2 = .error d ∧
        (buildWith RecordKind.all Catalog.all twoFaults).1 = notes ++ [.buildFailed d] ∧
        ∀ n ∈ notes, n.level = .debug := by
  constructor
  · have hremarks :
        (buildWith RecordKind.all Catalog.all reachingIn).2.map (·.warnings.map Warning.message) =
          .ok ["Instruction (q, 1, 1, R, inc1) jumps to state 'inc1'" ++
            ", used internally by library 'inc'"] := by
      decide +kernel
    cases hp : (buildWith RecordKind.all Catalog.all reachingIn).2 with
    | error d =>
      rw [hp] at hremarks
      cases hremarks
    | ok p =>
      rw [hp] at hremarks
      obtain ⟨_, _, _, _, _, _, -, -, herrors, hwarnings, -⟩ :=
        (build_reported RecordKind.all Catalog.all reachingIn).2 p hp
      exact ⟨p, rfl, herrors, hwarnings.trans (Except.ok.inj hremarks)⟩
  · have herror : (buildWith RecordKind.all Catalog.all twoFaults).2 =
        .error ⟨.blankTape, blankTapeSpan, twoFaults⟩ := by decide +kernel
    obtain ⟨notes, hnotes, -, -, hdebug, -⟩ :=
      (build_reported RecordKind.all Catalog.all twoFaults).1 _ herror
    exact ⟨_, notes, herror, hnotes, hdebug⟩

end Program

end TapeMachine
