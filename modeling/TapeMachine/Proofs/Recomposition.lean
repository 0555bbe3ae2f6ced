import TapeMachine.Proofs.Alphabets
import TapeMachine.Proofs.Decompiled
import TapeMachine.Proofs.Linking

/-! Libraries that do not clash are composed in any order and as often as one likes. -/
namespace TapeMachine

/-- A stray rule takes the same place among the same rules, wherever they come among the others. -/
theorem Stray.rules_insert {strays others : List Stray} (r : Rule Int) (i j : Nat)
    (h : strays.map Stray.rule = others.map Stray.rule) :
    (insert ⟨r, i⟩ strays).map Stray.rule = (insert ⟨r, j⟩ others).map Stray.rule := by
  induction strays generalizing others with
  | nil =>
    obtain rfl := List.map_eq_nil_iff.mp h.symm
    rfl
  | cons s strays ih =>
    obtain ⟨o, others, rfl, ho, hothers⟩ := List.map_eq_cons_iff.mp h.symm
    rw [insert, insert, ho]
    split
    · simp [hothers]
    · simp [ho, ih hothers.symm]

namespace Machine

variable {σ : Type} [DecidableEq σ] {m k : Machine σ} {α β : Type}

/-- Two machines differ at most in the order in which their rules came in. -/
inductive Alike (m : Machine σ) : Machine σ → Prop
  | reordered {t : Table σ} {strays : List Stray} :
      (∀ state symbol, t.find? state symbol = m.table.find? state symbol) →
      strays.map Stray.rule = m.strays.map Stray.rule →
      Alike m { m with table := t, strays := strays }

/-- The same answer is given twice, and machines that are alike are left. -/
def AnswersAlike (left right : Except Fault α × Machine σ) : Prop :=
  right.1 = left.1 ∧ left.2.Alike right.2

theorem AnswersAlike.map {left right : Except Fault α × Machine σ} (h : AnswersAlike left right)
    (f : α → β) : AnswersAlike (left.1.map f, left.2) (right.1.map f, right.2) :=
  ⟨congrArg (Except.map f) h.1, h.2⟩

theorem AnswersAlike.thenAsk {left right : Except Fault α × Machine σ}
    {question : Machine σ → Except Fault β}
    (h : AnswersAlike left right) (hq : ∀ m k : Machine σ, m.Alike k → question k = question m) :
    AnswersAlike (thenAsk left question) (thenAsk right question) := by
  obtain ⟨answer, m⟩ := left
  obtain ⟨_, k⟩ := right
  obtain ⟨hanswer, hleft⟩ := h
  cases hanswer
  cases answer with
  | error e => exact ⟨rfl, hleft⟩
  | ok a => exact ⟨hq m k hleft, hleft⟩

namespace Alike

theorem find? (h : m.Alike k) (state : String) (symbol : σ) :
    k.table.find? state symbol = m.table.find? state symbol := by
  cases h with
  | reordered htable _ => exact htable state symbol

theorem isLooping (h : m.Alike k) (limit : Int) : k.isLooping limit = m.isLooping limit := by
  cases h
  rfl

theorem ruleFor (h : m.Alike k) : k.ruleFor = m.ruleFor := by
  funext state symbol
  rw [Machine.ruleFor, Machine.ruleFor, h.find?]
  cases h
  rfl

theorem currentRule (h : m.Alike k) : k.currentRule = m.currentRule := by
  rw [Machine.currentRule, Machine.currentRule, h.ruleFor]
  cases h
  rfl

theorem isUndefined (h : m.Alike k) : k.isUndefined = m.isUndefined := by
  rw [Machine.isUndefined, Machine.isUndefined, h.currentRule]

theorem finished (h : m.Alike k) : k.finished = m.finished := by
  rw [Machine.finished, Machine.finished, h.currentRule]
  cases h
  rfl

theorem status (h : m.Alike k) (limit : Int) : k.status limit = m.status limit := by
  rw [Machine.status, Machine.status, h.finished, h.isUndefined, h.isLooping]

variable [Symbol σ]

theorem outcome (h : m.Alike k) : k.outcome = m.outcome := by
  rw [Machine.outcome, Machine.outcome, h.isUndefined]
  cases h
  rfl

theorem reportAfter (h : m.Alike k) (limit : Int) : k.reportAfter limit = m.reportAfter limit := by
  rw [Machine.reportAfter, Machine.reportAfter, h.outcome, h.status]
  cases h
  rfl

theorem apply (h : m.Alike k) (r : Rule σ) : (m.apply r).Alike (k.apply r) := by
  cases h with
  | reordered htable hstrays => exact .reordered htable hstrays

/-- Both machines take a step, or none of them does. -/
theorem step_cases (h : m.Alike k) : (∃ e, m.step = .error e ∧ k.step = .error e) ∨
    (m.step = .ok none ∧ k.step = .ok none) ∨
    ∃ next next', m.step = .ok (some next) ∧ k.step = .ok (some next') ∧ next.Alike next' := by
  unfold Machine.step
  rw [h.currentRule]
  rcases m.currentRule with e | _ | r
  · exact .inl ⟨e, rfl, rfl⟩
  · exact .inr (.inl ⟨rfl, rfl⟩)
  · exact .inr (.inr ⟨_, _, rfl, rfl, h.apply r⟩)

theorem advance (h : m.Alike k) : AnswersAlike m.advance k.advance := by
  unfold Machine.advance
  rcases h.step_cases with ⟨e, hm, hk⟩ | ⟨hm, hk⟩ | ⟨next, next', hm, hk, hnext⟩
  · rw [hm, hk]
    exact ⟨rfl, h⟩
  · rw [hm, hk]
    exact ⟨rfl, h⟩
  · rw [hm, hk]
    exact ⟨rfl, hnext⟩

theorem advanceMany (h : m.Alike k) (count : Nat) :
    AnswersAlike (m.advanceMany count) (k.advanceMany count) := by
  induction count generalizing m k with
  | zero => exact ⟨rfl, h⟩
  | succ count ih =>
    obtain ⟨hanswer, hleft⟩ := h.advance
    unfold Machine.advanceMany
    generalize m.advance = left at hanswer hleft
    generalize k.advance = right at hanswer hleft
    obtain ⟨answer, m'⟩ := left
    obtain ⟨_, k'⟩ := right
    cases hanswer
    cases answer with
    | error e => exact ⟨rfl, hleft⟩
    | ok flag => exact (ih hleft).map (flag :: ·)

theorem run (h : m.Alike k) (limit : Option Int) (budget : Nat) :
    AnswersAlike (Machine.run limit budget m) (Machine.run limit budget k) := by
  induction budget generalizing m k with
  | zero =>
    rw [Machine.run, Machine.run, h.finished]
    exact ⟨rfl, h⟩
  | succ budget ih =>
    have hlooping : k.isLooping = m.isLooping := funext h.isLooping
    rw [Machine.run, Machine.run, h.finished, hlooping]
    rcases m.finished with e | _ | _
    · exact ⟨rfl, h⟩
    · dsimp only
      split
      · exact ⟨rfl, h⟩
      · rcases h.step_cases with ⟨e, hm, hk⟩ | ⟨hm, hk⟩ | ⟨next, next', hm, hk, hnext⟩
        · rw [hm, hk]
          exact ⟨rfl, h⟩
        · rw [hm, hk]
          exact ⟨rfl, h⟩
        · rw [hm, hk]
          exact ih hnext
    · exact ⟨rfl, h⟩

theorem settle (h : m.Alike k) (fuel : Nat) :
    AnswersAlike (Machine.settle fuel m) (Machine.settle fuel k) := by
  induction fuel generalizing m k with
  | zero => exact ⟨rfl, h⟩
  | succ fuel ih =>
    rw [Machine.settle, Machine.settle, h.finished]
    rcases m.finished with e | _ | _
    · exact ⟨rfl, h⟩
    · rcases h.step_cases with ⟨e, hm, hk⟩ | ⟨hm, hk⟩ | ⟨next, next', hm, hk, hnext⟩
      · rw [hm, hk]
        exact ⟨rfl, h⟩
      · rw [hm, hk]
        exact ⟨rfl, h⟩
      · rw [hm, hk]
        exact ih hnext
    · exact ⟨rfl, h⟩

theorem addRule (h : m.Alike k) (r : Rule Int) : (m.addRule r).Alike (k.addRule r) := by
  cases h with
  | @reordered t strays htable hstrays =>
    unfold Machine.addRule
    cases (r.within? : Option (Rule σ)) with
    | some q =>
      refine .reordered ?_ hstrays
      intro state symbol
      rw [Table.find?_insert, Table.find?_insert, htable]
    | none => exact .reordered htable (Stray.rules_insert r t.length m.table.length hstrays)

end Alike

variable [Symbol σ]

/-- Every command leaves machines alike that were alike, and is answered by both in the same way;
only a chart shows in which order the rules came in. -/
theorem Alike.perform (h : m.Alike k) (c : Command) : (m.perform c).2.Alike (k.perform c).2 ∧
    (c ≠ .chart → (k.perform c).1 = (m.perform c).1) := by
  -- A chart leaves the machines as they are, so it is set apart only for what it answers.
  have hanswers : c ≠ .chart → AnswersAlike (m.perform c) (k.perform c) := by
    intro hc
    cases c with
    | step => exact h.advance.map Answer.flag
    | steps count => exact (h.advanceMany count).map Answer.flags
    | run maxSteps limit =>
      apply (h.run limit maxSteps.toNat).thenAsk
      intro m k hmk
      rw [hmk.outcome]
    | settle fuel =>
      obtain ⟨hanswer, hleft⟩ := h.settle fuel
      refine ⟨?_, hleft⟩
      simp only [Machine.perform]
      generalize Machine.settle fuel m = left at hanswer hleft ⊢
      generalize Machine.settle fuel k = right at hanswer hleft ⊢
      obtain ⟨answer, m'⟩ := left
      obtain ⟨_, k'⟩ := right
      cases hanswer
      cases hleft
      rfl
    | report maxSteps limit =>
      have hreport := (h.run (some limit) maxSteps.toNat).thenAsk fun _ _ hmk =>
        hmk.reportAfter limit
      exact hreport.map Answer.report
    | addRule r => exact ⟨rfl, h.addRule r⟩
    | currentRule => exact ⟨congrArg (Except.map Answer.rule) h.currentRule, h⟩
    | isUndefined => exact ⟨congrArg (Except.map Answer.flag) h.isUndefined, h⟩
    | finished => exact ⟨congrArg (Except.map Answer.flag) h.finished, h⟩
    | outcome => exact ⟨congrArg (Except.map Answer.outcome) h.outcome, h⟩
    | symbol | isLooping | ones | values | render =>
      refine ⟨?_, h⟩
      cases h
      rfl
    | reset | resetVisits | setHead | setState =>
      refine ⟨rfl, ?_⟩
      cases h with
      | reordered htable hstrays => exact .reordered htable hstrays
    | chart => exact (hc rfl).elim
  by_cases hc : c = .chart
  · subst hc
    exact ⟨h, fun hne => (hne rfl).elim⟩
  · exact ⟨(hanswers hc).2, fun _ => (hanswers hc).1⟩

theorem Alike.performAll (h : m.Alike k) (cs : List Command) :
    (m.performAll cs).Alike (k.performAll cs) := by
  induction cs generalizing m k with
  | nil => exact h
  | cons c cs ih => exact ih (h.perform c).1

/-- Over another alphabet the machines have the same rules for zeros and ones, and no others. -/
theorem Alike.recast {m k : Machine} (h : m.Alike k) : (m.recast σ).Alike (k.recast σ) := by
  cases h with
  | @reordered t strays htable hstrays =>
    refine .reordered ?_ hstrays
    intro state symbol
    change Table.find? state symbol (t.map (.map Symbol.ofBit)) =
      Table.find? state symbol (m.table.map (.map Symbol.ofBit))
    by_cases hsymbol : ∃ b, Symbol.ofBit b = symbol
    · obtain ⟨b, rfl⟩ := hsymbol
      rw [Table.find?_recast, Table.find?_recast, htable]
    · have hne : ∀ b, Symbol.ofBit b ≠ symbol := fun b hb => hsymbol ⟨b, hb⟩
      rw [Table.find?_recast_of_ne hne, Table.find?_recast_of_ne hne]

end Machine

/-- No two of these libraries have rules for the same key. -/
def Library.Apart (ls : List Library) : Prop :=
  ∀ L ∈ ls, ∀ M ∈ ls, L ≠ M → (L.rules.map Rule.key).Disjoint (M.rules.map Rule.key)

/-- Of libraries without common keys the one that has a rule for a key decides, wherever it comes
and however often. -/
theorem Table.last?_flatMap_of_apart {Ls Ms : List Library} (happart : Library.Apart Ls)
    (hsame : ∀ L, L ∈ Ls ↔ L ∈ Ms) (state : String) (symbol : Bool) :
    last? state symbol (Ls.flatMap Library.rules) =
      last? state symbol (Ms.flatMap Library.rules) := by
  -- Either no library has a rule for the key, or one has it and all others that are named have
  -- none.
  by_cases hnone : ∀ L ∈ Ls, last? state symbol L.rules = none
  · have hflat : ∀ Ns : List Library, (∀ L ∈ Ns, L ∈ Ls) →
        last? state symbol (Ns.flatMap Library.rules) = none := by
      intro Ns hNs
      rw [last?_eq_none_iff]
      intro r hr
      obtain ⟨L, hL, hr⟩ := List.mem_flatMap.mp hr
      exact last?_eq_none_iff.mp (hnone L (hNs L hL)) r hr
    rw [hflat Ls fun _ hL => hL, hflat Ms fun L hL => (hsame L).mpr hL]
  · simp only [not_forall] at hnone
    obtain ⟨L, hL, hsome⟩ := hnone
    obtain ⟨r, hr⟩ := Option.ne_none_iff_exists'.mp hsome
    have hkey : (state, symbol) ∈ L.rules.map Rule.key := by
      rw [← (last?_eq_some_iff.mp hr).1]
      exact List.mem_map_of_mem (mem_of_last? hr)
    have hothers : ∀ M ∈ Ls, M ≠ L → last? state symbol M.rules = none := by
      intro M hM hne
      rw [last?_eq_none_iff]
      intro q hq hqkey
      exact happart L hL M hM hne.symm hkey (hqkey ▸ List.mem_map_of_mem hq)
    rw [last?_flatMap hothers, last?_flatMap fun M hM => hothers M ((hsame M).mpr hM), if_pos hL,
      if_pos ((hsame L).mp hL)]

/-- No two different libraries that are named have rules for the same key. -/
def Registry.Apart (registry : Registry) (names : List Name) : Prop :=
  Library.Apart (names.filterMap fun n => registry.find? n.1)

theorem Catalog.apart (names : List Name) : all.Apart names := by
  have hall : Library.Apart all := by
    unfold Library.Apart List.Disjoint
    decide
  have hmem : ∀ L ∈ names.filterMap fun n => all.find? n.1, L ∈ all := by
    intro L hL
    obtain ⟨n, -, hn⟩ := List.mem_filterMap.mp hL
    exact List.mem_of_find?_eq_some hn
  intro L hL M hM hne
  exact hall L (hmem L hL) M (hmem M hM) hne

/-- Two texts differ at most in the libraries that they compose, `names` in the one and `others` in
the other; or no program can be read from either. -/
inductive Recomposed (names others : List Name) (source other : String) : Prop
  | programs {line : Option DescriptionLine} {bits : List Bool} {initial : Name}
      {finals : Name × List Name} {composed composed' : Option (Name × List Name)}
      {rules : List RulePhrase} :
      Reading.LaysOut (.program line bits initial finals composed rules) source →
      Reading.LaysOut (.program line bits initial finals composed' rules) other →
      Sentence.libraryNames composed = names → Sentence.libraryNames composed' = others →
      Recomposed names others source other
  | unread : (¬ ∃ s : Sentence .program, Reading.LaysOut s source) →
      (¬ ∃ s : Sentence .program, Reading.LaysOut s other) → Recomposed names others source other

open Sentence in
/-- A text with another record in the place of the one that composes libraries. -/
theorem Outline.recomposed {line : Option DescriptionLine} {bits : List Bool} {initial : Name}
    {finals : Name × List Name} {composed : Option (Name × List Name)} {rules : List RulePhrase}
    {source : String} {o : Outline} {r : Record} {first : Name} {others : List Name}
    {piece : List Char}
    (hs : Reading.LaysOut (.program line bits initial finals composed rules) source)
    (ho : Reading.program.parse source = .ok o) (hr : r ∈ o.records) (hkind : r.kind = .compose)
    (hpiece : Lays false (Phrase.compose first others).lexemes piece) :
    Recomposed (libraryNames composed) (first :: others) source
      (r.span.replaceIn source piece) := by
  obtain ⟨-, hlays⟩ := replace_between hs ho hr hkind
  have hnew : Reading.LaysOut (.program line bits initial finals (some (first, others)) rules)
      (r.span.replaceIn source piece) := by
    rw [Reading.LaysOut, lexemes_opening]
    simpa using hlays _ _ hpiece
  exact .programs hs hnew rfl rfl

namespace Program

variable {registry : Registry} {source other : String} {p q : Program} {names others : List Name}

theorem mem_composed_iff {ls : List Library}
    (h : ls.map some = names.map fun n => registry.find? n.1) (L : Library) :
    L ∈ ls ↔ ∃ n ∈ names, registry.find? n.1 = some L := by
  have hmem : L ∈ ls ↔ some L ∈ ls.map some := by simp
  rw [hmem, h, List.mem_map]

/-- A program builds exactly if there is a one on its tape and it composes known libraries only. -/
theorem exists_build_iff {line : Option DescriptionLine} {bits : List Bool} {initial : Name}
    {finals : Name × List Name} {composed : Option (Name × List Name)} {rules : List RulePhrase}
    (h : Reading.LaysOut (.program line bits initial finals composed rules) source) :
    (∃ p, build registry source = .ok p) ↔
      true ∈ bits ∧ ∀ n ∈ Sentence.libraryNames composed, n.1 ∈ registry.names := by
  constructor
  · rintro ⟨p, hp⟩
    obtain ⟨_, _, _, _, _, _, hs, ⟨-, -, hcomposed, -⟩, hbits⟩ := realizes_of_build hp
    cases Reading.laysOut_unique h hs
    refine ⟨hbits, fun n hn => ?_⟩
    by_contra hunknown
    have hmem : (none : Option Library) ∈ p.composed.map some := by
      rw [hcomposed, ← Registry.find?_eq_none.mpr hunknown]
      exact List.mem_map_of_mem hn
    simp at hmem
  · rintro ⟨hbits, hnames⟩
    exact (build_of_program h hbits hnames).imp fun _ => And.left

/-- Two programs that say the same but for the order of their libraries have the same rule for each
key, and the same is remarked on them. -/
theorem Realizes.alike {line : Option DescriptionLine} {bits : List Bool} {initial : Name}
    {finals : Name × List Name} {composed composed' : Option (Name × List Name)}
    {rules : List RulePhrase}
    (hp : p.Realizes registry source (.program line bits initial finals composed rules))
    (hq : q.Realizes registry other (.program line bits initial finals composed' rules))
    (hsame : ∀ n, n ∈ Sentence.libraryNames composed' ↔ n ∈ Sentence.libraryNames composed)
    (hapart : registry.Apart (Sentence.libraryNames composed)) : p.machine.Alike q.machine ∧
      ∀ message, message ∈ q.warnings.map Warning.message ↔
        message ∈ p.warnings.map Warning.message := by
  obtain ⟨-, -, hpc, hpm, hpw⟩ := hp
  obtain ⟨-, -, hqc, hqm, hqw⟩ := hq
  have hlibraries : ∀ L, L ∈ q.composed ↔ L ∈ p.composed := by
    intro L
    rw [mem_composed_iff hqc, mem_composed_iff hpc]
    simp only [hsame]
  have hcomposed : Library.Apart q.composed := by
    have hmem : ∀ L ∈ q.composed,
        L ∈ (Sentence.libraryNames composed).filterMap fun n => registry.find? n.1 := by
      intro L hL
      rw [List.mem_filterMap]
      exact (mem_composed_iff hpc L).mp ((hlibraries L).mp hL)
    intro L hL M hM
    exact hapart L (hmem L hL) M (hmem M hM)
  refine ⟨?_, fun message => ?_⟩
  · rw [hpm, hqm]
    refine .reordered (fun state symbol => ?_) rfl
    rw [Machine.load, Table.find?_ofRules, Table.find?_ofRules, Table.last?_append,
      Table.last?_append, Table.last?_flatMap_of_apart hcomposed hlibraries]
  · rw [hpw, hqw]
    simp only [List.mem_flatMap, hlibraries]

/-- Of libraries that do not clash it is of no consequence in which order and how often they are
composed. Two texts that differ in nothing else build or fail together. Their machines have the same
rule for each key and stay alike whatever is done with them, also where rules for any symbols are
added, so that they give the same answers; only a chart shows the order of the rules. What is
remarked on one is remarked on the other. No libraries of the catalog clash. -/
theorem build_recomposed (h : Recomposed names others source other)
    (hsame : ∀ n, n ∈ others ↔ n ∈ names)
    (hapart : registry.Apart names) :
    ((∃ p, build registry source = .ok p) ↔ ∃ q, build registry other = .ok q) ∧
      (∀ p q, build registry source = .ok p → build registry other = .ok q →
        (∀ state symbol,
          q.machine.table.find? state symbol = p.machine.table.find? state symbol) ∧
        (∀ cs, (p.machine.performAll cs).Alike (q.machine.performAll cs) ∧ ∀ c, c ≠ .chart →
          ((q.machine.performAll cs).perform c).1 = ((p.machine.performAll cs).perform c).1) ∧
        (∀ cs, ((p.machine.recast Int).performAll cs).Alike ((q.machine.recast Int).performAll cs) ∧
          ∀ c, c ≠ .chart → (((q.machine.recast Int).performAll cs).perform c).1 =
            (((p.machine.recast Int).performAll cs).perform c).1) ∧
        ∀ message,
          message ∈ q.warnings.map Warning.message ↔ message ∈ p.warnings.map Warning.message) ∧
      ∀ catalogued, Catalog.all.Apart catalogued := by
  refine ⟨?_, fun p q hp hq => ?_, Catalog.apart⟩
  · cases h with
    | programs hs ho hnames hothers =>
      subst hnames hothers
      rw [exists_build_iff hs, exists_build_iff ho]
      simp only [hsame]
    | unread hs ho =>
      constructor
      · rintro ⟨p, hp⟩
        obtain ⟨_, _, _, _, _, _, hlays, -⟩ := realizes_of_build hp
        exact (hs ⟨_, hlays⟩).elim
      · rintro ⟨q, hq⟩
        obtain ⟨_, _, _, _, _, _, hlays, -⟩ := realizes_of_build hq
        exact (ho ⟨_, hlays⟩).elim
  · obtain ⟨_, _, _, _, _, _, hps, hpreal, -⟩ := realizes_of_build hp
    obtain ⟨_, _, _, _, _, _, hqs, hqreal, -⟩ := realizes_of_build hq
    cases h with
    | programs hs ho hnames hothers =>
      subst hnames hothers
      cases Reading.laysOut_unique hs hps
      cases Reading.laysOut_unique ho hqs
      obtain ⟨halike, hmessages⟩ := hpreal.alike hqreal hsame hapart
      refine ⟨fun state symbol => ?_, fun cs => ?_, fun cs => ?_, hmessages⟩
      · exact halike.find? state symbol
      · have hleft := halike.performAll cs
        exact ⟨hleft, fun c => (hleft.perform c).2⟩
      · have hleft := (halike.recast (σ := Int)).performAll cs
        exact ⟨hleft, fun c => (hleft.perform c).2⟩
    | unread hs _ => exact (hs ⟨_, hps⟩).elim

/-- Of `inc, dec, inc` one may as well compose `dec, inc`. -/
theorem build_recomposed_overruling : ∃ o r names, ∃ dec inc : Name, dec.1 = "dec" ∧ inc.1 = "inc" ∧
    Reading.program.parse overruling = .ok o ∧ r ∈ o.records ∧
    r.names.map Token.text = ["inc", "dec", "inc"] ∧ ∃ other, other = r.span.replaceIn overruling
        ((Phrase.compose dec [inc]).lexemes.flatMap Lexeme.spaced) ∧
      Recomposed names [dec, inc] overruling other ∧ (∀ n, n ∈ [dec, inc] ↔ n ∈ names) ∧
      Catalog.all.Apart names ∧ ∃ p q, build Catalog.all overruling = .ok p ∧
        build Catalog.all other = .ok q ∧ p.machine.Alike q.machine := by
  obtain ⟨dec, hdec⟩ : ∃ n : Name, n.1 = "dec" := ⟨⟨"dec", by decide⟩, rfl⟩
  obtain ⟨inc, hinc⟩ : ∃ n : Name, n.1 = "inc" := ⟨⟨"inc", by decide⟩, rfl⟩
  have hcompose : ((Reading.program.parse overruling).map fun o => o.records.any fun r =>
      r.kind == .compose && r.names.map Token.text == ["inc", "dec", "inc"]) = .ok true := by
    decide +kernel
  have hbuild : (build Catalog.all overruling).map (·.machine.initial) =
      .ok "q" := by decide +kernel
  obtain ⟨o, ho, hany⟩ := exists_of_map_eq_ok hcompose
  obtain ⟨p, hp, -⟩ := exists_of_map_eq_ok hbuild
  obtain ⟨r, hr, hkind⟩ := List.any_eq_true.mp hany
  rw [Bool.and_eq_true, beq_iff_eq, beq_iff_eq] at hkind
  obtain ⟨hkind, htexts⟩ := hkind
  obtain ⟨_, _, _, _, composed, _, hs, -⟩ := realizes_of_build hp
  have hrecomposed := Outline.recomposed hs ho hr hkind
    (Lexeme.lays_spaced (Phrase.compose dec [inc]).lexemes)
  have hnames := (Outline.replace_between hs ho hr hkind).1
  have hsame : ∀ n, n ∈ [dec, inc] ↔ n ∈ Sentence.libraryNames composed := by
    intro n
    have hmem : ∀ ns : List Name, n ∈ ns ↔ n.1 ∈ ns.map Subtype.val :=
      fun ns => (List.mem_map_of_injective Subtype.val_injective).symm
    rw [hmem, hmem (Sentence.libraryNames composed), ← hnames, htexts]
    simp only [hdec, hinc, List.map_cons, List.map_nil, List.mem_cons, List.not_mem_nil, or_false]
    tauto
  have hall := build_recomposed hrecomposed hsame (Catalog.apart _)
  obtain ⟨q, hq⟩ := hall.1.mp ⟨p, hp⟩
  exact ⟨o, r, _, dec, inc, hdec, hinc, ho, hr, htexts, _, rfl, hrecomposed, hsame, Catalog.apart _,
    p, q, hp, hq, ((hall.2.1 p q hp hq).2.1 []).1⟩

end Program

end TapeMachine
