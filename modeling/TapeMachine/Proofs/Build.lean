import TapeMachine.Program
import TapeMachine.Proofs.Source.Parsing

/-! What a build leaves: the rules of the composed libraries, and after them those of the
program. -/
namespace TapeMachine

namespace Table

variable {σ : Type} [DecidableEq σ] {state : String} {symbol : σ} {t : Table σ}
  {rules more : List (Rule σ)}

/-- The last of some rules for a state and a symbol. -/
def last? (state : String) (symbol : σ) : List (Rule σ) → Option (Rule σ)
  | [] => none
  | r :: rs => (last? state symbol rs).or (if r.key = (state, symbol) then some r else none)

theorem last?_append (rules more : List (Rule σ)) :
    last? state symbol (rules ++ more) =
      (last? state symbol more).or (last? state symbol rules) := by
  induction rules with
  | nil => simp [last?]
  | cons r rs ih => rw [List.cons_append, last?, ih, last?, Option.or_assoc]

theorem last?_eq_none_iff : last? state symbol rules = none ↔
    ∀ r ∈ rules, r.key ≠ (state, symbol) := by
  induction rules with
  | nil => simp [last?]
  | cons r rs ih => simp [last?, ih, and_comm]

theorem last?_eq_none (h : ∀ r ∈ rules, r.source ≠ state) : last? state symbol rules = none :=
  last?_eq_none_iff.mpr fun r hr hk => h r hr (congrArg Prod.fst hk)

theorem insertAll_append (rules more : List (Rule σ)) (t : Table σ) :
    insertAll (rules ++ more) t = insertAll more (insertAll rules t) := List.foldl_append

theorem ofRules_append (rules more : List (Rule σ)) :
    ofRules (rules ++ more) = insertAll more (ofRules rules) := insertAll_append rules more []

theorem find?_insertAll (rules : List (Rule σ)) (t : Table σ) :
    find? state symbol (insertAll rules t) =
      (last? state symbol rules).or (find? state symbol t) := by
  induction rules generalizing t with
  | nil => rfl
  | cons r rs ih =>
    have hcons : insertAll (r :: rs) t = insertAll rs (insert r t) := rfl
    rw [hcons, ih, find?_insert, last?, Option.or_assoc]
    congr 1
    split <;> rfl

theorem find?_ofRules (rules : List (Rule σ)) :
    find? state symbol (ofRules rules) = last? state symbol rules := by
  rw [ofRules, find?_insertAll, find?, Option.or_none]

/-- The keys of a table are distinct. -/
def Distinct (t : Table σ) : Prop := (t.map Rule.key).Nodup

theorem distinct_insert (r : Rule σ) (h : t.Distinct) : (insert r t).Distinct := by
  unfold Distinct
  rw [keys_insert]
  split
  · exact h
  · next hr => exact List.nodup_append.mpr ⟨h, by simp, by simpa using hr⟩

theorem distinct_insertAll (rules : List (Rule σ)) (h : t.Distinct) :
    (insertAll rules t).Distinct := by
  induction rules generalizing t with
  | nil => exact h
  | cons r rs ih => exact ih (distinct_insert r h)

theorem distinct_ofRules (rules : List (Rule σ)) : (ofRules rules).Distinct :=
  distinct_insertAll rules List.nodup_nil

theorem insert_of_new {r : Rule σ} (h : r.key ∉ t.map Rule.key) : insert r t = t ++ [r] := by
  induction t with
  | nil => rfl
  | cons x xs ih =>
    rw [List.map_cons, List.mem_cons, not_or] at h
    rw [insert, if_neg (Ne.symm h.1), ih h.2, List.cons_append]

theorem insertAll_of_distinct (h : (t ++ rules).Distinct) : insertAll rules t = t ++ rules := by
  induction rules generalizing t with
  | nil => exact (List.append_nil t).symm
  | cons r rs ih =>
    have hr : r.key ∉ t.map Rule.key := by
      unfold Distinct at h
      rw [List.map_append, List.nodup_append] at h
      intro hm
      exact h.2.2 _ hm _ List.mem_cons_self rfl
    have hcons : insertAll (r :: rs) t = insertAll rs (insert r t) := rfl
    rw [hcons, insert_of_new hr, ih (by simpa using h), List.append_assoc, List.singleton_append]

/-- A table that is read rule by rule is the same table. -/
theorem ofRules_of_distinct (h : t.Distinct) : ofRules t = t := insertAll_of_distinct h

end Table

/-- What the token of a description says, if it says anything. -/
def described? (token : String) : Option String :=
  if (descriptionText token).isEmpty then none else some (descriptionText token)

namespace Draft

variable {source : String} {registry : Registry} {handled : List RecordKind} {d e : Draft}
  {r : Record} {rs : List Record}

/-- The table of a draft holds the rules of its libraries, and after them its own. -/
def Ruled (d : Draft) : Prop :=
  d.table = Table.ofRules (d.composed.flatMap Library.rules ++ d.own.map Prod.fst)

/-- What a record leaves of a draft when it takes effect. -/
def Takes (registry : Registry) (r : Record) (d e : Draft) : Prop :=
  match r.kind with
  | .description => e = { d with description := (described? r.first.text).or d.description }
  | .tape => true ∈ r.bits ∧ e = { d with tape := r.bits }
  | .initialState => ∃ name, r.names = [name] ∧ e = { d with initial := name.text }
  | .finalStates => e = { d with finals := r.names.map Token.text }
  | .compose => ∃ ls : List Library, r.names.map (fun t => registry.find? t.text) = ls.map some ∧
      e = { d with
        composed := d.composed ++ ls
        table := Table.insertAll (ls.flatMap Library.rules) d.table }
  | .rule => ∃ rule, r.rule? = some rule ∧ e = { d with
      table := d.table.insert rule
      own := d.own ++ [(rule, r.span)] }

theorem compose_eq_ok {ts : List Token} : (compose source registry d ts).2 = .ok e ↔
    ∃ ls : List Library, ts.map (fun t => registry.find? t.text) = ls.map some ∧ e = { d with
      composed := d.composed ++ ls
      table := Table.insertAll (ls.flatMap Library.rules) d.table } := by
  induction ts generalizing d with
  | nil =>
    constructor
    · intro h
      cases h
      exact ⟨[], rfl, by simp [Table.insertAll]⟩
    · rintro ⟨ls, hls, rfl⟩
      obtain rfl := List.map_eq_nil_iff.mp hls.symm
      simp [compose, Table.insertAll]
  | cons t ts ih =>
    unfold compose
    split
    · next hnone =>
      constructor
      · intro h
        cases h
      · rintro ⟨ls, hls, -⟩
        cases ls with
        | nil => cases hls
        | cons l ls =>
          rw [List.map_cons, List.map_cons, hnone] at hls
          cases (List.cons.inj hls).1
    · next l hl =>
      refine ih.trans ⟨?_, ?_⟩
      · rintro ⟨ls, hls, rfl⟩
        exact ⟨l :: ls, by rw [List.map_cons, hl, hls, List.map_cons],
          by simp [Table.insertAll_append]⟩
      · rintro ⟨ls, hls, rfl⟩
        cases ls with
        | nil => cases hls
        | cons k ls =>
          rw [List.map_cons, List.map_cons, hl] at hls
          obtain ⟨hk, htail⟩ := List.cons.inj hls
          cases hk
          exact ⟨ls, htail, by simp [Table.insertAll_append]⟩

theorem take_eq_ok : (take source registry d r).2 = .ok e ↔ Takes registry r d e := by
  have hok : ∀ d : Draft, (Except.ok d : Except Diagnostic Draft) = .ok e ↔ e = d := by
    intro d
    rw [Except.ok.injEq, eq_comm]
  unfold take Takes
  cases r.kind with
  | description =>
    simp only [described?]
    split
    · exact hok _
    · exact hok _
  | tape =>
    dsimp only
    split
    · next h => simpa [List.contains_iff_mem.mp h] using hok _
    · next h =>
      have hbits : true ∉ r.bits := fun hm => h (List.contains_iff_mem.mpr hm)
      simp [hbits]
  | initialState =>
    dsimp only
    split
    · next name h => simpa [h] using hok _
    · next h => simpa using fun name hname _ => h name hname
  | finalStates => exact hok _
  | compose => exact compose_eq_ok
  | rule =>
    dsimp only
    split
    · next rule h => simpa [h] using hok _
    · next h => simp [h]

/-- Only libraries and rules change what belongs to the table. -/
theorem rules_of_takes (h : Takes registry r d e) (hr : r.kind ≠ .rule) :
    e.own = d.own ∧ (r.kind ≠ .compose → e.composed = d.composed ∧ e.table = d.table) := by
  unfold Takes at h
  cases hk : r.kind with
  | description | finalStates =>
    simp only [hk] at h
    subst h
    exact ⟨rfl, fun _ => ⟨rfl, rfl⟩⟩
  | tape =>
    simp only [hk] at h
    obtain ⟨-, rfl⟩ := h
    exact ⟨rfl, fun _ => ⟨rfl, rfl⟩⟩
  | initialState =>
    simp only [hk] at h
    obtain ⟨_, -, rfl⟩ := h
    exact ⟨rfl, fun _ => ⟨rfl, rfl⟩⟩
  | compose =>
    simp only [hk] at h
    obtain ⟨ls, -, rfl⟩ := h
    exact ⟨rfl, fun hc => (hc rfl).elim⟩
  | rule => exact (hr hk).elim

theorem link_cons (h : (link source registry handled d (r :: rs)).2 = .ok e) :
    handled.contains r.kind ∧ ∃ next, Takes registry r d next ∧
      (link source registry handled next rs).2 = .ok e := by
  unfold link at h
  split at h
  · next hk =>
    split at h
    · cases h
    · next next ht => exact ⟨hk, next, take_eq_ok.mp (by rw [ht]), h⟩
  · cases h

theorem ruled_takes (h : Takes registry r d e) (hd : d.Ruled)
    (horder : r.kind = .compose → d.own = []) : e.Ruled := by
  unfold Ruled at hd ⊢
  by_cases hr : r.kind = .rule
  · simp only [Takes, hr] at h
    obtain ⟨rule, -, rfl⟩ := h
    rw [List.map_append, ← List.append_assoc, Table.ofRules_append, ← hd]
    rfl
  · by_cases hc : r.kind = .compose
    · simp only [Takes, hc] at h
      obtain ⟨ls, -, rfl⟩ := h
      simp [horder hc, hd, Table.ofRules_append]
    · obtain ⟨ho, hrest⟩ := rules_of_takes h hr
      obtain ⟨hcomposed, htable⟩ := hrest hc
      rw [hcomposed, htable, ho, hd]

/-- As long as no library is composed after a rule, the rules of the program come last. -/
theorem ruled_link (h : (link source registry handled d rs).2 = .ok e) (hd : d.Ruled)
    (hown : d.own = [] ∨ ∀ r ∈ rs, r.kind ≠ .compose)
    (hrs : rs.Pairwise fun r r' => r.kind = .rule → r'.kind ≠ .compose) : e.Ruled := by
  induction rs generalizing d with
  | nil =>
    cases h
    exact hd
  | cons r rs ih =>
    obtain ⟨-, next, ht, hl⟩ := link_cons h
    obtain ⟨hr, hrs⟩ := List.pairwise_cons.mp hrs
    have hnext : next.Ruled := by
      apply ruled_takes ht hd
      intro hk
      rcases hown with ho | ho
      · exact ho
      · exact (ho r List.mem_cons_self hk).elim
    refine ih hl hnext ?_ hrs
    by_cases hk : r.kind = .rule
    · exact .inr fun r' hr' => hr r' hr' hk
    · rw [(rules_of_takes ht hk).1]
      exact hown.imp_right fun ho r' hr' => ho r' (List.mem_cons_of_mem r hr')

end Draft

/-- In a program every library is composed before the first rule. -/
theorem records_ordered {source : String} {o : Outline} (h : Reading.program.parse source = .ok o) :
    o.records.Pairwise fun r r' => r.kind = .rule → r'.kind ≠ .compose := by
  obtain ⟨s, ts, -, rfl, hts⟩ := Reading.parse_cases h
  have hkinds : (Outline.ofTokens .program ts).records.map Record.kind =
      s.phrases.map Phrase.kind := by
    have hviews := congrArg (List.map Prod.fst) (Sentence.records_of_lexemes hts)
    rw [List.map_map, List.map_map] at hviews
    exact hviews
  suffices hs : (s.phrases.map Phrase.kind).Pairwise fun k k' => k = .rule → k' ≠ .compose by
    rw [← hkinds, List.pairwise_map] at hs
    exact hs
  cases s with
  | program line bits initial finals composed rules =>
    have hrules : ∀ k ∈ rules.map fun r => (Phrase.rule r).kind, k ≠ .compose := by
      simp [Phrase.kind]
    have hopening :
        (Sentence.program line bits initial finals composed rules).phrases.map Phrase.kind =
        (line.map fun _ => RecordKind.description).toList ++ [.tape, .initialState, .finalStates] ++
          (composed.map fun _ => RecordKind.compose).toList ++
          rules.map fun r => (Phrase.rule r).kind := by
      cases line <;> cases composed <;>
        simp [Sentence.phrases, Sentence.places, List.filterMap_map, Function.comp_def, Phrase.kind]
    rw [hopening, List.pairwise_append]
    refine ⟨?_, ?_, fun _ _ k hk _ => hrules k hk⟩
    · cases line <;> cases composed <;> simp
    · exact List.pairwise_of_forall_mem_list fun _ _ k hk _ => hrules k hk

namespace Program

variable {registry : Registry} {source : String} {p : Program}

theorem build_cases (h : build registry source = .ok p) : ∃ o d,
    Reading.program.parse source = .ok o ∧
      (Draft.link source registry RecordKind.all .empty o.records).2 = .ok d ∧
      p = d.toProgram source := by
  unfold build buildWith at h
  split at h
  · cases h
  · next o ho =>
    split at h
    · cases h
    · next d hd =>
      cases h
      exact ⟨o, d, ho, by rw [hd], rfl⟩

/-- The rules of a built program are those of its libraries, and after them its own. -/
theorem ruled_of_build (h : build registry source = .ok p) :
    ∃ d : Draft, d.Ruled ∧ p = d.toProgram source := by
  obtain ⟨o, d, ho, hd, rfl⟩ := build_cases h
  exact ⟨d, Draft.ruled_link hd rfl (.inl rfl) (records_ordered ho), rfl⟩

theorem table_of_ruled {d : Draft} (h : d.Ruled) : (d.toProgram source).machine.table =
    Table.ofRules (d.composed.flatMap Library.rules ++ d.own.map Prod.fst) := by
  have hdistinct : Table.Distinct d.table := by
    rw [h]
    exact Table.distinct_ofRules _
  calc (d.toProgram source).machine.table = Table.ofRules d.table := rfl
    _ = d.table := Table.ofRules_of_distinct hdistinct
    _ = _ := h

end Program

end TapeMachine
