import Mathlib.Data.List.Induction
import TapeMachine.Proofs.BuildOutcome

/-! Which rule a built program has for each key: the last one that is stated, in the place of the
first. -/
namespace TapeMachine

/-- Items that stand in the order in which they are first stated do so after one more is stated. -/
theorem pairwise_idxOf_concat {α : Type} [BEq α] [LawfulBEq α] {items stated : List α}
    (hmem : ∀ k, k ∈ items ↔ k ∈ stated)
    (h : items.Pairwise fun k l => stated.idxOf k < stated.idxOf l) (x : α) :
    (if x ∈ items then items else items ++ [x]).Pairwise fun k l =>
      (stated ++ [x]).idxOf k < (stated ++ [x]).idxOf l := by
  have hold : ∀ k ∈ items, (stated ++ [x]).idxOf k = stated.idxOf k := by
    intro k hk
    rw [List.idxOf_append_of_mem ((hmem k).mp hk)]
  have hkept : items.Pairwise fun k l => (stated ++ [x]).idxOf k < (stated ++ [x]).idxOf l := by
    refine h.imp_of_mem fun hk hl hlt => ?_
    rwa [hold _ hk, hold _ hl]
  split
  · exact hkept
  · next hx =>
    refine List.pairwise_append.mpr ⟨hkept, List.pairwise_singleton _ _, fun k hk l hl => ?_⟩
    obtain rfl := List.mem_singleton.mp hl
    have hlt := List.idxOf_lt_length_of_mem ((hmem k).mp hk)
    rw [hold k hk, List.idxOf_append_of_notMem fun hm => hx ((hmem l).mpr hm)]
    omega

namespace Table

variable {state : String} {symbol : Bool} {r : Rule Bool} {rules : List (Rule Bool)}

/-- A table settles what some rules state one after the other. -/
structure Resolves (t : Table) (rules : List (Rule Bool)) : Prop where
  /-- The rule for a key is the last one that is stated for it. -/
  last : ∀ state symbol r, t.find? state symbol = some r ↔ r.key = (state, symbol) ∧
    ∃ before after, rules = before ++ r :: after ∧ ∀ x ∈ after, x.key ≠ r.key
  /-- There is a rule for each key that is stated, and for no other. -/
  keys : ∀ key, key ∈ t.map Rule.key ↔ key ∈ rules.map Rule.key
  /-- The keys stand in the order in which they are first stated, each of them once. -/
  order : (t.map Rule.key).Pairwise fun k l =>
    (rules.map Rule.key).idxOf k < (rules.map Rule.key).idxOf l

theorem last?_eq_some_iff : last? state symbol rules = some r ↔ r.key = (state, symbol) ∧
    ∃ before after, rules = before ++ r :: after ∧ ∀ x ∈ after, x.key ≠ r.key := by
  induction rules with
  | nil => simp [last?]
  | cons x xs ih =>
    rw [last?, Option.or_eq_some_iff, ih, last?_eq_none_iff, Option.ite_none_right_eq_some,
      Option.some.injEq]
    constructor
    · rintro (⟨hkey, before, after, rfl, hafter⟩ | ⟨hnone, hkey, rfl⟩)
      · exact ⟨hkey, x :: before, after, rfl, hafter⟩
      · exact ⟨hkey, [], xs, rfl, fun y hy => hkey ▸ hnone y hy⟩
    · rintro ⟨hkey, before, after, hsplit, hafter⟩
      cases before with
      | nil =>
        obtain ⟨rfl, rfl⟩ := List.cons.inj hsplit
        exact .inr ⟨fun y hy => hkey ▸ hafter y hy, hkey, rfl⟩
      | cons b before =>
        obtain ⟨rfl, rfl⟩ := List.cons.inj hsplit
        exact .inl ⟨hkey, before, after, rfl, hafter⟩

theorem mem_keys_insert {key : String × Bool} {t : Table} :
    key ∈ (insert r t).map Rule.key ↔ key ∈ t.map Rule.key ∨ key = r.key := by
  rw [keys_insert]
  split
  · next hr =>
    refine ⟨.inl, ?_⟩
    rintro (hkey | rfl)
    · exact hkey
    · exact hr
  · rw [List.mem_append, List.mem_singleton]

theorem ofRules_concat (rules : List (Rule Bool)) (r : Rule Bool) :
    ofRules (rules ++ [r]) = insert r (ofRules rules) := ofRules_append rules [r]

theorem mem_keys_ofRules {key : String × Bool} :
    key ∈ (ofRules rules).map Rule.key ↔ key ∈ rules.map Rule.key := by
  induction rules using List.reverseRecOn with
  | nil => rfl
  | append_singleton rules r ih =>
    rw [ofRules_concat, mem_keys_insert, ih, List.map_append, List.mem_append, List.map_singleton,
      List.mem_singleton]

/-- A rule with a new key comes after all others, and one with an old key leaves them in their
places. -/
theorem order_ofRules (rules : List (Rule Bool)) :
    ((ofRules rules).map Rule.key).Pairwise fun k l =>
      (rules.map Rule.key).idxOf k < (rules.map Rule.key).idxOf l := by
  induction rules using List.reverseRecOn with
  | nil => exact .nil
  | append_singleton rules r ih =>
    rw [ofRules_concat, keys_insert, List.map_append, List.map_singleton]
    exact pairwise_idxOf_concat (fun _ => mem_keys_ofRules) ih r.key

theorem resolves_ofRules (rules : List (Rule Bool)) : (ofRules rules).Resolves rules where
  last state symbol r := by rw [find?_ofRules, last?_eq_some_iff]
  keys _ := mem_keys_ofRules
  order := order_ofRules rules

end Table

/-- The rules that a program states: those of the libraries it composes, in order and as often as it
names them, and after them its own. -/
def Sentence.stated (registry : Registry) : Sentence .program → List (Rule Bool)
  | .program _ _ _ _ composed rules =>
    (libraryNames composed).flatMap (fun n => (registry.find? n.1).elim [] Library.rules) ++
      rules.map RulePhrase.rule

namespace Program

variable {registry : Registry} {source : String} {p : Program}

theorem rules_of_composed {names : List Name} {ls : List Library}
    (h : ls.map some = names.map fun n => registry.find? n.1) :
    ls.flatMap Library.rules =
      names.flatMap fun n => (registry.find? n.1).elim [] Library.rules := by
  have hflat := congrArg (List.flatMap fun o => Option.elim o [] Library.rules) h
  rwa [List.flatMap_map, List.flatMap_map] at hflat

theorem Realizes.table {s : Sentence .program} (h : p.Realizes registry source s) :
    p.machine.table = Table.ofRules (s.stated registry) ∧ p.machine.strays = [] := by
  cases s with
  | program line bits initial finals composed rules =>
    obtain ⟨-, -, hcomposed, hmachine, -⟩ := h
    rw [hmachine, rules_of_composed hcomposed]
    exact ⟨rfl, rfl⟩

/-- In a built program the last rule that is stated for a key counts, be it of a library or of the
program itself, and it stands where the first one for the key was stated. -/
theorem table_resolves (h : build registry source = .ok p) :
    ∃ s : Sentence .program, Reading.LaysOut s source ∧
      p.machine.table.Resolves (s.stated registry) ∧
      p.machine.rules = p.machine.table.map (Rule.map bitValue) := by
  obtain ⟨_, _, _, _, _, _, hs, hreal, -⟩ := realizes_of_build h
  obtain ⟨htable, hstrays⟩ := hreal.table
  refine ⟨_, hs, ?_, ?_⟩
  · rw [htable]
    exact Table.resolves_ofRules _
  · rw [Machine.rules, hstrays, Stray.weave_nil, Symbol.value_bool]

/-- A program with rules for keys of the library that it composes twice, and two rules for one
key. -/
def overruling : String :=
  "\x7b1\x7d; I = \x7bq\x7d; F = \x7bincf\x7d; compose = \x7binc, dec, inc\x7d;\n" ++
    "(q, 1, 1, R, q); (inc1, 0, 0, L, q); (q, 1, 1, H, inc0);\n"

theorem table_resolves_overruling : ∃ p, build Catalog.all overruling = .ok p ∧
    ∃ s : Sentence .program, Reading.LaysOut s overruling ∧
      p.machine.table.Resolves (s.stated Catalog.all) := by
  have h : (build Catalog.all overruling).isOk = true := by decide +kernel
  cases hp : build Catalog.all overruling with
  | error e =>
    rw [hp] at h
    cases h
  | ok p =>
    obtain ⟨s, hs, hresolves, -⟩ := table_resolves hp
    exact ⟨p, rfl, s, hs, hresolves⟩

end Program

end TapeMachine
