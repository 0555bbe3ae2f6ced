import Mathlib.Data.Prod.Basic
import TapeMachine.Proofs.Counters

/-! A machine that is reset is as good as a new one, whatever has been done with it. -/
namespace TapeMachine

theorem Table.Distinct.recast {t : Table} (h : t.Distinct) :
    Table.Distinct (t.map (.map (Symbol.ofBit : Bool → Int))) := by
  have hkeys : (t.map (.map (Symbol.ofBit : Bool → Int))).map Rule.key =
      (t.map Rule.key).map (Prod.map id Symbol.ofBit) := by
    simp [Rule.key, Rule.map]
  have hbit : ∀ a b, (Symbol.ofBit a : Int) = Symbol.ofBit b → a = b := by decide
  rw [Table.Distinct, hkeys]
  exact h.map (Function.injective_id.prodMap hbit)

namespace Machine

variable {m k : Machine Int} {c : Command} {cs : List Command} {n : Nat}

/-- The machine that is made with some rules from the cells and the states another one was made
with. -/
def anew (m : Machine Int) (rules : List (Rule Int)) : Machine Int :=
  (load m.origin m.initial m.finals []).addRules rules

/-- Every number is a symbol, so all rules are in the table, each with a key of its own. -/
structure Orderly (m : Machine Int) : Prop where
  strays : m.strays = []
  distinct : m.table.Distinct

theorem Orderly.rules_eq (h : m.Orderly) : m.rules = m.table := by
  have hvalue : Rule.map (Symbol.value : Int → Int) = id := rfl
  rw [rules, h.strays, Stray.weave_nil, hvalue, List.map_id]

theorem Orderly.addRule (h : m.Orderly) (r : Rule Int) : (m.addRule r).Orderly :=
  ⟨h.strays, Table.distinct_insert r h.distinct⟩

theorem addRules_eq (m : Machine Int) (rules : List (Rule Int)) :
    m.addRules rules = { m with table := m.table.insertAll rules } := by
  induction rules generalizing m with
  | nil => rfl
  | cons r rules ih => exact ih (m.addRule r)

theorem orderly_of_made (h : m.Made) : m.Orderly := by
  cases h with
  | loaded cells initial finals rules =>
    rw [addRules_eq]
    exact ⟨rfl, Table.distinct_ofRules rules⟩
  | built h =>
    obtain ⟨_, _, -, -, rfl⟩ := Program.build_cases h
    exact ⟨rfl, (Table.distinct_ofRules _).recast⟩

/-- A machine has the cells it was loaded with, its first state and its final states from
another. -/
structure Descends (m k : Machine Int) : Prop where
  origin : k.origin = m.origin
  initial : k.initial = m.initial
  finals : k.finals = m.finals

theorem Descends.trans {l : Machine Int} (h : m.Descends k) (g : k.Descends l) : m.Descends l :=
  ⟨g.origin.trans h.origin, g.initial.trans h.initial, g.finals.trans h.finals⟩

/-- Steps leave the rules alone. -/
theorem Walk.descends (h : Walk m n k) :
    m.Descends k ∧ k.table = m.table ∧ k.strays = m.strays := by
  induction h with
  | refl => exact ⟨⟨rfl, rfl, rfl⟩, rfl, rfl⟩
  | step hs _ ih =>
    obtain ⟨_, r, -, -, rfl⟩ := step_cases hs
    obtain ⟨⟨horigin, hinitial, hfinals⟩, hrules⟩ := ih
    exact ⟨⟨horigin, hinitial, hfinals⟩, hrules⟩

/-- Whatever a command does, a machine stays what it was made as, and its rules stay in order. -/
theorem descends_perform (h : m.Orderly) (c : Command) :
    m.Descends (m.perform c).2 ∧ (m.perform c).2.Orderly := by
  by_cases hc : Sets c
  · cases c with
    | reset | resetVisits | setHead | setState => exact ⟨⟨rfl, rfl, rfl⟩, h.strays, h.distinct⟩
    | addRule r => exact ⟨⟨rfl, rfl, rfl⟩, h.addRule r⟩
    | _ => exact hc.elim
  · obtain ⟨_, hw⟩ := walk_of_perform hc m
    obtain ⟨hdescends, htable, hstrays⟩ := hw.descends
    exact ⟨hdescends, by rw [hstrays, h.strays], by rw [htable]; exact h.distinct⟩

theorem descends_performAll (h : m.Orderly) (cs : List Command) :
    m.Descends (m.performAll cs) ∧ (m.performAll cs).Orderly := by
  refine performAll_keeps (P := fun k => m.Descends k ∧ k.Orderly) (Q := fun _ => True) ?_
    ⟨⟨rfl, rfl, rfl⟩, h⟩ fun _ _ => trivial
  rintro k c ⟨hsofar, horderly⟩ -
  obtain ⟨hnext, hlast⟩ := descends_perform horderly c
  exact ⟨hsofar.trans hnext, hlast⟩

theorem Descends.anew_eq (h : m.Descends k) (rules : List (Rule Int)) :
    k.anew rules = m.anew rules := by
  rw [anew, anew, h.origin, h.initial, h.finals]

/-- Rules that are stated in the order of a table make that table again. -/
theorem reset_eq_anew (h : m.Orderly) : m.reset = m.anew m.rules := by
  have htable : Table.ofRules m.table = m.table := Table.ofRules_of_distinct h.distinct
  have hanew : m.anew m.table = { m.reset with table := Table.ofRules m.table, strays := [] } :=
    addRules_eq _ _
  rw [h.rules_eq, hanew, htable, ← h.strays]
  rfl

/-- Reset undoes any session. Whatever was done with a machine, and whatever failed, it leaves the
machine that is made anew from the same cells, first state and final states with the rules that
there are by then, and from there on every command is answered as that machine answers it. -/
theorem reset_renews {m : Machine Int} (h : m.Made) (cs : List Command) :
    (m.performAll cs).perform .reset = (.ok .done, m.anew (m.performAll cs).rules) ∧
      ∀ ds c, (m.performAll (cs ++ .reset :: ds)).perform c =
        ((m.anew (m.performAll cs).rules).performAll ds).perform c := by
  obtain ⟨hdescends, horderly⟩ := descends_performAll (orderly_of_made h) cs
  have hreset : (m.performAll cs).reset = m.anew (m.performAll cs).rules := by
    rw [reset_eq_anew horderly, hdescends.anew_eq]
  refine ⟨congrArg (Prod.mk (Except.ok Answer.done)) hreset, ?_⟩
  intro ds c
  have hsplit : m.performAll (cs ++ .reset :: ds) = ((m.performAll cs).reset).performAll ds :=
    List.foldl_append
  rw [hsplit, hreset]

/-- A rule that writes a third symbol and one that reads it, a head set where no step can be taken,
and a rule in the place of another. -/
def meddling : List Command :=
  [.addRule ⟨"q1", 0, 7, .left, "q0"⟩, .run 3 none, .addRule ⟨"q1", 7, 0, .halt, "q9"⟩,
    .setHead 99, .step, .addRule ⟨"q0", 1, 0, .left, "q0"⟩, .setState "q7"]

theorem reset_renews_meddling : (pingPong Int).Made ∧
    (((pingPong Int).performAll (meddling.take 2)).perform .symbol).1 = .ok (.cell 7) ∧
    ((pingPong Int).performAll meddling).perform .reset =
      (.ok .done, (pingPong Int).anew [⟨"q0", 1, 0, .left, "q0"⟩, ⟨"q1", 0, 7, .left, "q0"⟩,
        ⟨"q1", 7, 0, .halt, "q9"⟩]) := by
  have hmade : (pingPong Int).Made := .loaded _ _ _ _
  have hrules : ((pingPong Int).performAll meddling).rules = [⟨"q0", 1, 0, .left, "q0"⟩,
      ⟨"q1", 0, 7, .left, "q0"⟩, ⟨"q1", 7, 0, .halt, "q9"⟩] := by decide
  have hreset := (reset_renews hmade meddling).1
  rw [hrules] at hreset
  exact ⟨hmade, by decide, hreset⟩

end Machine

end TapeMachine
