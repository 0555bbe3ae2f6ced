import TapeMachine.Proofs.Build
import TapeMachine.Proofs.Commands

/-! A composed library runs as it does alone, when the build has nothing to remark. -/
namespace TapeMachine

namespace Library

/-- The rules of a library start and end in states that it declares, and so does its first state. -/
structure Closed (L : Library) : Prop where
  initial : L.initial ∈ L.used
  sources : ∀ r ∈ L.rules, r.source ∈ L.used
  targets : ∀ r ∈ L.rules, r.target ∈ L.used

/-- The machine that has the rules of a library and no others. -/
def machine (L : Library) (finals : List String) (t : Tape) : Machine :=
  { Machine.load [] L.initial finals L.rules with tape := t }

end Library

namespace Table

variable {state : String} {symbol : Bool} {r : Rule Bool} {rules : List (Rule Bool)}
  {L : Library} {Ls : List Library}

theorem mem_of_last? (h : last? state symbol rules = some r) : r ∈ rules := by
  induction rules with
  | nil => cases h
  | cons x xs ih =>
    rw [last?, Option.or_eq_some_iff] at h
    rcases h with h | ⟨-, h⟩
    · exact List.mem_cons_of_mem x (ih h)
    · split at h
      · cases h
        exact List.mem_cons_self
      · cases h

/-- When no other library has rules for a state, composing a library several times is as good as
composing it once. -/
theorem last?_flatMap (h : ∀ M ∈ Ls, M ≠ L → last? state symbol M.rules = none) :
    last? state symbol (Ls.flatMap Library.rules) =
      if L ∈ Ls then last? state symbol L.rules else none := by
  induction Ls with
  | nil => rfl
  | cons M Ls ih =>
    obtain ⟨hM, hLs⟩ := List.forall_mem_cons.mp h
    rw [List.flatMap_cons, last?_append, ih hLs]
    by_cases hML : M = L
    · subst hML
      by_cases hmem : M ∈ Ls
      · simp [hmem]
      · simp [hmem]
    · rw [hM hML, Option.or_none]
      simp [Ne.symm hML]

end Table

namespace Draft

variable {d : Draft} {L : Library}

/-- A build without remarks has no rule of its own that starts inside a library. -/
theorem source_of_silent (h : d.collisions = []) (hL : L ∈ d.composed) {r : Rule Bool}
    (hr : r ∈ d.own.map Prod.fst) (hs : r.source ∈ L.used) : r.source = L.final := by
  obtain ⟨⟨r, span⟩, hown, rfl⟩ := List.mem_map.mp hr
  rw [collisions, List.flatMap_eq_nil_iff] at h
  have hnone := List.filterMap_eq_nil_iff.mp (h L hL) _ hown
  rw [Option.map_eq_none_iff, collision?] at hnone
  by_contra hf
  simp [hs, hf] at hnone

/-- Inside a library, up to its final state, the rules that were linked are those of the library. -/
theorem find?_of_silent (hd : d.Ruled) (hsilent : d.collisions = [])
    (hclosed : ∀ M ∈ d.composed, M.Closed)
    (hapart : ∀ L ∈ d.composed, ∀ M ∈ d.composed, L ≠ M → L.used.Disjoint M.used)
    (hL : L ∈ d.composed) {state : String} (hs : state ∈ L.used) (hf : state ≠ L.final)
    (symbol : Bool) :
    d.table.find? state symbol = (Table.ofRules L.rules).find? state symbol := by
  have hown : Table.last? state symbol (d.own.map Prod.fst) = none := by
    apply Table.last?_eq_none
    rintro r hr rfl
    exact hf (source_of_silent hsilent hL hr hs)
  have hothers : ∀ M ∈ d.composed, M ≠ L → Table.last? state symbol M.rules = none := by
    intro M hM hne
    apply Table.last?_eq_none
    rintro r hr rfl
    exact hapart M hM L hL hne ((hclosed M hM).sources r hr) hs
  rw [hd, Table.find?_ofRules, Table.last?_append, hown, Option.none_or,
    Table.last?_flatMap hothers, if_pos hL, Table.find?_ofRules]

end Draft

namespace Machine

variable {L : Library} {alone linked : Machine}

/-- A rule of the table applies; a final state that only rests has none. -/
def HasRule (m : Machine) : Prop :=
  (m.tape.symbol?.any fun b => (m.table.find? m.current b).isSome) = true

instance (m : Machine) : Decidable m.HasRule := inferInstanceAs (Decidable (_ = true))

theorem HasRule.exists_rule {m : Machine} (h : m.HasRule) :
    ∃ b r, m.tape.symbol? = some b ∧ m.table.find? m.current b = some r := by
  obtain ⟨b, hb, hr⟩ := (Option.any_eq_true _ _).mp h
  obtain ⟨r, hr⟩ := Option.isSome_iff_exists.mp hr
  exact ⟨b, r, hb, hr⟩

/-- Two machines are at the same place of a library, where both have its rules. -/
structure InStep (L : Library) (alone linked : Machine) : Prop where
  own : alone.table = Table.ofRules L.rules
  shared : ∀ state ∈ L.used, state ≠ L.final →
    ∀ symbol, linked.table.find? state symbol = alone.table.find? state symbol
  tape : linked.tape = alone.tape
  current : linked.current = alone.current
  used : alone.current ∈ L.used

/-- Before the final state of the library both machines apply the same rule of it. -/
theorem InStep.step (h : InStep L alone linked) (hL : L.Closed) (hf : alone.current ≠ L.final)
    (hr : alone.HasRule) : linked.currentRule = alone.currentRule ∧
      InStep L (alone.perform .step).2 (linked.perform .step).2 ∧
      (linked.perform .step).2.steps = linked.steps + 1 := by
  obtain ⟨b, r, hb, hfind⟩ := hr.exists_rule
  have hlb : linked.tape.symbol? = some b := h.tape ▸ hb
  have hlfind : linked.table.find? linked.current b = some r := by
    rw [h.current, h.shared _ h.used hf, hfind]
  have ha : alone.ruleFor alone.current b = some r := by rw [ruleFor, hfind]
  have hl : linked.ruleFor linked.current b = some r := by rw [ruleFor, hlfind]
  have hmem : r ∈ L.rules := by
    rw [h.own, Table.find?_ofRules] at hfind
    exact Table.mem_of_last? hfind
  rw [currentRule_eq hlb, currentRule_eq hb, perform_step hlb hl, perform_step hb ha, ha, hl]
  refine ⟨rfl, ⟨h.own, h.shared, ?_, rfl, hL.targets r hmem⟩, rfl⟩
  change ((linked.tape.write r.write).shift r.move).padded =
    ((alone.tape.write r.write).shift r.move).padded
  rw [h.tape]

theorem InStep.after (h : InStep L alone linked) (hL : L.Closed) {n : Nat}
    (hrun : ∀ k < n, (alone.after k).current ≠ L.final ∧ (alone.after k).HasRule) :
    InStep L (alone.after n) (linked.after n) ∧ (linked.after n).steps = linked.steps + n := by
  induction n with
  | zero => exact ⟨h, rfl⟩
  | succ n ih =>
    obtain ⟨hn, hsteps⟩ := ih fun k hk => hrun k (Nat.lt_succ_of_lt hk)
    obtain ⟨hf, hr⟩ := hrun n (Nat.lt_succ_self n)
    obtain ⟨-, hnext, hcount⟩ := hn.step hL hf hr
    rw [after_succ, after_succ]
    refine ⟨hnext, ?_⟩
    rw [hcount, hsteps]
    omega

end Machine

namespace Program

variable {registry : Registry} {source : String} {p : Program} {L : Library}

/-- A build without remarks links soundly. Wherever the linked machine is in the first state of a
composed library, it goes through the configurations of the machine that has the rules of the
library only, with the same rule at each step, until that one comes to the final state of the
library or to where the library has no rule. -/
theorem library_runs_as_alone (h : build registry source = .ok p) (hsilent : p.warnings = [])
    (hclosed : ∀ M ∈ p.composed, M.Closed)
    (hapart : ∀ L ∈ p.composed, ∀ M ∈ p.composed, L ≠ M → L.used.Disjoint M.used)
    (hL : L ∈ p.composed) (linked : Machine) (htable : linked.table = p.machine.table)
    (hcurrent : linked.current = L.initial) (finals : List String) (n : Nat)
    (hrun : ∀ k < n, ((L.machine finals linked.tape).after k).current ≠ L.final ∧
      ((L.machine finals linked.tape).after k).HasRule) :
    (linked.after n).tape = ((L.machine finals linked.tape).after n).tape ∧
      (linked.after n).current = ((L.machine finals linked.tape).after n).current ∧
      (linked.after n).steps = linked.steps + n ∧
      ∀ k < n,
      (linked.after k).currentRule = ((L.machine finals linked.tape).after k).currentRule := by
  obtain ⟨d, hd, rfl⟩ := ruled_of_build h
  have hstart : Machine.InStep L (L.machine finals linked.tape) linked := by
    refine ⟨rfl, ?_, rfl, hcurrent, (hclosed L hL).initial⟩
    intro state hs hf symbol
    rw [htable, table_of_ruled hd, ← hd]
    exact Draft.find?_of_silent hd hsilent hclosed hapart hL hs hf symbol
  obtain ⟨hn, hsteps⟩ := hstart.after (hclosed L hL) hrun
  refine ⟨hn.tape, hn.current, hsteps, ?_⟩
  intro k hk
  obtain ⟨hk', -⟩ := hstart.after (hclosed L hL) fun i hi => hrun i (Nat.lt_trans hi hk)
  obtain ⟨hf, hr⟩ := hrun k hk
  exact (hk'.step (hclosed L hL) hf hr).1

/-- A program that adds one and takes it away again. -/
def thereAndBack : String :=
  "\x7b1\x7d; I = \x7bq\x7d; F = \x7bdecf\x7d; compose = \x7binc, dec\x7d;\n" ++
    "(q, 1, 1, H, inc0); (incf, 1, 1, H, dec0);\n"

theorem build_thereAndBack : ∃ p, build Catalog.all thereAndBack = .ok p ∧ p.warnings = [] ∧
    p.composed = [Catalog.inc, Catalog.dec] := by
  have h : (match build Catalog.all thereAndBack with
    | .ok p => p.warnings == [] && p.composed == [Catalog.inc, Catalog.dec]
    | .error _ => false) = true := by decide +kernel
  split at h
  · next p hp => exact ⟨p, hp, by simpa using h⟩
  · cases h

/-- On a one between two blanks `inc` takes two steps. -/
theorem library_runs_as_alone_inc : ∃ p, build Catalog.all thereAndBack = .ok p ∧
    p.warnings = [] ∧
    (({ p.machine with tape := .within [] true [], current := "inc0" } : Machine).after 2).tape =
      ((Catalog.inc.machine [] (.within [] true [])).after 2).tape := by
  obtain ⟨p, hp, hw, hc⟩ := build_thereAndBack
  have hclosed : ∀ M ∈ p.composed, M.Closed := by
    rw [hc]
    simp only [List.forall_mem_cons]
    exact ⟨⟨by decide, by decide, by decide⟩, ⟨by decide, by decide, by decide⟩, by simp⟩
  have hapart : ∀ L ∈ p.composed, ∀ M ∈ p.composed, L ≠ M → L.used.Disjoint M.used := by
    rw [hc]
    unfold List.Disjoint
    decide
  have hL : Catalog.inc ∈ p.composed := by
    rw [hc]
    exact List.mem_cons_self
  have hrun : ∀ k < 2, ((Catalog.inc.machine [] (.within [] true [])).after k).current ≠ "incf" ∧
      ((Catalog.inc.machine [] (.within [] true [])).after k).HasRule := by decide
  refine ⟨p, hp, hw, ?_⟩
  exact (library_runs_as_alone hp hw hclosed hapart hL
    { p.machine with tape := .within [] true [], current := "inc0" } rfl rfl [] 2 hrun).1

end Program

end TapeMachine
