import TapeMachine.Proofs.Build
import TapeMachine.Proofs.Commands

/-! Machines before their first step: as they were made, or reset. -/
namespace TapeMachine.Machine

variable {σ : Type} {m : Machine σ}

/-- Nothing has happened to a machine yet: it has its margins, and nothing is on record. -/
structure Untouched (m : Machine σ) : Prop where
  roomy : m.tape.Roomy
  steps : m.steps = 0
  visits : m.visits = []
  previous : m.previous = none

variable [Symbol σ]

theorem roomy_reset (m : Machine σ) : m.reset.tape.Roomy := Tape.roomy_padded _

theorem Untouched.recast {m : Machine} (h : m.Untouched) : (m.recast σ).Untouched :=
  ⟨h.roomy.map _, h.steps, h.visits, h.previous⟩

theorem recast_bool (m : Machine) : m.recast Bool = m := by
  simp [recast]

variable [DecidableEq σ]

/-- Machines as they come: loaded with cells and rules, or built from the text of a program. -/
inductive Made : Machine σ → Prop
  | loaded (cells : List σ) (initial : String) (finals : List String) (rules : List (Rule Int)) :
      Made ((load cells initial finals []).addRules rules)
  | built {registry : Registry} {source : String} {p : Program} :
      Program.build registry source = .ok p → Made (p.machine.recast σ)

theorem made_of_build {registry : Registry} {source : String} {p : Program}
    (h : Program.build registry source = .ok p) : p.machine.Made := by
  rw [← recast_bool p.machine]
  exact .built h

/-- A machine that has taken no step since it was made or reset. -/
inductive Fresh : Machine σ → Prop
  | made {m : Machine σ} : m.Made → Fresh m
  | reset (m : Machine σ) : Fresh m.reset

theorem roomy_load (cells : List σ) (initial : String) (finals : List String)
    (rules : List (Rule σ)) : (load cells initial finals rules).tape.Roomy := Tape.roomy_padded _

theorem untouched_load (cells : List σ) (initial : String) (finals : List String)
    (rules : List (Rule σ)) : (load cells initial finals rules).Untouched :=
  ⟨roomy_load _ _ _ _, rfl, rfl, rfl⟩

theorem Untouched.addRule (h : m.Untouched) (r : Rule Int) : (m.addRule r).Untouched := by
  unfold Machine.addRule
  split <;> exact ⟨h.roomy, h.steps, h.visits, h.previous⟩

theorem Untouched.addRules (h : m.Untouched) (rules : List (Rule Int)) :
    (m.addRules rules).Untouched := by
  induction rules generalizing m with
  | nil => exact h
  | cons r rules ih => exact ih (h.addRule r)

theorem untouched_of_made (h : m.Made) : m.Untouched := by
  cases h with
  | loaded cells initial finals rules =>
    exact (untouched_load cells initial finals []).addRules rules
  | built h =>
    obtain ⟨_, _, -, -, rfl⟩ := Program.build_cases h
    exact (untouched_load _ _ _ _).recast

theorem roomy_of_made (h : m.Made) : m.tape.Roomy := (untouched_of_made h).roomy

theorem Fresh.untouched (h : m.Fresh) : m.Untouched := by
  cases h with
  | made h => exact untouched_of_made h
  | reset m => exact ⟨roomy_reset m, rfl, rfl, rfl⟩

end TapeMachine.Machine
