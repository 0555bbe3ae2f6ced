import TapeMachine.Proofs.TapeView
import TapeMachine.Run

/-! What one step does, and walks of several steps. -/
namespace TapeMachine.Machine

variable {σ : Type} {m k : Machine σ} {b : σ} {n : Nat}

/-- There is a cell to read where the head is. -/
def Readable (m : Machine σ) : Prop := ∃ b, m.tape.symbol? = some b

theorem symbol?_of_not_readable (h : ¬ m.Readable) : m.tape.symbol? = none := by
  cases hs : m.tape.symbol? with
  | none => rfl
  | some b => exact (h ⟨b, hs⟩).elim

theorem not_readable_of_past (h : (m.tape.cells.length : Int) ≤ m.tape.head) : ¬ m.Readable := by
  rintro ⟨b, hb⟩
  rw [Tape.symbol?_of_past h] at hb
  cases hb

theorem currentRule_eq [DecidableEq σ] (h : m.tape.symbol? = some b) :
    m.currentRule = .ok (m.ruleFor m.current b) := by
  simp [currentRule, symbol, h, Except.map]

theorem currentRule_of_not_readable [DecidableEq σ] (h : ¬ m.Readable) :
    m.currentRule = .error .offTape := by
  simp [currentRule, symbol, symbol?_of_not_readable h, Except.map]

variable [Symbol σ]

theorem readable_of_inside (h : m.tape.Inside) : m.Readable := ⟨_, Tape.symbol?_of_inside h⟩

theorem roomy_apply (m : Machine σ) (r : Rule σ) : (m.apply r).tape.Roomy := Tape.roomy_padded _

variable [DecidableEq σ]

theorem step_eq (h : m.tape.symbol? = some b) :
    m.step = .ok ((m.ruleFor m.current b).map m.apply) := by
  simp [step, currentRule_eq h, Except.map]

theorem step_of_not_readable (h : ¬ m.Readable) : m.step = .error .offTape := by
  simp [step, currentRule_of_not_readable h, Except.map]

/-- A step that succeeds applies the rule for the symbol that is read. -/
theorem step_cases (h : m.step = .ok (some k)) :
    ∃ b r, m.tape.symbol? = some b ∧ m.ruleFor m.current b = some r ∧ k = m.apply r := by
  by_cases hm : m.Readable
  · obtain ⟨b, hb⟩ := hm
    rw [step_eq hb, Except.ok.injEq, Option.map_eq_some_iff] at h
    obtain ⟨r, hr, rfl⟩ := h
    exact ⟨b, r, hb, hr, rfl⟩
  · rw [step_of_not_readable hm] at h
    cases h

theorem roomy_of_step (h : m.step = .ok (some k)) : k.tape.Roomy := by
  obtain ⟨_, r, _, _, rfl⟩ := step_cases h
  exact roomy_apply m r

theorem steps_of_step (h : m.step = .ok (some k)) : k.steps = m.steps + 1 := by
  obtain ⟨_, r, _, _, rfl⟩ := step_cases h
  rfl

/-- Where a cell can be read a step does not fail, and after it there is a cell to read again. -/
theorem step_of_readable (h : m.Readable) :
    m.step = .ok none ∨ ∃ next, m.step = .ok (some next) ∧ next.Readable := by
  obtain ⟨b, hb⟩ := h
  rw [step_eq hb]
  cases m.ruleFor m.current b with
  | none => exact .inl rfl
  | some r => exact .inr ⟨m.apply r, rfl, readable_of_inside (roomy_apply m r).inside⟩

/-- A machine goes on to another by so many steps, each with a rule that applies. -/
inductive Walk : Machine σ → Nat → Machine σ → Prop
  | refl {m : Machine σ} : Walk m 0 m
  | step {m next k : Machine σ} {n : Nat} :
      m.step = .ok (some next) → Walk next n k → Walk m (n + 1) k

namespace Walk

theorem steps_eq (h : Walk m n k) : k.steps = m.steps + n := by
  induction h with
  | refl => rfl
  | step hs _ ih =>
    rw [ih, steps_of_step hs]
    omega

theorem roomy (h : Walk m n k) (hm : m.tape.Roomy) : k.tape.Roomy := by
  induction h with
  | refl => exact hm
  | step hs _ ih => exact ih (roomy_of_step hs)

/-- One step is enough to bring the margins back. -/
theorem roomy_of_pos (h : Walk m n k) (hn : 0 < n) : k.tape.Roomy := by
  cases h with
  | refl => omega
  | step hs hw => exact hw.roomy (roomy_of_step hs)

theorem inside (h : Walk m n k) (hm : m.tape.Inside) : k.tape.Inside := by
  cases h with
  | refl => exact hm
  | step hs hw => exact (hw.roomy (roomy_of_step hs)).inside

theorem readable (h : Walk m n k) (hm : m.Readable) : k.Readable := by
  cases h with
  | refl => exact hm
  | step hs hw => exact readable_of_inside (hw.roomy (roomy_of_step hs)).inside

theorem trans {l : Machine σ} {i : Nat} (h : Walk m n k) (g : Walk k i l) : Walk m (n + i) l := by
  induction h with
  | refl => simpa using g
  | step hs _ ih =>
    rw [Nat.add_right_comm]
    exact .step hs (ih g)

end Walk

end TapeMachine.Machine
