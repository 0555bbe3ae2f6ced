import TapeMachine.Proofs.Patience
import TapeMachine.Proofs.Verdicts

/-!
A limit on the entries of a state bounds every run, whatever the tape: no state is entered oftener
than the limit allows, and the states that can be entered at all are few.
-/
namespace TapeMachine

namespace Visits

variable {v : Visits} {limit : Int}

/-- A state that was not entered as often as the limit allows may be entered once more. -/
theorem bump_le (hl : 1 ≤ limit) (h : v.reaches limit = false) (s : String) :
    ∀ e ∈ v.bump s, (e.2 : Int) ≤ limit := by
  simp only [reaches, List.any_eq_false, decide_eq_true_eq, not_le] at h
  induction v with
  | nil => simpa [bump] using hl
  | cons x xs ih =>
    rw [List.forall_mem_cons] at h
    rw [bump]
    split
    · rw [List.forall_mem_cons]
      exact ⟨by push_cast; omega, fun e he => Int.le_of_lt (h.2 e he)⟩
    · rw [List.forall_mem_cons]
      exact ⟨Int.le_of_lt h.1, ih h.2⟩

end Visits

namespace Machine

variable {m k : Machine} {limit : Int} {n : Nat}

theorem Proceeds.visits_le (h : Proceeds (some limit) m n k) (hl : 1 ≤ limit)
    (hm : ∀ e ∈ m.visits, (e.2 : Int) ≤ limit) : ∀ e ∈ k.visits, (e.2 : Int) ≤ limit := by
  induction h with
  | refl => exact hm
  | @step m next k n hn _ ih =>
    apply ih
    rw [visits_step hn.step]
    exact Visits.bump_le hl hn.patient next.current

theorem cast_bound (hl : 1 ≤ limit) (states : Nat) :
    ((states * (limit - 1).toNat + 1 : Nat) : Int) = states * (limit - 1) + 1 := by
  push_cast
  rw [Int.toNat_of_nonneg (by omega)]

/-- A limit bounds the steps of every run of a machine with cleared counters, by the number of
states that can be entered and whatever the budget and the tape; and in the end no state was entered
oftener than the limit allows. So a fresh machine that may take as many steps is never reported as
timed out. -/
theorem limit_bounds_runs (hl : 1 ≤ limit) :
    (∀ (m : Machine) (budget : Int), m.visits = [] →
      ((m.perform (.run budget (some limit))).2.steps : Int) ≤
        m.steps + (m.enterable.dedup.length * (limit - 1) + 1) ∧
      ∀ e ∈ (m.perform (.run budget (some limit))).2.visits, (e.2 : Int) ≤ limit) ∧
    ∀ (m : Machine) (budget : Int), m.Fresh →
      m.enterable.dedup.length * (limit - 1) + 1 ≤ budget →
      ∃ r, (m.perform (.report budget limit)).1 = .ok (.report r) ∧ r.status ≠ .timeout := by
  refine ⟨?_, ?_⟩
  · intro m budget hv
    rw [← cast_bound hl, left_of_run]
    by_cases hm : m.Readable
    · obtain ⟨n, hp, -⟩ := run_proceeds (some limit) budget.toNat hm
      have hle := hp.length_le (tallied_of_none hv)
      have hsteps := hp.walk.steps_eq
      exact ⟨by omega, hp.visits_le hl (by simp [hv])⟩
    · rw [run_of_not_readable (some limit) budget.toNat hm]
      exact ⟨by omega, by simp [hv]⟩
  · intro m budget hfresh hbudget
    obtain ⟨hroomy, -, hv, -⟩ := hfresh.untouched
    have hm := readable_of_inside hroomy.inside
    rw [← cast_bound hl] at hbudget
    have henough : m.enterable.dedup.length * (limit - 1).toNat + 1 ≤ budget.toNat := by omega
    obtain ⟨_, hp, -⟩ := run_proceeds (some limit) budget.toNat hm
    obtain ⟨entered, ht⟩ := hp.walk.exists_trail
    obtain ⟨o, ho⟩ := outcome_of_readable (hp.walk.readable hm)
    have hnone : m.visits = .tally [] := hv
    obtain ⟨r, hr, -, hverdict⟩ := exists_report hm hnone ht ho
    have hrests := rests_of_enough hm (tallied_of_none hv) henough
    exact ⟨r, by rw [hr], hverdict.not_timeout (ht.visits_eq hnone) hrests⟩

/-- A machine that goes to the right for ever, in one state. -/
def runaway : Machine :=
  (load [true] "q" [] []).addRules [⟨"q", 1, 1, .right, "q"⟩, ⟨"q", 0, 0, .right, "q"⟩]

/-- It takes as many steps as the bound allows, and a budget of as many is enough to see the
loop. -/
theorem limit_bounds_runs_runaway : (1 : Int) ≤ 3 ∧ runaway.visits = [] ∧
    runaway.enterable.dedup.length = 1 ∧
    (runaway.perform (.run 100 (some 3))).2.steps = 1 * (3 - 1) + 1 ∧
    ((runaway.perform (.run 100 (some 3))).2.steps : Int) ≤
      runaway.steps + (runaway.enterable.dedup.length * (3 - 1) + 1) ∧
    runaway.Fresh ∧ runaway.enterable.dedup.length * (3 - 1) + 1 ≤ (3 : Int) ∧
    ∃ r, (runaway.perform (.report 3 3)).1 = .ok (.report r) ∧ r.status ≠ .timeout := by
  have hlimit : (1 : Int) ≤ 3 := by decide
  have hfresh : runaway.Fresh := .made (.loaded _ _ _ _)
  have hbudget : runaway.enterable.dedup.length * (3 - 1) + 1 ≤ (3 : Int) := by decide
  obtain ⟨hbound, hreport⟩ := limit_bounds_runs hlimit
  exact ⟨hlimit, rfl, by decide, by decide, (hbound runaway 100 rfl).1, hfresh, hbudget,
    hreport runaway 3 hfresh hbudget⟩

end Machine

end TapeMachine
