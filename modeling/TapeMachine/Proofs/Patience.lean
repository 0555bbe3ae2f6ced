import Mathlib.Data.List.Dedup
import Mathlib.Data.List.Perm.Subperm
import TapeMachine.Dialogue
import TapeMachine.Proofs.Counters
import TapeMachine.Proofs.Stopping

/-!
How long a run can go on within a limit. Each step enters the target of a rule or a final state, and
none of these as often as the limit allows, so the steps are bounded by their number.
-/
namespace TapeMachine

namespace Visits

variable {v : Visits} {limit : Int}

theorem total_le {n : Nat} (h : ∀ entry ∈ v, entry.2 ≤ n) : v.total ≤ v.length * n := by
  induction v with
  | nil => exact Nat.zero_le _
  | cons x xs ih =>
    rw [List.forall_mem_cons] at h
    have hxs := ih h.2
    rw [List.length_cons, Nat.succ_mul]
    simp only [total, List.foldr_cons] at hxs ⊢
    omega

/-- Where no state was entered as often as the limit allows, the entries are bounded. -/
theorem total_le_of_not_reaches (h : v.reaches limit = false) :
    v.total ≤ v.length * (limit - 1).toNat := by
  apply total_le
  intro entry hentry
  simp only [reaches, List.any_eq_false, decide_eq_true_eq] at h
  have hlt := h entry hentry
  omega

end Visits

namespace Machine

variable {m k next : Machine} {limit : Int} {n : Nat}

/-- The states that a step can lead to. -/
def enterable (m : Machine) : List String := m.table.map Rule.target ++ m.finals

/-- The counters are about states that a step can lead to, each of them once. -/
structure Tallied (m : Machine) : Prop where
  nodup : (m.visits.map Prod.fst).Nodup
  entered : m.visits.map Prod.fst ⊆ m.enterable

theorem tallied_of_none (h : m.visits = []) : m.Tallied := by
  constructor <;> simp [h]

theorem target_enterable {b : Bool} {r : Rule Bool} (h : m.ruleFor m.current b = some r) :
    r.target ∈ m.enterable := by
  rw [enterable, List.mem_append]
  unfold ruleFor at h
  split at h
  · next hfind =>
    cases h
    exact .inl (List.mem_map_of_mem (Table.mem_of_find? hfind))
  · split at h
    · next hfinal =>
      cases h
      exact .inr (by simpa [isFinal, Rule.rest] using hfinal)
    · cases h

theorem enterable_step (h : m.step = .ok (some next)) : next.enterable = m.enterable := by
  obtain ⟨_, _, -, -, rfl⟩ := step_cases h
  rfl

theorem total_step (h : m.step = .ok (some next)) : next.visits.total = m.visits.total + 1 := by
  obtain ⟨_, r, -, -, rfl⟩ := step_cases h
  exact Visits.total_bump r.target m.visits

theorem tallied_step (hm : m.Tallied) (h : m.step = .ok (some next)) : next.Tallied := by
  have hsame := enterable_step h
  obtain ⟨_, r, -, hr, rfl⟩ := step_cases h
  have hkeys := Visits.keys_bump r.target m.visits
  by_cases hmem : r.target ∈ m.visits.map Prod.fst
  · rw [if_pos hmem] at hkeys
    constructor
    · exact hkeys ▸ hm.nodup
    · rw [hsame]
      exact hkeys ▸ hm.entered
  · rw [if_neg hmem] at hkeys
    constructor
    · exact hkeys ▸ List.concat_eq_append ▸ hm.nodup.concat hmem
    · rw [hsame]
      change (m.visits.bump r.target).map Prod.fst ⊆ _
      rw [hkeys, List.append_subset]
      exact ⟨hm.entered, by simpa using target_enterable hr⟩

theorem tallied_proceeds {limit : Option Int} (hm : m.Tallied) (h : Proceeds limit m n k) :
    k.Tallied := by
  induction h with
  | refl => exact hm
  | step hn _ ih => exact ih (tallied_step hm hn.step)

/-- A machine that does not seem to loop has entered states so often at most. -/
theorem total_le_of_patient (hm : m.Tallied) (h : m.isLooping limit = false) :
    m.visits.total ≤ m.enterable.dedup.length * (limit - 1).toNat := by
  have hsub : m.visits.map Prod.fst ⊆ m.enterable.dedup :=
    fun s hs => List.mem_dedup.mpr (hm.entered hs)
  have hlen := (List.subperm_of_subset hm.nodup hsub).length_le
  rw [List.length_map] at hlen
  exact Nat.le_trans (Visits.total_le_of_not_reaches h) (Nat.mul_le_mul_right _ hlen)

/-- The steps of a run within a limit are bounded, whatever its budget and the tape. -/
theorem Proceeds.length_le (h : Proceeds (some limit) m n k) (hm : m.Tallied) :
    n ≤ m.enterable.dedup.length * (limit - 1).toNat + 1 := by
  -- the entries before the last step do not reach the limit
  have hbound : n = 0 ∨
      m.visits.total + n ≤ m.enterable.dedup.length * (limit - 1).toNat + 1 := by
    induction h with
    | refl => exact .inl rfl
    | step hn _ ih =>
      have hfirst := total_le_of_patient hm hn.patient
      have hrest := ih (tallied_step hm hn.step)
      rw [enterable_step hn.step, total_step hn.step] at hrest
      omega
  omega

theorem bound_le_patience (m : Machine) (limit : Int) :
    m.enterable.dedup.length * (limit - 1).toNat + 1 ≤ m.patience limit := by
  have hlen : m.enterable.dedup.length ≤ m.table.length + m.finals.length := by
    simpa [enterable] using (List.dedup_sublist m.enterable).length_le
  have hlimit : (limit - 1).toNat ≤ limit.toNat := by omega
  exact Nat.succ_le_succ (Nat.mul_le_mul hlen hlimit)

/-- A run of more steps than the limit allows comes to rest by itself. -/
theorem rests_of_enough {budget : Nat} (hm : m.Readable) (ht : m.Tallied)
    (hn : m.enterable.dedup.length * (limit - 1).toNat + 1 ≤ budget) :
    (run (some limit) budget m).2.Rests (some limit) := by
  obtain ⟨taken, hp, rfl | ⟨-, hr⟩⟩ := run_proceeds (some limit) budget hm
  · rcases rests_or_goesOn (some limit) (hp.walk.readable hm) with hr | ⟨next, hnext, -⟩
    · exact hr
    · have hle := (hp.concat hnext).length_le ht
      omega
  · exact hr

/-- A turn that runs goes on until the machine is finished, stuck, or seems to loop. -/
theorem turn_run (limit : Int) (hm : m.Readable) (ht : m.Tallied) :
    ∃ n k, m.turn limit .run = .ok k ∧ Proceeds (some limit) m n k ∧ k.Rests (some limit) := by
  obtain ⟨_, _, hstop, -⟩ := run_walks (some limit) (m.patience limit) hm
  obtain ⟨n, hp, -⟩ := run_proceeds (some limit) (m.patience limit) hm
  refine ⟨n, _, ?_, hp, rests_of_enough hm ht (bound_le_patience m limit)⟩
  simp only [turn, hstop, Except.map]

end Machine

end TapeMachine
