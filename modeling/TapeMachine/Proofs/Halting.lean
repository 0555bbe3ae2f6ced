import Mathlib.Data.Nat.Find
import Mathlib.Order.Bounds.Basic
import TapeMachine.Proofs.Finished
import TapeMachine.Proofs.Fresh

/-!
When a machine settles. It goes on until no rule applies or it is at rest in a final state; if it
has only just come into that state it takes one more step, to come from it.
-/
namespace TapeMachine.Machine

variable {m k : Machine} {n fuel : Nat}

/-- No rule applies, or in a final state one that changes nothing. -/
def AtEnd (m : Machine) : Prop := m.isUndefined = .ok true ∨ m.AtRest

instance (m : Machine) : Decidable m.AtEnd := inferInstanceAs (Decidable (_ ∨ _))

/-- The steps of a machine that settles, when its first end is after `n` of them: one more, unless
no rule applies there or the state was entered from itself. -/
def settlingSteps (m : Machine) (n : Nat) : Nat :=
  if (m.after n).isUndefined = .ok true ∨ 1 ≤ n ∧ (m.after (n - 1)).current = (m.after n).current
  then n else n + 1

theorem atEnd_of_rests (h : m.Rests none) : m.AtEnd := by
  rcases h with hf | hl | hs
  · exact .inr (finished_iff.mp hf).1
  · cases hl
  · exact .inl (isUndefined_iff.mpr hs)

/-- A machine settles by the steps before its first end. -/
theorem proceeds_of_not_atEnd (hm : m.Readable) (h : ∀ i < n, ¬ (m.after i).AtEnd) :
    Proceeds none m n (m.after n) := by
  induction n with
  | zero => exact .refl
  | succ n ih =>
    have hp := ih fun i hi => h i (Nat.lt_succ_of_lt hi)
    rcases rests_or_goesOn none (hp.walk.readable hm) with hr | ⟨next, hn, -⟩
    · exact (h n (Nat.lt_succ_self n) (atEnd_of_rests hr)).elim
    · rw [after_succ, perform_of_step hn.step]
      exact hp.concat hn

/-- Settling takes more fuel than steps; with less it is cut short. -/
theorem settle_eq (h : Proceeds none m n k) (hk : k.Rests none) (fuel : Nat) :
    settle fuel m = if n < fuel then (.ok true, k) else (.ok false, m.after fuel) := by
  induction h generalizing fuel with
  | refl =>
    cases fuel with
    | zero => rfl
    | succ fuel => rw [settle_of_rests hk, if_pos (Nat.zero_lt_succ fuel)]
  | step hn _ ih =>
    cases fuel with
    | zero => rfl
    | succ fuel =>
      rw [settle_of_goesOn hn, ih hk, after_succ_left, perform_of_step hn.step]
      simp only [Nat.add_lt_add_iff_right]

theorem perform_settle (h : Proceeds none m n k) (hk : k.Rests none) (fuel : Nat) :
    m.perform (.settle fuel) = if n < fuel then (.ok (.settled (some (k.steps, k.tape.ones))), k)
      else (.ok (.settled none), m.after fuel) := by
  rw [perform, settle_eq h hk]
  by_cases hn : n < fuel
  · rw [if_pos hn, if_pos hn]
    rfl
  · rw [if_neg hn, if_neg hn]
    rfl

/-- The state before the last of some steps is the previous one. -/
theorem previous_after (h : Proceeds none m n (m.after n)) (hm : m.previous = none) {s : String} :
    (m.after n).previous = some s ↔ 1 ≤ n ∧ (m.after (n - 1)).current = s := by
  cases n with
  | zero => simp [hm]
  | succ n =>
    obtain ⟨_, r, -, -, hr⟩ := step_cases (h.goesOn n (Nat.lt_succ_self n)).step
    simp [hr, apply]

/-- From its first end a machine comes to rest with at most one more step, and nothing moves. -/
theorem rests_after_end (h : m.Untouched) (hfirst : IsLeast {i | (m.after i).AtEnd} n) :
    ∃ k, Proceeds none m (m.settlingSteps n) k ∧ k.Rests none ∧ k.tape = (m.after n).tape ∧
      k.current = (m.after n).current ∧
      (k.finished = .ok true ↔ (m.after n).isUndefined = .ok false) := by
  have hm := readable_of_inside h.roomy.inside
  have hp : Proceeds none m n (m.after n) :=
    proceeds_of_not_atEnd hm fun i hi hend => absurd (hfirst.2 hend) (Nat.not_le.mpr hi)
  have hentered := previous_after hp h.previous (s := (m.after n).current)
  unfold settlingSteps
  rcases hfirst.1 with hu | hrest
  · have hs := isUndefined_iff.mp hu
    rw [if_pos (.inl hu)]
    exact ⟨_, hp, .stuck hs, rfl, rfl, by simp [finished_of_stuck hs, hu]⟩
  · have hu := isUndefined_of_atRest hrest
    by_cases hprevious : (m.after n).previous = some (m.after n).current
    · have hf := finished_iff.mpr ⟨hrest, hprevious⟩
      rw [if_pos (.inr (hentered.mp hprevious))]
      exact ⟨_, hp, .finished hf, rfl, rfl, by simp [hf, hu]⟩
    · obtain ⟨next, hstep, hf, htape, hcurrent, -⟩ :=
        finished_step_of_atRest (hp.walk.roomy h.roomy) hrest
      have hunfinished : (m.after n).finished = .ok false := by
        obtain ⟨done, hdone⟩ := finished_of_readable (hp.walk.readable hm)
        cases done with
        | true => exact (hprevious (finished_iff.mp hdone).2).elim
        | false => exact hdone
      rw [if_neg (by simp [hu, ← hentered, hprevious])]
      exact ⟨next, hp.concat ⟨hunfinished, rfl, hstep⟩, .finished hf, htape, hcurrent,
        by simp [hf, hu]⟩

/-- How a machine settles whose first end is after `n` steps: the fuel has to be more than the steps
it takes. -/
structure SettlesAt (m : Machine) (n : Nat) (k : Machine) : Prop where
  steps : k.steps = m.settlingSteps n
  tape : k.tape = (m.after n).tape
  current : k.current = (m.after n).current
  finished : k.finished = .ok true ↔ (m.after n).isUndefined = .ok false
  settles : ∀ fuel, m.perform (.settle fuel) =
    if k.steps < fuel then (.ok (.settled (some (k.steps, k.tape.ones))), k)
    else (.ok (.settled none), m.after fuel)

theorem exists_settlesAt (h : m.Untouched) (hfirst : IsLeast {i | (m.after i).AtEnd} n) :
    ∃ k, m.SettlesAt n k := by
  obtain ⟨k, hp, hrests, htape, hcurrent, hf⟩ := rests_after_end h hfirst
  have hsteps : k.steps = m.settlingSteps n := by
    rw [hp.walk.steps_eq, h.steps, Nat.zero_add]
  exact ⟨k, hsteps, htape, hcurrent, hf, hsteps ▸ perform_settle hp hrests⟩

/-- A fresh machine settles exactly if it comes to an end at all. Then it settles in as many steps
as it takes to its first end, or one more where it has only just come into a final state; it leaves
the tape and the state of that end, and is finished unless no rule applies there. -/
theorem settles_at_first_end (h : m.Fresh) :
    ((∃ fuel answer, (m.perform (.settle fuel)).1 = .ok (.settled (some answer))) ↔
      ∃ i, (m.after i).AtEnd) ∧
    ∀ n, IsLeast {i | (m.after i).AtEnd} n → ∃ k, m.SettlesAt n k := by
  have hfresh := h.untouched
  refine ⟨⟨?_, ?_⟩, fun n => exists_settlesAt hfresh⟩
  · rintro ⟨fuel, answer, hanswer⟩
    obtain ⟨taken, hp, hrests⟩ := proceeds_of_settle (readable_of_inside hfresh.roomy.inside)
      (settle_of_perform hanswer).1
    refine ⟨taken, ?_⟩
    rw [hp.walk.after_eq]
    exact atEnd_of_rests hrests
  · intro hend
    classical
    have hfirst : IsLeast {i | (m.after i).AtEnd} (Nat.find hend) :=
      ⟨Nat.find_spec hend, fun i hi => Nat.find_min' hend hi⟩
    obtain ⟨k, hk⟩ := exists_settlesAt hfresh hfirst
    exact ⟨k.steps + 1, _, by rw [hk.settles, if_pos (Nat.lt_succ_self k.steps)]⟩

/-- A machine that comes into its final state on a blank, where a rule writes a one, and is at rest
then. -/
def rewriter : Machine :=
  (load [true] "a" ["c"] []).addRules [⟨"a", 1, 0, .halt, "c"⟩, ⟨"c", 0, 1, .halt, "c"⟩]

theorem settles_at_first_end_rewriter : rewriter.Fresh ∧
    IsLeast {i | (rewriter.after i).AtEnd} 2 ∧ rewriter.settlingSteps 2 = 2 ∧
    (∃ k, rewriter.SettlesAt 2 k) ∧
    ∃ fuel answer, (rewriter.perform (.settle fuel)).1 = .ok (.settled (some answer)) := by
  have hfresh : rewriter.Fresh := .made (.loaded _ _ _ _)
  have hend : (rewriter.after 2).AtEnd := by decide
  have hfirst : IsLeast {i | (rewriter.after i).AtEnd} 2 := by
    refine ⟨hend, fun i hi => ?_⟩
    by_contra hlt
    have hnone : ∀ i < 2, ¬ (rewriter.after i).AtEnd := by decide
    exact hnone i (Nat.lt_of_not_le hlt) hi
  obtain ⟨hsettles, hat⟩ := settles_at_first_end hfresh
  exact ⟨hfresh, hfirst, by decide, hat 2 hfirst, hsettles.mpr ⟨2, hend⟩⟩

end TapeMachine.Machine
