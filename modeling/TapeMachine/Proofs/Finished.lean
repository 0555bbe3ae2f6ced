import TapeMachine.Proofs.Stopping

/-!
A machine is finished where it can take a step and nothing would move, and then it stays so: a step
to the left never goes unseen, for where it keeps the index of the head it makes the tape longer.
-/
namespace TapeMachine

namespace Tape

variable {t : Tape} {b c : Bool} {move : Move}

/-- Writing the symbol that was read changes nothing, where there is room. -/
theorem padded_write_read (h : t.Roomy) (hb : t.symbol? = some b) :
    ((t.write b).shift .halt).padded = t := by
  obtain ⟨left, cell, right, rfl⟩ := h.inside.eq_within
  cases hb
  exact padded_of_roomy h

/-- Only where the symbol is written back and the head stays are cells and head as before. -/
theorem still_of_views (h : t.Roomy) (hb : t.symbol? = some b)
    (hcells : ((t.write c).shift move).padded.cells = t.cells)
    (hhead : ((t.write c).shift move).padded.head = t.head) : c = b ∧ move = .halt := by
  obtain ⟨left, cell, right, rfl⟩ := h.inside.eq_within
  obtain ⟨hl, hr⟩ := roomy_within_iff.mp h
  cases hb
  cases move with
  | halt =>
    simpa [write, shift, padded, padTo_of_le hl, padTo_of_le hr, Tape.cells] using hcells
  | left =>
    have hlength := congrArg List.length hcells
    cases left with
    | nil => simp [margin] at hl
    | cons b left =>
      simp only [write, shift, padded, head, Tape.cells, List.length_append, List.length_reverse,
        List.length_cons, length_padTo] at hlength hhead
      omega
  | right =>
    cases right with
    | nil => simp [margin] at hr
    | cons b right =>
      simp only [write, shift, padded, head, List.length_cons, length_padTo] at hhead
      omega

end Tape

namespace Machine

variable {m k next : Machine} {r : Rule Bool} {b : Bool} {n : Nat}

theorem key_of_ruleFor {state : String} (h : m.ruleFor state b = some r) : r.key = (state, b) := by
  unfold ruleFor at h
  split at h
  · next hfind =>
    cases h
    exact Table.key_of_find? hfind
  · split at h <;> cases h
    exact Rule.key_rest state b

/-- In a final state a rule applies that changes nothing. -/
def AtRest (m : Machine) : Prop :=
  m.isFinal m.current = true ∧ ∃ r, m.currentRule = .ok (some r) ∧ r.isIdle = true

/-- The cells, the head and the state of a machine are those of another. -/
structure Unmoved (m k : Machine) : Prop where
  cells : k.tape.cells = m.tape.cells
  head : k.tape.head = m.tape.head
  current : k.current = m.current

theorem atRest_iff : m.AtRest ↔
    m.isFinal m.current = true ∧ m.currentRule.map (·.any Rule.isIdle) = .ok true := by
  unfold AtRest
  cases m.currentRule with
  | error e => simp [Except.map]
  | ok r => cases r <;> simp [Except.map]

instance (m : Machine) : Decidable m.AtRest := decidable_of_iff _ atRest_iff.symm

theorem isUndefined_of_atRest (h : m.AtRest) : m.isUndefined = .ok false := by
  obtain ⟨-, r, hr, -⟩ := h
  rw [isUndefined, hr]
  rfl

theorem finished_iff : m.finished = .ok true ↔ m.AtRest ∧ m.previous = some m.current := by
  rw [finished, atRest_iff]
  split
  · next hf =>
    obtain ⟨hfinal, hprevious⟩ : m.isFinal m.current = true ∧ m.previous = some m.current := by
      simpa using hf
    simp [hfinal, hprevious]
  · next hf =>
    constructor
    · intro h
      cases h
    · rintro ⟨⟨hfinal, -⟩, hprevious⟩
      exact (hf (by simp [hfinal, hprevious])).elim

theorem isIdle_iff_unmoved (h : m.tape.Roomy) (hb : m.tape.symbol? = some b)
    (hr : m.ruleFor m.current b = some r) : r.isIdle = true ↔ m.Unmoved (m.apply r) := by
  obtain ⟨source, read, write, move, target⟩ := r
  obtain ⟨rfl, rfl⟩ : source = m.current ∧ read = b := by simpa [Rule.key] using key_of_ruleFor hr
  constructor
  · intro hidle
    obtain ⟨rfl, rfl, rfl⟩ : write = read ∧ move = .halt ∧ target = m.current := by
      simpa [Rule.rest] using Rule.isIdle_iff.mp hidle
    have hsame := Tape.padded_write_read h hb
    exact ⟨congrArg Tape.cells hsame, congrArg Tape.head hsame, rfl⟩
  · rintro ⟨hcells, hhead, rfl⟩
    obtain ⟨hwrite, hmove⟩ : write = read ∧ move = .halt := Tape.still_of_views h hb hcells hhead
    subst hwrite hmove
    exact Rule.isIdle_rest _ _

/-- A step from rest finishes a machine, and moves nothing. -/
theorem finished_step_of_atRest (h : m.tape.Roomy) (hm : m.AtRest) :
    ∃ next, m.step = .ok (some next) ∧ next.finished = .ok true ∧ next.tape = m.tape ∧
      next.current = m.current ∧ next.previous = some m.current := by
  obtain ⟨hfinal, r, hrule, hidle⟩ := hm
  obtain ⟨b, hb⟩ := readable_of_inside h.inside
  have hr : m.ruleFor m.current b = some r := by
    rw [currentRule_eq hb] at hrule
    exact Except.ok.inj hrule
  obtain ⟨hcells, hhead, hcurrent⟩ := (isIdle_iff_unmoved h hb hr).mp hidle
  have htape : (m.apply r).tape = m.tape := Tape.eq_of_views hcells hhead
  refine ⟨m.apply r, by rw [step_eq hb, hr]; rfl, ?_, htape, hcurrent, rfl⟩
  refine finished_iff.mpr ⟨⟨?_, r, ?_, hidle⟩, congrArg some hcurrent.symm⟩
  · rw [hcurrent]
    exact hfinal
  · rw [currentRule_eq (htape ▸ hb), hcurrent]
    exact congrArg Except.ok hr

/-- A machine that is finished as another was, however many steps later. -/
structure Lasts (m k : Machine) : Prop where
  finished : k.finished = .ok true
  tape : k.tape = m.tape
  current : k.current = m.current
  previous : k.previous = m.previous

theorem Lasts.step (h : m.tape.Roomy) (hk : m.Lasts k) :
    ∃ next, k.step = .ok (some next) ∧ m.Lasts next := by
  obtain ⟨hrest, hprevious⟩ := finished_iff.mp hk.finished
  obtain ⟨next, hstep, hfinished, htape, hcurrent, hnext⟩ :=
    finished_step_of_atRest (hk.tape ▸ h) hrest
  refine ⟨next, hstep, hfinished, htape.trans hk.tape, hcurrent.trans hk.current, ?_⟩
  rw [hnext, ← hprevious, hk.previous]

/-- Steps from a finished machine lead to machines that are finished in the same way. -/
theorem lasts_after (h : m.tape.Roomy) (hf : m.finished = .ok true) (n : Nat) :
    m.Lasts (m.after n) ∧ Walk m n (m.after n) := by
  induction n with
  | zero => exact ⟨⟨hf, rfl, rfl, rfl⟩, .refl⟩
  | succ n ih =>
    obtain ⟨hlasts, hwalk⟩ := ih
    obtain ⟨next, hstep, hnext⟩ := hlasts.step h
    rw [after_succ, perform_of_step hstep]
    exact ⟨hnext, hwalk.trans (.step hstep .refl)⟩

theorem outcome_of_finished (hm : m.Readable) (hf : m.finished = .ok true) :
    m.outcome = .ok (.defined m.steps m.tape.ones) := by
  obtain ⟨o, ho⟩ := outcome_of_readable hm
  rcases outcome_cases ho with ⟨hu, -⟩ | ⟨-, rfl⟩
  · rw [finished_of_stuck (isUndefined_iff.mp hu)] at hf
    cases hf
  · exact ho

/-- A finished machine takes no step to run or to settle. -/
theorem run_of_finished (hm : m.Readable) (hf : m.finished = .ok true) (budget : Int)
    (limit : Option Int) :
    m.perform (.run budget limit) = (.ok (.outcome (.defined m.steps m.tape.ones)), m) := by
  rw [perform_run limit budget hm, run_of_rests hm (.finished hf), outcome_of_finished hm hf]
  rfl

theorem settle_of_finished (hf : m.finished = .ok true) (fuel : Nat) :
    m.perform (.settle (fuel + 1)) = (.ok (.settled (some (m.steps, m.tape.ones))), m) := by
  rw [perform, settle_of_rests (.finished hf)]
  rfl

/-- With its margins a machine is finished exactly if it is in a final state that it entered from
itself, and a rule applies that leaves the cells, the head and the state as they are. Once it is
finished it stays so, whatever number of steps it takes: each of them succeeds, and none changes
what the machine shows, or is taken by a run or by settling. -/
theorem finished_absorbs (h : m.tape.Roomy) :
    (m.finished = .ok true ↔ m.isFinal m.current = true ∧ m.previous = some m.current ∧
      (∃ r, m.currentRule = .ok (some r)) ∧ m.Unmoved (m.perform .step).2) ∧
    (m.finished = .ok true → ∀ n, m.Lasts (m.after n) ∧ (m.after n).steps = m.steps + n ∧
      ((m.after n).perform .step).1 = .ok (.flag true) ∧
      ((m.after n).perform .values).1 = (m.perform .values).1 ∧
      ((m.after n).perform .ones).1 = (m.perform .ones).1 ∧
      ((m.after n).perform .outcome).1 =
        .ok (.outcome (.defined (m.after n).steps m.tape.ones)) ∧
      (∀ budget limit, (m.after n).perform (.run budget limit) =
        (.ok (.outcome (.defined (m.after n).steps m.tape.ones)), m.after n)) ∧
      ∀ fuel, (m.after n).perform (.settle (fuel + 1)) =
        (.ok (.settled (some ((m.after n).steps, m.tape.ones))), m.after n)) := by
  obtain ⟨b, hb⟩ := readable_of_inside h.inside
  refine ⟨?_, ?_⟩
  · rw [finished_iff, AtRest, currentRule_eq hb]
    cases hr : m.ruleFor m.current b with
    | none => simp
    | some r =>
      rw [perform_step hb hr, ← isIdle_iff_unmoved h hb hr]
      constructor
      · rintro ⟨⟨hfinal, _, ⟨⟩, hidle⟩, hprevious⟩
        exact ⟨hfinal, hprevious, ⟨r, rfl⟩, hidle⟩
      · rintro ⟨hfinal, hprevious, -, hidle⟩
        exact ⟨⟨hfinal, r, rfl, hidle⟩, hprevious⟩
  · intro hf n
    obtain ⟨hlasts, hwalk⟩ := lasts_after h hf n
    obtain ⟨next, hstep, -⟩ := hlasts.step h
    have hm := readable_of_inside (hlasts.tape ▸ h : (m.after n).tape.Roomy).inside
    have houtcome := outcome_of_finished hm hlasts.finished
    have hrun := run_of_finished hm hlasts.finished
    have hsettle := settle_of_finished hlasts.finished
    rw [hlasts.tape] at houtcome hrun hsettle
    refine ⟨hlasts, hwalk.steps_eq, by rw [perform_of_step hstep], ?_, ?_, ?_, hrun, hsettle⟩
    · simp only [perform, hlasts.tape]
    · simp only [perform, hlasts.tape]
    · rw [perform, houtcome]
      rfl

/-- A machine that has written two ones and has come to its end. -/
def resting : Machine := (twoOnes.perform (.settle 9)).2

/-- A machine that goes to the left for ever in its final state: the index of its head stays. -/
def drifting : Machine := (load [] "f" ["f"] [⟨"f", false, false, .left, "f"⟩]).after 1

theorem finished_absorbs_resting : resting.tape.Roomy ∧ resting.finished = .ok true ∧
    resting.Lasts (resting.after 5) ∧ drifting.tape.Roomy ∧
    (drifting.perform .step).2.tape.head = drifting.tape.head ∧
    ¬ drifting.Unmoved (drifting.perform .step).2 := by
  have hresting : resting.tape.Roomy := by decide
  have hfinished : resting.finished = .ok true := by decide
  have hdrifting : drifting.tape.Roomy := by decide
  refine ⟨hresting, hfinished, ((finished_absorbs hresting).2 hfinished 5).1, hdrifting,
    by decide, ?_⟩
  intro hunmoved
  have hrule : drifting.currentRule = .ok (some ⟨"f", false, false, .left, "f"⟩) := by decide
  have hdrifts : drifting.finished = .ok true :=
    (finished_absorbs hdrifting).1.mpr ⟨by decide, by decide, ⟨_, hrule⟩, hunmoved⟩
  exact absurd hdrifts (by decide)

end Machine

end TapeMachine
