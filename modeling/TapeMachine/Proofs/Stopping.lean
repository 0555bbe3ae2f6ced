import TapeMachine.Proofs.Commands

/-!
Where runs stop. A run that has stopped by itself stops again at once, so a run in pieces is the run
as a whole, and one that is long enough ends where a machine settles.
-/
namespace TapeMachine.Machine

variable {m k next : Machine} {limit : Option Int} {n : Nat}

/-- A run takes no further step, whatever its budget: the machine is finished, seems to loop, or has
no rule that applies. -/
inductive Rests (limit : Option Int) (m : Machine) : Prop
  | finished : m.finished = .ok true → Rests limit m
  | looping : limit.any m.isLooping = true → Rests limit m
  | stuck : m.step = .ok none → Rests limit m

/-- A run goes on to the next machine, if its budget allows it. -/
structure GoesOn (limit : Option Int) (m next : Machine) : Prop where
  unfinished : m.finished = .ok false
  patient : limit.any m.isLooping = false
  step : m.step = .ok (some next)

/-- A machine is undefined when its next step finds no rule. -/
theorem isUndefined_iff : m.isUndefined = .ok true ↔ m.step = .ok none := by
  unfold isUndefined step
  cases m.currentRule with
  | error e => simp [Except.map]
  | ok r => cases r <;> simp [Except.map]

theorem isUndefined_of_step (h : m.step = .ok (some next)) : m.isUndefined = .ok false := by
  obtain ⟨b, r, hb, hr, -⟩ := step_cases h
  rw [isUndefined, currentRule_eq hb, hr]
  rfl

theorem finished_of_stuck (h : m.step = .ok none) : m.finished = .ok false := by
  have hrule : m.currentRule = .ok none := by
    unfold step at h
    cases hr : m.currentRule with
    | error e => simp [hr, Except.map] at h
    | ok r => cases r <;> simp [hr, Except.map] at h ⊢
  rw [finished, hrule]
  split <;> rfl

theorem GoesOn.not_rests (h : m.GoesOn limit next) : ¬ m.Rests limit := by
  rintro (hf | hl | hs)
  · rw [h.unfinished] at hf
    cases hf
  · rw [h.patient] at hl
    cases hl
  · rw [h.step] at hs
    cases hs

theorem rests_or_goesOn (limit : Option Int) (h : m.Readable) :
    m.Rests limit ∨ ∃ next, m.GoesOn limit next ∧ next.Readable := by
  obtain ⟨done, hdone⟩ := finished_of_readable h
  cases done with
  | true => exact .inl (.finished hdone)
  | false =>
    cases hl : limit.any m.isLooping with
    | true => exact .inl (.looping hl)
    | false =>
      rcases step_of_readable h with hs | ⟨next, hs, hnext⟩
      · exact .inl (.stuck hs)
      · exact .inr ⟨next, ⟨hdone, hl, hs⟩, hnext⟩

theorem run_of_rests (hm : m.Readable) (h : m.Rests limit) (n : Nat) : (run limit n m).2 = m := by
  cases n with
  | zero => rfl
  | succ n =>
    obtain ⟨done, hdone⟩ := finished_of_readable hm
    rw [run, hdone]
    cases done with
    | true => rfl
    | false =>
      cases h with
      | finished hf =>
        rw [hdone] at hf
        cases hf
      | looping hl =>
        dsimp only
        rw [if_pos hl]
      | stuck hs =>
        dsimp only
        rw [hs]
        split <;> rfl

theorem run_of_goesOn (h : m.GoesOn limit next) (n : Nat) :
    run limit (n + 1) m = run limit n next := by
  rw [run, h.unfinished]
  dsimp only
  rw [h.patient, h.step]
  rfl

/-- A run goes on from machine to machine, so many times. -/
inductive Proceeds (limit : Option Int) : Machine → Nat → Machine → Prop
  | refl {m : Machine} : Proceeds limit m 0 m
  | step {m next k : Machine} {n : Nat} :
      m.GoesOn limit next → Proceeds limit next n k → Proceeds limit m (n + 1) k

theorem Proceeds.walk (h : Proceeds limit m n k) : Walk m n k := by
  induction h with
  | refl => exact .refl
  | step hn _ ih => exact .step hn.step ih

theorem Proceeds.concat (h : Proceeds limit m n k) (hk : k.GoesOn limit next) :
    Proceeds limit m (n + 1) next := by
  induction h with
  | refl => exact .step hk .refl
  | step hn _ ih => exact .step hn (ih hk)

/-- A run goes on from each machine on its way. -/
theorem Proceeds.goesOn (h : Proceeds limit m n k) :
    ∀ i < n, (m.after i).GoesOn limit (m.after (i + 1)) := by
  induction h with
  | refl =>
    intro i hi
    cases hi
  | step hn _ ih =>
    intro i hi
    rw [after_succ_left, perform_of_step hn.step]
    cases i with
    | zero => exact hn
    | succ i =>
      rw [after_succ_left, perform_of_step hn.step]
      exact ih i (Nat.lt_of_succ_lt_succ hi)

theorem run_of_proceeds {taken : Nat} (h : Proceeds limit m taken k) (n : Nat) :
    run limit (taken + n) m = run limit n k := by
  induction h with
  | refl => rw [Nat.zero_add]
  | step hn _ ih => rw [Nat.succ_add, run_of_goesOn hn, ih]

/-- A run of enough steps ends where there is nothing to go on to. -/
theorem run_of_enough {taken : Nat} (hm : m.Readable) (h : Proceeds limit m taken k)
    (hk : k.Rests limit) (hn : taken ≤ n) : (run limit n m).2 = k := by
  obtain ⟨more, rfl⟩ := Nat.exists_eq_add_of_le hn
  rw [run_of_proceeds h, run_of_rests (h.walk.readable hm) hk]

/-- A run goes on as long as its budget lasts, unless it comes to rest before. -/
theorem run_proceeds (limit : Option Int) (n : Nat) (h : m.Readable) :
    ∃ taken, Proceeds limit m taken (run limit n m).2 ∧
      (taken = n ∨ taken ≤ n ∧ (run limit n m).2.Rests limit) := by
  induction n generalizing m with
  | zero => exact ⟨0, .refl, .inl rfl⟩
  | succ n ih =>
    rcases rests_or_goesOn limit h with hr | ⟨next, hn, hnext⟩
    · rw [run_of_rests h hr]
      exact ⟨0, .refl, .inr ⟨Nat.zero_le _, hr⟩⟩
    · obtain ⟨taken, hp, hends⟩ := ih hnext
      rw [run_of_goesOn hn]
      refine ⟨taken + 1, .step hn hp, ?_⟩
      rcases hends with rfl | ⟨hle, hr⟩
      · exact .inl rfl
      · exact .inr ⟨Nat.succ_le_succ hle, hr⟩

theorem run_add (limit : Option Int) (a b : Nat) (h : m.Readable) :
    (run limit b (run limit a m).2).2 = (run limit (a + b) m).2 := by
  obtain ⟨taken, hp, rfl | ⟨hle, hr⟩⟩ := run_proceeds limit a h
  · rw [run_of_proceeds hp]
  · rw [run_of_rests (hp.walk.readable h) hr]
    exact (run_of_enough h hp hr (Nat.le_trans hle (Nat.le_add_right a b))).symm

theorem settle_of_rests (h : m.Rests none) (fuel : Nat) :
    settle (fuel + 1) m = (.ok true, m) := by
  cases h with
  | finished hf => rw [settle, hf]
  | looping hl => cases hl
  | stuck hs => rw [settle, finished_of_stuck hs, hs]

theorem settle_of_goesOn (h : m.GoesOn none next) (fuel : Nat) :
    settle (fuel + 1) m = settle fuel next := by
  rw [settle, h.unfinished, h.step]

theorem settle_of_proceeds {taken : Nat} (h : Proceeds none m taken k) (fuel : Nat) :
    settle (taken + fuel) m = settle fuel k := by
  induction h with
  | refl => rw [Nat.zero_add]
  | step hn _ ih => rw [Nat.succ_add, settle_of_goesOn hn, ih]

/-- A machine settles where it rests, however many entries of a state there were. -/
theorem proceeds_of_settle {fuel : Nat} (hm : m.Readable) (h : settle fuel m = (.ok true, k)) :
    ∃ taken, Proceeds none m taken k ∧ k.Rests none := by
  induction fuel generalizing m with
  | zero => cases h
  | succ fuel ih =>
    rcases rests_or_goesOn none hm with hr | ⟨next, hn, hnext⟩
    · rw [settle_of_rests hr] at h
      cases h
      exact ⟨0, .refl, hr⟩
    · rw [settle_of_goesOn hn] at h
      obtain ⟨taken, hp, hr⟩ := ih hnext h
      exact ⟨taken + 1, .step hn hp, hr⟩

theorem thenAsk_run {β : Type} (limit : Option Int) (n : Nat) (h : m.Readable)
    (question : Machine → Except Fault β) :
    thenAsk (run limit n m) question = (question (run limit n m).2, (run limit n m).2) := by
  obtain ⟨stop, _, hstop, _⟩ := run_walks limit n h
  generalize run limit n m = r at hstop
  obtain ⟨_, k⟩ := r
  cases hstop
  rfl

theorem perform_run (limit : Option Int) (maxSteps : Int) (h : m.Readable) :
    m.perform (.run maxSteps limit) =
      ((run limit maxSteps.toNat m).2.outcome.map .outcome, (run limit maxSteps.toNat m).2) :=
  thenAsk_run limit maxSteps.toNat h fun k => k.outcome.map Answer.outcome

theorem left_of_run (m : Machine) (maxSteps : Int) (limit : Option Int) :
    (m.perform (.run maxSteps limit)).2 = (run limit maxSteps.toNat m).2 := by
  rw [perform]
  rcases run limit maxSteps.toNat m with ⟨_ | _, k⟩ <;> rfl

theorem settle_of_perform {fuel steps ones : Nat}
    (h : (m.perform (.settle fuel)).1 = .ok (.settled (some (steps, ones)))) :
    settle fuel m = (.ok true, (m.perform (.settle fuel)).2) ∧
      steps = (m.perform (.settle fuel)).2.steps ∧
      ones = (m.perform (.settle fuel)).2.tape.ones := by
  rw [perform] at h ⊢
  generalize settle fuel m = r at h ⊢
  obtain ⟨_ | settled, k⟩ := r
  · cases h
  · cases settled <;> cases h
    exact ⟨rfl, rfl, rfl⟩

/-- What the tape says of a machine that is undefined, and of one that is not. -/
theorem outcome_cases {o : Outcome} (h : m.outcome = .ok o) :
    m.isUndefined = .ok true ∧ o = .undefined m.steps ∨
      m.isUndefined = .ok false ∧ o = .defined m.steps m.tape.ones := by
  unfold outcome at h
  cases hu : m.isUndefined with
  | error e =>
    rw [hu] at h
    cases h
  | ok undefined =>
    rw [hu] at h
    cases undefined <;> cases h
    · exact .inr ⟨rfl, rfl⟩
    · exact .inl ⟨rfl, rfl⟩

theorem outcome_eq (h : m.Readable) : ∃ o, m.outcome = .ok o ∧ o.steps = m.steps ∧
    ∀ v, o.value? = some v → v = m.tape.ones := by
  obtain ⟨o, ho⟩ := outcome_of_readable h
  refine ⟨o, ho, ?_⟩
  rcases outcome_cases ho with ⟨-, rfl⟩ | ⟨-, rfl⟩
  · exact ⟨rfl, by simp [Outcome.value?]⟩
  · exact ⟨rfl, by simp [Outcome.value?]⟩

/-- With the head on a cell, a run in two pieces leaves the machine and gives the outcome of one run
as long as both. Once a machine settles, every run that is long enough leaves it as it settled, and
tells the same steps and, if a rule applies there, the same ones. -/
theorem runs_resume (h : m.tape.Inside) :
    (∀ (a b : Nat) (limit : Option Int),
      (m.perform (.run a limit)).2.perform (.run b limit) = m.perform (.run (a + b) limit) ∧
        ∃ o, (m.perform (.run (a + b) limit)).1 = .ok (.outcome o)) ∧
    ∀ (fuel steps ones : Nat),
      (m.perform (.settle fuel)).1 = .ok (.settled (some (steps, ones))) →
      ∀ n : Nat, steps - m.steps ≤ n →
        ∃ o, m.perform (.run n none) = (.ok (.outcome o), (m.perform (.settle fuel)).2) ∧
          o.steps = steps ∧ ∀ v, o.value? = some v → v = ones := by
  have hm := readable_of_inside h
  refine ⟨?_, ?_⟩
  · intro a b limit
    obtain ⟨_, _, -, ha⟩ := run_walks limit a hm
    obtain ⟨_, _, -, hab⟩ := run_walks limit (a + b) hm
    obtain ⟨o, ho, -⟩ := outcome_eq (hab.readable hm)
    have hsum : ((a : Int) + b).toNat = a + b := by omega
    have hfirst : (m.perform (.run a limit)).2 = (run limit a m).2 := by
      rw [perform_run limit a hm]
      rfl
    rw [hfirst, perform_run limit b (ha.readable hm), perform_run limit (a + b) hm, hsum,
      Int.toNat_natCast, run_add limit a b hm]
    exact ⟨rfl, o, by rw [ho]; rfl⟩
  · intro fuel steps ones hsettled n hn
    obtain ⟨hs, rfl, rfl⟩ := settle_of_perform hsettled
    obtain ⟨taken, hp, hr⟩ := proceeds_of_settle hm hs
    obtain ⟨o, ho, hsteps, hvalue⟩ := outcome_eq (hp.walk.readable hm)
    have htaken := hp.walk.steps_eq
    rw [perform_run none n hm, Int.toNat_natCast, run_of_enough hm hp hr (by omega), ho]
    exact ⟨o, rfl, hsteps, hvalue⟩

/-- A machine that writes two ones. -/
def twoOnes : Machine :=
  load [] "a" ["c"] [⟨"a", false, true, .right, "b"⟩, ⟨"b", false, true, .halt, "c"⟩]

theorem runs_resume_twoOnes : twoOnes.tape.Inside ∧
    (twoOnes.perform (.run 1 (some 2))).2.perform (.run 3 (some 2)) =
      twoOnes.perform (.run 4 (some 2)) ∧
    (twoOnes.perform (.settle 9)).1 = .ok (.settled (some (3, 2))) ∧
    ∃ o, twoOnes.perform (.run 5 none) = (.ok (.outcome o), (twoOnes.perform (.settle 9)).2) ∧
      o.steps = 3 := by
  have hinside : twoOnes.tape.Inside := by decide
  obtain ⟨hpieces, hsettles⟩ := runs_resume hinside
  have hthree : (twoOnes.perform (.settle 9)).1 = .ok (.settled (some (3, 2))) := by decide
  obtain ⟨o, ho, hsteps, -⟩ := hsettles 9 3 2 hthree 5 (by decide)
  exact ⟨hinside, (hpieces 1 3 (some 2)).1, hthree, o, ho, hsteps⟩

end TapeMachine.Machine
