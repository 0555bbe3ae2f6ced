import TapeMachine.Proofs.Step
import TapeMachine.Session

/-! What the commands of a session do: they walk, or they set a part of the machine. -/
namespace TapeMachine.Machine

variable {σ : Type} {m k : Machine σ} {c : Command} {n : Nat}

theorem thenAsk_of_fault {α β : Type} {r : Except Fault α × Machine σ}
    {question : Machine σ → Except Fault β} (hr : r.2 = m) (hq : question m = .error .offTape) :
    thenAsk r question = (.error .offTape, m) := by
  obtain ⟨answer, k⟩ := r
  cases hr
  cases answer with
  | error e => cases e; rfl
  | ok a => rw [thenAsk, hq]

variable [DecidableEq σ]

theorem finished_of_readable (h : m.Readable) : ∃ b, m.finished = .ok b := by
  obtain ⟨b, hb⟩ := h
  unfold finished
  split
  · exact ⟨_, by rw [currentRule_eq hb]; rfl⟩
  · exact ⟨false, rfl⟩

theorem isUndefined_of_readable (h : m.Readable) : ∃ b, m.isUndefined = .ok b := by
  obtain ⟨b, hb⟩ := h
  exact ⟨_, by rw [isUndefined, currentRule_eq hb]; rfl⟩

theorem finished_of_not_readable (h : ¬ m.Readable) :
    m.finished =
      if m.isFinal m.current && m.previous == some m.current then .error .offTape
      else .ok false := by
  rw [finished, currentRule_of_not_readable h]
  rfl

theorem status_eq {done undefined : Bool} (hf : m.finished = .ok done)
    (hu : m.isUndefined = .ok undefined) (limit : Int) : m.status limit =
      .ok (if done then .finished else if undefined then .undefined
        else if m.isLooping limit then .loop else .timeout) := by
  rw [status, hf, hu]
  cases done <;> cases undefined <;> cases m.isLooping limit <;> rfl

variable [Symbol σ]

theorem outcome_of_readable (h : m.Readable) : ∃ o, m.outcome = .ok o := by
  obtain ⟨b, hb⟩ := isUndefined_of_readable h
  exact ⟨_, by rw [outcome, hb]; rfl⟩

theorem outcome_of_not_readable (h : ¬ m.Readable) : m.outcome = .error .offTape := by
  rw [outcome, isUndefined, currentRule_of_not_readable h]
  rfl

/-- An answer was given, and the machine that is left was walked to. -/
def Walks {α : Type} (m : Machine σ) (r : Except Fault α × Machine σ) : Prop :=
  ∃ a n, r.1 = .ok a ∧ Walk m n r.2

theorem walks_refl {α : Type} {r : Except Fault α} (h : ∃ a, r = .ok a) : m.Walks (r, m) := by
  obtain ⟨a, ha⟩ := h
  exact ⟨a, 0, ha, .refl⟩

theorem Walks.map {α β : Type} {r : Except Fault α × Machine σ} (h : m.Walks r) (f : α → β) :
    m.Walks (r.1.map f, r.2) := by
  obtain ⟨a, n, ha, hw⟩ := h
  exact ⟨f a, n, by rw [ha]; rfl, hw⟩

theorem advance_walks (h : m.Readable) : m.Walks m.advance := by
  unfold advance
  rcases step_of_readable h with hs | ⟨next, hs, -⟩
  · rw [hs]
    exact walks_refl ⟨false, rfl⟩
  · rw [hs]
    exact ⟨true, 1, rfl, .step hs .refl⟩

theorem advanceMany_walks (count : Nat) (h : m.Readable) : m.Walks (advanceMany count m) := by
  induction count generalizing m with
  | zero => exact walks_refl ⟨_, rfl⟩
  | succ count ih =>
    obtain ⟨flag, n, hflag, hw⟩ := advance_walks h
    obtain ⟨flags, l, hflags, hw'⟩ := ih (hw.readable h)
    unfold advanceMany
    generalize m.advance = r at hflag hw hflags hw'
    obtain ⟨_, k⟩ := r
    cases hflag
    exact ⟨flag :: flags, n + l, by simp [hflags, Except.map], hw.trans hw'⟩

theorem run_walks (limit : Option Int) (budget : Nat) (h : m.Readable) :
    m.Walks (run limit budget m) := by
  induction budget generalizing m with
  | zero =>
    obtain ⟨b, hb⟩ := finished_of_readable h
    exact walks_refl ⟨_, by rw [hb]; rfl⟩
  | succ budget ih =>
    obtain ⟨done, hdone⟩ := finished_of_readable h
    rw [run, hdone]
    cases done with
    | true => exact walks_refl ⟨_, rfl⟩
    | false =>
      dsimp only
      split
      · exact walks_refl ⟨_, rfl⟩
      · rcases step_of_readable h with hs | ⟨next, hs, hnext⟩
        · rw [hs]
          exact walks_refl ⟨_, rfl⟩
        · obtain ⟨stop, n, hstop, hw⟩ := ih hnext
          rw [hs]
          exact ⟨stop, n + 1, hstop, .step hs hw⟩

theorem settle_walks (fuel : Nat) (h : m.Readable) : m.Walks (settle fuel m) := by
  induction fuel generalizing m with
  | zero => exact walks_refl ⟨_, rfl⟩
  | succ fuel ih =>
    obtain ⟨done, hdone⟩ := finished_of_readable h
    rw [settle, hdone]
    cases done with
    | true => exact walks_refl ⟨_, rfl⟩
    | false =>
      rcases step_of_readable h with hs | ⟨next, hs, hnext⟩
      · rw [hs]
        exact walks_refl ⟨_, rfl⟩
      · obtain ⟨settled, n, hsettled, hw⟩ := ih hnext
        rw [hs]
        exact ⟨settled, n + 1, hsettled, .step hs hw⟩

theorem reportAfter_eq {o : Outcome} {s : Status} {limit : Int} (ho : m.outcome = .ok o)
    (hs : m.status limit = .ok s) :
    m.reportAfter limit = .ok ⟨m.steps, s, o.value?, m.tape.values, m.current⟩ := by
  rw [reportAfter, ho, hs]
  rfl

theorem reportAfter_of_readable (limit : Int) (h : m.Readable) :
    ∃ r, m.reportAfter limit = .ok r := by
  obtain ⟨o, ho⟩ := outcome_of_readable h
  obtain ⟨done, hf⟩ := finished_of_readable h
  obtain ⟨undefined, hu⟩ := isUndefined_of_readable h
  exact ⟨_, reportAfter_eq ho (status_eq hf hu limit)⟩

/-- Commands that set a part of the machine; the others let it step or ask it something. -/
def Sets : Command → Prop
  | .reset | .resetVisits | .addRule _ | .setHead _ | .setState _ => True
  | _ => False

theorem Walks.thenAsk {α β : Type} {r : Except Fault α × Machine σ}
    {question : Machine σ → Except Fault β}
    (h : m.Walks r) (hm : m.Readable) (hq : ∀ k : Machine σ, k.Readable → ∃ b, question k = .ok b) :
    m.Walks (thenAsk r question) := by
  obtain ⟨a, n, ha, hw⟩ := h
  obtain ⟨_, k⟩ := r
  cases ha
  obtain ⟨b, hb⟩ := hq k (hw.readable hm)
  exact ⟨b, n, hb, hw⟩

theorem perform_walks (h : m.Readable) (hc : ¬ Sets c) : m.Walks (m.perform c) := by
  have hrule : ∃ r, m.currentRule = .ok r := by
    obtain ⟨b, hb⟩ := h
    exact ⟨_, currentRule_eq hb⟩
  have hsymbol : ∃ b, m.symbol = .ok b := by
    obtain ⟨b, hb⟩ := h
    exact ⟨b, by rw [symbol, hb]⟩
  have houtcome : ∀ k : Machine σ, k.Readable →
      ∃ a, k.outcome.map (Answer.outcome (σ := σ)) = .ok a := by
    intro k hk
    obtain ⟨o, ho⟩ := outcome_of_readable hk
    exact ⟨.outcome o, by rw [ho]; rfl⟩
  cases c with
  | step => exact (advance_walks h).map Answer.flag
  | steps count => exact (advanceMany_walks count h).map Answer.flags
  | run maxSteps limit => exact (run_walks limit maxSteps.toNat h).thenAsk h houtcome
  | settle fuel => exact (settle_walks fuel h).map _
  | report maxSteps limit =>
    have hr := (run_walks (some limit) maxSteps.toNat h).thenAsk h fun k =>
      reportAfter_of_readable limit
    exact hr.map Answer.report
  | symbol => exact (walks_refl hsymbol).map Answer.cell
  | currentRule => exact (walks_refl hrule).map Answer.rule
  | isUndefined => exact (walks_refl (isUndefined_of_readable h)).map Answer.flag
  | finished => exact (walks_refl (finished_of_readable h)).map Answer.flag
  | outcome => exact walks_refl (houtcome m h)
  | isLooping | ones | values | render | chart => exact walks_refl ⟨_, rfl⟩
  | reset | resetVisits | addRule | setHead | setState => exact (hc trivial).elim

theorem answers_of_readable (h : m.Readable) (c : Command) : ∃ a, (m.perform c).1 = .ok a := by
  by_cases hc : Sets c
  · cases c <;> first | exact ⟨.done, rfl⟩ | exact hc.elim
  · obtain ⟨a, _, ha, _⟩ := perform_walks h hc
    exact ⟨a, ha⟩

/-- The commands that read the cell under the head; being finished is a question about the cell only
in a final state that was entered from itself. -/
def Reads (m : Machine σ) : Command → Prop
  | .step | .run .. | .report .. | .symbol | .currentRule | .isUndefined | .outcome => True
  | .steps count => 0 < count
  | .settle fuel => 0 < fuel
  | .finished => m.isFinal m.current = true ∧ m.previous = some m.current
  | _ => False

theorem run_of_not_readable (limit : Option Int) (budget : Nat) (h : ¬ m.Readable) :
    (run limit budget m).2 = m := by
  cases budget with
  | zero => rfl
  | succ budget =>
    rw [run, finished_of_not_readable h, step_of_not_readable h]
    by_cases hf : (m.isFinal m.current && m.previous == some m.current) = true
    · rw [if_pos hf]
    · rw [if_neg hf]
      dsimp only
      split <;> rfl

theorem settle_of_not_readable (fuel : Nat) (h : ¬ m.Readable) :
    settle (fuel + 1) m = (.error .offTape, m) := by
  rw [settle, finished_of_not_readable h, step_of_not_readable h]
  by_cases hf : (m.isFinal m.current && m.previous == some m.current) = true
  · rw [if_pos hf]
  · rw [if_neg hf]

/-- Where there is no cell, a command that reads fails and leaves the machine as it was. -/
theorem perform_of_not_readable (h : ¬ m.Readable) (hc : m.Reads c) :
    m.perform c = (.error .offTape, m) := by
  have hsymbol := symbol?_of_not_readable h
  have hrule := currentRule_of_not_readable h
  have hstep := step_of_not_readable h
  cases c with
  | step => simp [perform, advance, hstep, Except.map]
  | steps count =>
    obtain ⟨n, rfl⟩ := Nat.exists_eq_succ_of_ne_zero (Nat.pos_iff_ne_zero.mp hc)
    simp [perform, advanceMany, advance, hstep, Except.map]
  | run maxSteps limit =>
    refine thenAsk_of_fault (run_of_not_readable limit maxSteps.toNat h) ?_
    rw [outcome_of_not_readable h]
    rfl
  | settle fuel =>
    obtain ⟨n, rfl⟩ := Nat.exists_eq_succ_of_ne_zero (Nat.pos_iff_ne_zero.mp hc)
    simp [perform, settle_of_not_readable n h, Except.map]
  | report maxSteps limit =>
    have hrep : m.reportAfter limit = .error .offTape := by
      rw [reportAfter, outcome_of_not_readable h]
      rfl
    have hr := thenAsk_of_fault (run_of_not_readable (some limit) maxSteps.toNat h) hrep
    simp only [perform, report, hr, Except.map]
  | symbol => simp [perform, symbol, hsymbol, Except.map]
  | currentRule => simp [perform, hrule, Except.map]
  | isUndefined => simp [perform, isUndefined, hrule, Except.map]
  | outcome => simp [perform, outcome_of_not_readable h, Except.map]
  | finished =>
    obtain ⟨hf, hp⟩ := hc
    simp [perform, finished_of_not_readable h, hf, hp, Except.map]
  | reset | resetVisits | addRule | setHead | setState | isLooping | ones | values | render
  | chart => exact hc.elim

/-- A command that reads no cell answers wherever the head is. -/
theorem answers_of_not_reads (hc : ¬ m.Reads c) : ∃ a, (m.perform c).1 = .ok a := by
  cases c with
  | step | run | report | symbol | currentRule | isUndefined | outcome => exact (hc trivial).elim
  | steps count =>
    obtain rfl : count = 0 := Nat.eq_zero_of_not_pos hc
    exact ⟨_, rfl⟩
  | settle fuel =>
    obtain rfl : fuel = 0 := Nat.eq_zero_of_not_pos hc
    exact ⟨_, rfl⟩
  | finished =>
    have hf : m.finished = .ok false := by
      rw [finished, if_neg]
      simpa [Reads] using hc
    exact ⟨.flag false, by rw [perform, hf]; rfl⟩
  | reset | resetVisits | addRule | setHead | setState | isLooping | ones | values | render
  | chart => exact ⟨_, rfl⟩

theorem perform_of_not_reads (hs : ¬ Sets c) (hc : ¬ m.Reads c) : (m.perform c).2 = m := by
  cases c with
  | step | run | report | symbol | currentRule | isUndefined | outcome => exact (hc trivial).elim
  | steps count | settle fuel =>
    obtain rfl := Nat.eq_zero_of_not_pos hc
    rfl
  | reset | resetVisits | addRule | setHead | setState => exact (hs trivial).elim
  | finished | isLooping | ones | values | render | chart => rfl

/-- A command that sets no part of a machine walks, be it that it takes no step. -/
theorem walk_of_perform (hc : ¬ Sets c) (m : Machine σ) : ∃ n, Walk m n (m.perform c).2 := by
  by_cases hm : m.Readable
  · obtain ⟨_, n, _, hw⟩ := perform_walks hm hc
    exact ⟨n, hw⟩
  · have hsame : (m.perform c).2 = m := by
      by_cases hr : m.Reads c
      · rw [perform_of_not_readable hm hr]
      · exact perform_of_not_reads hc hr
    exact ⟨0, hsame.symm ▸ .refl⟩

/-- What every command of a kind keeps is kept by sessions of such commands. -/
theorem performAll_keeps {P : Machine σ → Prop} {Q : Command → Prop} {cs : List Command}
    (hkeeps : ∀ (k : Machine σ) (c : Command), P k → Q c → P (k.perform c).2) (hm : P m)
    (hcs : ∀ c ∈ cs, Q c) : P (m.performAll cs) := by
  induction cs generalizing m with
  | nil => exact hm
  | cons c cs ih =>
    obtain ⟨hc, hmore⟩ := List.forall_mem_cons.mp hcs
    exact ih (hkeeps m c hm hc) hmore

/-- A command that fails leaves the machine as it was: after the first step nothing can fail. -/
theorem perform_of_error {e : Fault} (h : (m.perform c).1 = .error e) : (m.perform c).2 = m := by
  by_cases hm : m.Readable
  · obtain ⟨a, ha⟩ := answers_of_readable hm c
    rw [ha] at h
    cases h
  · by_cases hc : m.Reads c
    · rw [perform_of_not_readable hm hc]
    · obtain ⟨a, ha⟩ := answers_of_not_reads hc
      rw [ha] at h
      cases h

/-- The machine after so many steps. -/
def after (m : Machine σ) (n : Nat) : Machine σ := m.performAll (List.replicate n .step)

@[simp] theorem after_zero (m : Machine σ) : m.after 0 = m := rfl

theorem after_succ (m : Machine σ) (n : Nat) : m.after (n + 1) = ((m.after n).perform .step).2 := by
  simp [after, performAll, List.replicate_succ']

theorem perform_step {b : σ} {r : Rule σ} (hb : m.tape.symbol? = some b)
    (hr : m.ruleFor m.current b = some r) : m.perform .step = (.ok (.flag true), m.apply r) := by
  simp [perform, advance, step_eq hb, hr, Except.map]

theorem perform_step_none {b : σ} (hb : m.tape.symbol? = some b)
    (hr : m.ruleFor m.current b = none) : m.perform .step = (.ok (.flag false), m) := by
  simp [perform, advance, step_eq hb, hr, Except.map]

theorem after_succ_left (m : Machine σ) (n : Nat) : m.after (n + 1) = (m.perform .step).2.after n :=
  rfl

theorem perform_of_step (h : m.step = .ok (some k)) : m.perform .step = (.ok (.flag true), k) := by
  simp [perform, advance, h, Except.map]

theorem step_of_perform (h : m.perform .step = (.ok (.flag true), k)) : m.step = .ok (some k) := by
  unfold perform advance at h
  cases hs : m.step with
  | error e => simp [hs, Except.map] at h
  | ok next => cases next <;> simp_all [Except.map]

theorem Walk.after_eq (h : Walk m n k) : m.after n = k := by
  induction h with
  | refl => rfl
  | step hs _ ih => rw [after_succ_left, perform_of_step hs, ih]

end TapeMachine.Machine
