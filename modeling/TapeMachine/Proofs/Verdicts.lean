import Mathlib.Order.Bounds.Basic
import TapeMachine.Proofs.Counters
import TapeMachine.Proofs.Stopping

/-!
A run stops at the first machine on its way that is finished or stuck, has used up the budget, or
has entered some state as often as the limit allows; and the report on it names which of these it
was.
-/
namespace TapeMachine.Machine

variable {m k : Machine} {budget wider : Int} {limit looser : Option Int} {earlier : List String}
  {n : Nat} {o : Outcome}

/-- What stops a run after so many steps. -/
inductive Stops (budget : Int) (limit : Option Int) (m : Machine) (n : Nat) : Prop
  | finished : (m.after n).finished = .ok true → Stops budget limit m n
  | spent : budget ≤ n → Stops budget limit m n
  /-- A state is on record, and so often that the limit is reached. -/
  | looping {t : Int} {s : String} : limit = some t → 0 < (m.after n).visits.count s →
      t ≤ (m.after n).visits.count s → Stops budget limit m n
  | stuck : (m.after n).isUndefined = .ok true → Stops budget limit m n

/-- One limit allows whatever the other does; no limit allows everything. -/
def Allows (looser limit : Option Int) : Prop := ∀ t ∈ looser, ∃ l ∈ limit, l ≤ t

theorem isLooping_iff (hk : k.visits = .tally earlier) {t : Int} :
    k.isLooping t = true ↔ ∃ s ∈ earlier, t ≤ earlier.count s := by
  rw [isLooping, hk, Visits.reaches_tally_iff]

theorem any_isLooping_iff (hk : k.visits = .tally earlier) : limit.any k.isLooping = true ↔
    ∃ t s, limit = some t ∧ 0 < k.visits.count s ∧ t ≤ k.visits.count s := by
  simp only [Option.any_eq_true_iff_get, hk, Visits.count_tally, List.count_pos_iff]
  cases limit with
  | none => simp
  | some t => simp [isLooping_iff hk]

theorem stops_iff (hk : (m.after n).visits = .tally earlier) :
    m.Stops budget limit n ↔ budget ≤ n ∨ (m.after n).Rests limit := by
  constructor
  · rintro (hf | hspent | ⟨ht, hs, hle⟩ | hu)
    · exact .inr (.finished hf)
    · exact .inl hspent
    · exact .inr (.looping ((any_isLooping_iff hk).mpr ⟨_, _, ht, hs, hle⟩))
    · exact .inr (.stuck (isUndefined_iff.mp hu))
  · rintro (hspent | hf | hl | hs)
    · exact .spent hspent
    · exact .finished hf
    · obtain ⟨t, s, ht, hs, hle⟩ := (any_isLooping_iff hk).mp hl
      exact .looping ht hs hle
    · exact .stuck (isUndefined_iff.mpr hs)

theorem Stops.mono (h : m.Stops wider looser n) (hb : budget ≤ wider) (hl : Allows looser limit) :
    m.Stops budget limit n := by
  cases h with
  | finished hf => exact .finished hf
  | spent hspent => exact .spent (Int.le_trans hb hspent)
  | looping ht hs hle =>
    obtain ⟨l, hl, hlt⟩ := hl _ ht
    exact .looping hl hs (Int.le_trans hlt hle)
  | stuck hu => exact .stuck hu

/-- A run takes the steps before its first stop, and no other. -/
theorem exists_first_stop (h : m.Readable) (hv : m.visits = .tally earlier) (budget : Int)
    (limit : Option Int) : ∃ n, IsLeast {i | m.Stops budget limit i} n ∧
      Proceeds limit m n (m.after n) ∧ (run limit budget.toNat m).2 = m.after n := by
  obtain ⟨n, hp, hends⟩ := run_proceeds limit budget.toNat h
  have hn : m.after n = (run limit budget.toNat m).2 := hp.walk.after_eq
  rw [← hn] at hp hends ⊢
  have hle : n ≤ budget.toNat := by rcases hends with rfl | ⟨hle, -⟩ <;> omega
  have hstops : ∀ i, m.Stops budget limit i ↔ budget ≤ i ∨ (m.after i).Rests limit := by
    intro i
    obtain ⟨states, ht⟩ := exists_trail_after m i
    exact stops_iff (ht.visits_eq hv)
  refine ⟨n, ⟨?_, ?_⟩, hp, rfl⟩
  · rcases hends with rfl | ⟨-, hr⟩
    · exact .spent (Int.self_le_toNat budget)
    · exact (hstops n).mpr (.inr hr)
  · intro i hi
    by_contra hlt
    rcases (hstops i).mp hi with hspent | hr
    · omega
    · exact (hp.goesOn i (by omega)).not_rests hr

/-- What the status of a report says of the machine that is left, when these are the states that
were entered since its counters were cleared. -/
structure Verdict (limit : Int) (entered : List String) (k : Machine) (r : Report) : Prop where
  finished : r.status = .finished ↔ k.finished = .ok true
  undefined : r.status = .undefined ↔ r.value = none
  loop : r.status = .loop → ∃ s ∈ entered, limit ≤ entered.count s
  timeout : r.status = .timeout → k.finished = .ok false ∧ k.isUndefined = .ok false ∧
    ∀ s ∈ entered, entered.count s < limit

theorem exists_verdict (h : k.Readable) (hv : k.visits = .tally earlier) (ho : k.outcome = .ok o)
    (limit : Int) : ∃ r, k.reportAfter limit = .ok r ∧ r.value = o.value? ∧
      Verdict limit earlier k r := by
  obtain ⟨done, hf⟩ := finished_of_readable h
  have hl := isLooping_iff (t := limit) hv
  rcases outcome_cases ho with ⟨hu, rfl⟩ | ⟨hu, rfl⟩
  · -- no rule applies, so the machine is not finished
    have hunfinished := finished_of_stuck (isUndefined_iff.mp hu)
    refine ⟨_, reportAfter_eq ho (status_eq hunfinished hu limit), rfl, ?_⟩
    constructor <;> simp [hunfinished, Outcome.value?]
  · refine ⟨_, reportAfter_eq ho (status_eq hf hu limit), rfl, ?_⟩
    cases done with
    | true => constructor <;> simp [hf, Outcome.value?]
    | false =>
      cases hlooping : k.isLooping limit with
      | true => constructor <;> simp [hf, Outcome.value?, hl.mp hlooping]
      | false =>
        have hfew : ∀ s ∈ earlier, earlier.count s < limit := by
          intro s hs
          by_contra hge
          rw [hl.mpr ⟨s, hs, by omega⟩] at hlooping
          cases hlooping
        exact ⟨by simp [hf], by simp [Outcome.value?], by simp, fun _ => ⟨hf, hu, hfew⟩⟩

/-- No timeout is reported of a machine where a run comes to rest by itself. -/
theorem Verdict.not_timeout {t : Int} {r : Report} (h : Verdict t earlier k r)
    (hv : k.visits = .tally earlier) (hrests : k.Rests (some t)) : r.status ≠ .timeout := by
  intro htimeout
  obtain ⟨hf, hu, hfew⟩ := h.timeout htimeout
  rcases hrests with hfinished | hl | hs
  · rw [hf] at hfinished
    cases hfinished
  · obtain ⟨s, hs, hle⟩ := (isLooping_iff hv).mp hl
    have hlt := hfew s hs
    omega
  · rw [isUndefined_iff.mpr hs] at hu
    cases hu

/-- A report tells how the run ended, of the machine that the run leaves. -/
theorem exists_report {entered : List String} {t : Int} (h : m.Readable)
    (hv : m.visits = .tally earlier) (ht : m.Trail entered (run (some t) budget.toNat m).2)
    (ho : (run (some t) budget.toNat m).2.outcome = .ok o) :
    ∃ r, m.perform (.report budget t) = (.ok (.report r), (run (some t) budget.toNat m).2) ∧
      r.value = o.value? ∧ Verdict t (earlier ++ entered) (run (some t) budget.toNat m).2 r := by
  obtain ⟨r, hr, hvalue, hverdict⟩ :=
    exists_verdict (ht.walk.readable h) (ht.visits_eq hv) ho t
  refine ⟨r, ?_, hvalue, hverdict⟩
  rw [perform, report, thenAsk_run (some t) budget.toNat h, hr]
  rfl

/-- A run with the head on a cell, whatever states are on record and how often, stops at its first
stop and tells what the tape says there. A report on it names what stopped it: a machine without a
rule is reported as undefined and without a value, a loop is reported only if some state was entered
as often as the limit allows, and a timeout only if nothing else than the budget has stopped the
run. With a larger budget or limit, or none, no run stops earlier. -/
theorem run_stops_first (h : m.tape.Inside) (hv : m.visits = .tally earlier) (budget : Int)
    (limit : Option Int) :
    (∃ n entered o, IsLeast {i | m.Stops budget limit i} n ∧
      m.Trail entered (m.after n) ∧ entered.length = n ∧
      m.perform (.run budget limit) = (.ok (.outcome o), m.after n) ∧
      ((m.after n).isUndefined = .ok true ∧ o = .undefined (m.steps + n) ∨
        (m.after n).isUndefined = .ok false ∧ o = .defined (m.steps + n) (m.after n).tape.ones) ∧
      ∀ t, limit = some t → ∃ r, m.perform (.report budget t) = (.ok (.report r), m.after n) ∧
        r.value = o.value? ∧ Verdict t (earlier ++ entered) (m.after n) r ∧
        (r.status = .timeout → (n : Int) = max budget 0)) ∧
    ∀ wider looser, budget ≤ wider → Allows looser limit →
      (m.perform (.run budget limit)).2.steps ≤ (m.perform (.run wider looser)).2.steps := by
  have hm := readable_of_inside h
  refine ⟨?_, ?_⟩
  · obtain ⟨n, hfirst, hp, hrun⟩ := exists_first_stop hm hv budget limit
    obtain ⟨entered, ht⟩ := hp.walk.exists_trail
    have hk := hp.walk.readable hm
    have hsteps := hp.walk.steps_eq
    have hlength : entered.length = n := by
      have hlen := ht.walk.steps_eq
      omega
    obtain ⟨o, ho⟩ := outcome_of_readable hk
    have houtcome := outcome_cases ho
    rw [hsteps, Int.natCast_add] at houtcome
    refine ⟨n, entered, o, hfirst, ht, hlength, ?_, houtcome, ?_⟩
    · rw [perform_run limit budget hm, hrun, ho]
      rfl
    · rintro t rfl
      obtain ⟨r, hr, hvalue, hverdict⟩ := exists_report hm hv (hrun.symm ▸ ht) (hrun.symm ▸ ho)
      rw [hrun] at hr hverdict
      refine ⟨r, hr, hvalue, hverdict, ?_⟩
      intro htimeout
      have hle : n ≤ budget.toNat := hfirst.2 (.spent (Int.self_le_toNat budget))
      rcases (stops_iff (ht.visits_eq hv)).mp hfirst.1 with hspent | hrests
      · omega
      · exact (hverdict.not_timeout (ht.visits_eq hv) hrests htimeout).elim
  · intro wider looser hwider hlooser
    obtain ⟨n, hfirst, hp, hrun⟩ := exists_first_stop hm hv budget limit
    obtain ⟨i, hlater, hpi, hruni⟩ := exists_first_stop hm hv wider looser
    have hle : n ≤ i := hfirst.2 (hlater.1.mono hwider hlooser)
    rw [perform_run limit budget hm, perform_run looser wider hm, hrun, hruni, hp.walk.steps_eq,
      hpi.walk.steps_eq]
    exact Nat.add_le_add_left hle m.steps

/-- A machine that has gone to and fro for three steps. -/
def midway : Machine := (pingPong Bool).after 3

/-- With its second step it reaches the limit and uses up the budget: this is reported as a loop. -/
theorem run_stops_first_midway : midway.tape.Inside ∧ midway.visits = .tally ["q1", "q0", "q1"] ∧
    IsLeast {i | midway.Stops 2 (some 3) i} 2 ∧
    (∃ r, midway.perform (.report 2 3) = (.ok (.report r), midway.after 2) ∧ r.status = .loop) ∧
    Allows none (some 3) ∧
    (midway.perform (.run 2 (some 3))).2.steps ≤ (midway.perform (.run 9 none)).2.steps := by
  have hinside : midway.tape.Inside := by decide
  have hvisits : midway.visits = .tally ["q1", "q0", "q1"] := by decide
  have hnone : Allows none (some 3) := by
    intro t ht
    cases ht
  obtain ⟨⟨n, entered, o, hfirst, ht, hlength, hrun, -, hreport⟩, hmore⟩ :=
    run_stops_first hinside hvisits 2 (some 3)
  have hfive : (midway.perform (.run 2 (some 3))).2.steps = 5 := by decide
  rw [hrun, ht.walk.steps_eq, hlength] at hfive
  have hthree : midway.steps = 3 := by decide
  obtain rfl : n = 2 := by omega
  obtain ⟨r, hr, -, -, -⟩ := hreport 3 rfl
  have hloop : (midway.perform (.report 2 3)).1 = .ok (.report ⟨5, .loop, some 1, [0], "q1"⟩) := by
    decide
  rw [hr] at hloop
  cases hloop
  exact ⟨hinside, hvisits, hfirst, ⟨_, hr, rfl⟩, hnone, hmore 9 none (by decide) hnone⟩

end TapeMachine.Machine
