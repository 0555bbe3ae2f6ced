import TapeMachine.Proofs.Dialogues
import TapeMachine.Proofs.Finished

/-!
When a dialogue asks whether to go on: a rule applies, and the last step has entered a state as
often as the limit allows. That step may also have finished the machine, and then it is asked all
the same.
-/
namespace TapeMachine

namespace Visits

variable {v : Visits} {limit : Int} {s : String}

theorem count_lt_of_not_reaches (hl : 1 ≤ limit) (h : v.reaches limit = false) (s : String) :
    (v.count s : Int) < limit := by
  by_cases hs : 0 < v.count s
  · simp only [reaches, List.any_eq_false, decide_eq_true_eq] at h
    have hlt := h _ (mem_of_count_pos hs)
    exact Int.not_le.mp hlt
  · omega

/-- If one more entry reaches the limit, it is an entry of the state that reaches it. -/
theorem le_count_bump (h : v.reaches limit = false) (hb : (v.bump s).reaches limit = true) :
    limit ≤ (v.bump s).count s := by
  induction v with
  | nil => simpa [bump, reaches, count] using hb
  | cons x xs ih =>
    simp only [reaches, List.any_cons, Bool.or_eq_false_iff] at h
    rw [bump] at hb ⊢
    split at hb
    · next hx =>
      simp only [reaches, List.any_cons, h.2, Bool.or_false, decide_eq_true_eq] at hb
      simpa [hx, count] using hb
    · next hx =>
      simp only [reaches, List.any_cons, h.1, Bool.false_or] at hb
      simpa [hx, count] using ih h.2 hb

theorem count_bump_eq (hl : 1 ≤ limit) (h : v.reaches limit = false)
    (hb : (v.bump s).reaches limit = true) : ((v.bump s).count s : Int) = limit := by
  have hle := le_count_bump h hb
  have hlt := count_lt_of_not_reaches hl h s
  rw [count_bump, if_pos rfl] at hle ⊢
  omega

end Visits

namespace Machine

variable {start m k next : Machine} {limit : Int} {n : Nat} {confirms : List Bool}
  {choices : List Choice} {events : List DialogueEvent} {f : String}

/-- A machine comes up in a dialogue: by steps of runs within the limit, and by clearing the
counters. -/
inductive ComesUp (limit : Int) (start : Machine) : Machine → Prop
  | start : ComesUp limit start start
  | step {m next : Machine} :
      ComesUp limit start m → m.GoesOn (some limit) next → ComesUp limit start next
  | cleared {m : Machine} : ComesUp limit start m → ComesUp limit start m.resetVisits

theorem ComesUp.proceeds (h : ComesUp limit start m) (hp : Proceeds (some limit) m n k) :
    ComesUp limit start k := by
  induction hp with
  | refl => exact h
  | step hn _ ih => exact ih (.step h hn)

/-- A machine seems to loop only just after a step. -/
theorem ComesUp.entered (h : ComesUp limit start k) (hs : start.visits = [])
    (hl : k.isLooping limit = true) : ∃ m, ComesUp limit start m ∧ m.GoesOn (some limit) k := by
  cases h with
  | start => simp [isLooping, hs, Visits.reaches] at hl
  | step hm hn => exact ⟨_, hm, hn⟩
  | cleared _ => cases hl

/-- What a dialogue asks about: a machine with a rule that applies, which seems to loop. -/
structure Suspected (limit : Int) (start k : Machine) : Prop where
  comesUp : ComesUp limit start k
  defined : k.isUndefined = .ok false
  looping : k.isLooping limit = true

/-- No turn is taken from a machine that seems to loop: the counters are cleared before. -/
theorem Converses.suspected (h : Converses limit m confirms choices events next) (hm : m.Readable)
    (ht : m.Tallied) (hl : m.isLooping limit = false) (hs : ComesUp limit start m) :
    ∀ k, .confirmation k ∈ events → Suspected limit start k := by
  induction h with
  | finished | quit | stuck => simp
  | @denied _ next _ _ _ hturns hu hlooping _ =>
    obtain ⟨n, -, hwithin⟩ := hturns.proceeds hm ht
    have hp := hwithin hl
    intro k hk
    obtain rfl : k = next := by simpa using hk
    exact ⟨hs.proceeds hp, hu, hlooping⟩
  | @confirmed _ next _ _ _ _ events hturns hu hlooping _ ih =>
    obtain ⟨n, -, hwithin⟩ := hturns.proceeds hm ht
    have hp := hwithin hl
    have hnext := hs.proceeds hp
    have hreadable : next.resetVisits.Readable := hp.walk.readable hm
    intro k hk
    obtain rfl | hk : k = next ∨ .confirmation k ∈ events := by simpa using hk
    · exact ⟨hnext, hu, hlooping⟩
    · exact ih hreadable (tallied_of_none rfl) rfl hnext.cleared k hk
  | turn hturns _ hpatient _ ih =>
    obtain ⟨n, -, hwithin⟩ := hturns.proceeds hm ht
    have hp := hwithin hl
    intro k hk
    refine ih (hp.walk.readable hm) (tallied_proceeds ht hp) hpatient (hs.proceeds hp) k ?_
    simpa using hk

/-- The state that a suspected machine has entered with its last step is the one that reaches the
limit. -/
theorem Suspected.count_eq (h : Suspected limit start k) (hs : start.visits = []) (hl : 1 ≤ limit) :
    (k.visits.count k.current : Int) = limit ∧
      ∀ s, s ≠ k.current → (k.visits.count s : Int) < limit := by
  obtain ⟨m, -, hn⟩ := h.comesUp.entered hs h.looping
  have hpatient : m.visits.reaches limit = false := hn.patient
  have hlooping := h.looping
  rw [isLooping, visits_step hn.step] at hlooping
  rw [visits_step hn.step]
  refine ⟨Visits.count_bump_eq hl hpatient hlooping, ?_⟩
  intro s hs
  rw [Visits.count_bump, if_neg (Ne.symm hs)]
  exact Visits.count_lt_of_not_reaches hl hpatient s

/-- In a final state without rules of its own a machine stays, and it enters that state twice at
most: then it is finished. -/
structure Ruleless (f : String) (m : Machine) : Prop where
  final : m.isFinal f = true
  free : ∀ r ∈ m.table, r.source ≠ f
  away : m.current ≠ f → m.visits.count f = 0
  arrived : m.previous ≠ some f → m.visits.count f ≤ 1
  twice : m.visits.count f ≤ 2

theorem Ruleless.ruleFor (h : m.Ruleless f) (b : Bool) : m.ruleFor f b = some (.rest f b) := by
  have hnone : m.table.find? f b = none := by
    cases hfind : m.table.find? f b with
    | none => rfl
    | some r =>
      have hkey := Table.key_of_find? hfind
      exact (h.free r (Table.mem_of_find? hfind) (congrArg Prod.fst hkey)).elim
  rw [Machine.ruleFor, hnone, h.final]
  rfl

/-- Where it is not finished yet it has only just come into that state. -/
theorem Ruleless.previous_ne {b : Bool} (h : m.Ruleless f) (hf : m.current = f)
    (hb : m.tape.symbol? = some b) (hunfinished : m.finished = .ok false) :
    m.previous ≠ some f := by
  subst hf
  intro hprevious
  have hrule : m.currentRule = .ok (some (.rest m.current b)) := by
    rw [currentRule_eq hb, h.ruleFor]
  have hrest : m.AtRest := ⟨h.final, _, hrule, Rule.isIdle_rest m.current b⟩
  rw [finished_iff.mpr ⟨hrest, hprevious⟩] at hunfinished
  cases hunfinished

theorem Ruleless.step (h : m.Ruleless f) (hn : m.GoesOn (some limit) next) : next.Ruleless f := by
  obtain ⟨b, r, hb, hr, rfl⟩ := step_cases hn.step
  by_cases hf : m.current = f
  · rw [hf, h.ruleFor] at hr
    obtain rfl := Option.some.inj hr
    have hcount := h.arrived (h.previous_ne hf hb hn.unfinished)
    have hnext : (m.apply (.rest f b)).visits.count f = m.visits.count f + 1 := by
      simp [apply, Visits.count_bump, Rule.rest]
    exact ⟨h.final, h.free, fun hne => (hne rfl).elim, fun hne => (hne (congrArg some hf)).elim,
      by omega⟩
  · have hcount := h.away hf
    have hnext : (m.apply r).visits.count f = if r.target = f then 1 else 0 := by
      simp [apply, Visits.count_bump, hcount]
    have honce : (m.apply r).visits.count f ≤ 1 := by
      rw [hnext]
      split <;> omega
    exact ⟨h.final, h.free, fun hne => hnext.trans (if_neg hne), fun _ => honce, by omega⟩

theorem Ruleless.comesUp (h : start.Ruleless f) (hm : ComesUp limit start m) : m.Ruleless f := by
  induction hm with
  | start => exact h
  | step _ hn ih => exact ih.step hn
  | cleared _ ih => exact ⟨ih.final, ih.free, fun _ => rfl, fun _ => Nat.zero_le 1, Nat.zero_le 2⟩

theorem ruleless_of_untouched (h : m.Untouched) (hf : m.isFinal f = true)
    (hfree : ∀ r ∈ m.table, r.source ≠ f) : m.Ruleless f := by
  refine ⟨hf, hfree, ?_, ?_, ?_⟩ <;> simp [h.visits]

theorem ComesUp.finals_eq (h : ComesUp limit start m) : m.finals = start.finals := by
  induction h with
  | start => rfl
  | step _ hn ih =>
    obtain ⟨_, _, -, -, rfl⟩ := step_cases hn.step
    exact ih
  | cleared _ ih => exact ih

/-- A suspected machine has finished only if two entries of a state are enough to be suspected, or a
rule of the table starts from its final state. -/
theorem Suspected.of_finished (h : Suspected limit start k) (hs : start.Untouched) (hl : 1 ≤ limit)
    (hf : k.finished = .ok true) :
    limit ≤ 2 ∨ ∃ r ∈ start.table, r.source = k.current ∧ start.isFinal r.source = true := by
  obtain ⟨⟨hfinal, -⟩, -⟩ := finished_iff.mp hf
  rw [isFinal, h.comesUp.finals_eq] at hfinal
  by_contra hne
  obtain ⟨hlimit, hnone⟩ := not_or.mp hne
  have hfree : ∀ r ∈ start.table, r.source ≠ k.current := by
    intro r hr hsource
    exact hnone ⟨r, hr, hsource, hsource ▸ hfinal⟩
  have htwice := ((ruleless_of_untouched hs hfinal hfree).comesUp h.comesUp).twice
  have hcount := (h.count_eq hs.visits hl).1
  omega

/-- A dialogue with a machine as it was made asks only about machines that a rule applies to, when
their last step has entered a state for as many times as the limit allows, and no other state was
entered as often. A report on such a machine calls it a loop, unless that step has finished it as
well. It can have finished it only if the limit is no more than two, or if a rule starts from its
final state. -/
theorem confirmation_at_limit (h : m.Made) (hl : 1 ≤ limit) (confirms : List Bool)
    (choices : List Choice) : ∃ events, m.dialogue limit confirms choices = .ok events ∧
      ∀ k, .confirmation k ∈ events → k.isUndefined = .ok false ∧
        ((k.visits.count k.current : Int) = limit ∧
          ∀ s, s ≠ k.current → (k.visits.count s : Int) < limit) ∧
        (k.finished = .ok false ∧ k.status limit = .ok .loop ∨
          k.finished = .ok true ∧ k.status limit = .ok .finished ∧
            (limit ≤ 2 ∨ ∃ r ∈ m.table, r.source = k.current ∧ m.isFinal r.source = true)) := by
  have huntouched := untouched_of_made h
  have hm := readable_of_inside huntouched.roomy.inside
  have ht := tallied_of_none huntouched.visits
  have hpatient : m.isLooping limit = false := by
    rw [isLooping, huntouched.visits]
    rfl
  obtain ⟨events, last, o, hevents, -, hconverses⟩ := exists_converses limit confirms choices hm ht
  refine ⟨.screen m :: (events ++ [.result last o]), by rw [dialogue, hevents]; rfl, ?_⟩
  intro k hk
  have hmem : DialogueEvent.confirmation k ∈ events := by simpa using hk
  have hsuspected := hconverses.suspected hm ht hpatient .start k hmem
  refine ⟨hsuspected.defined, hsuspected.count_eq huntouched.visits hl, ?_⟩
  obtain ⟨p, -, hn⟩ := hsuspected.comesUp.entered huntouched.visits hsuspected.looping
  obtain ⟨done, hdone⟩ := finished_of_readable (readable_of_inside (roomy_of_step hn.step).inside)
  have hstatus := status_eq hdone hsuspected.defined limit
  rw [hsuspected.looping] at hstatus
  cases done with
  | true => exact .inr ⟨hdone, hstatus, hsuspected.of_finished huntouched hl hdone⟩
  | false => exact .inl ⟨hdone, hstatus⟩

/-- The last step of the run enters the state for the third time. -/
theorem confirmation_at_limit_sweeper : sweeper.Made ∧ (1 : Int) ≤ 3 ∧
    ∃ events k, sweeper.dialogue 3 [true] [.run, .run] = .ok events ∧ .confirmation k ∈ events ∧
      (k.visits.count k.current : Int) = 3 ∧ k.status 3 = .ok .loop := by
  have hmade : sweeper.Made := .loaded _ _ _ _
  obtain ⟨events, hevents, hasks⟩ := confirmation_at_limit hmade (by decide : (1 : Int) ≤ 3) [true]
    [.run, .run]
  have hasked : (sweeper.dialogue 3 [true] [.run, .run]).map (asked .confirmation) =
      .ok 1 := by decide
  rw [hevents] at hasked
  have hpos : 0 < asked .confirmation events := by
    rw [Except.ok.inj hasked]
    exact Nat.one_pos
  obtain ⟨e, he, hquestion⟩ := List.countP_pos_iff.mp hpos
  cases e with
  | confirmation k =>
    obtain ⟨-, ⟨hcount, -⟩, ⟨-, hstatus⟩ | ⟨-, -, hfew | hrule⟩⟩ := hasks k he
    · exact ⟨hmade, by decide, events, k, hevents, he, hcount, hstatus⟩
    · exact absurd hfew (by decide)
    · obtain ⟨r, hr, -, hfinal⟩ := hrule
      have hnone : ∀ r ∈ sweeper.table, sweeper.isFinal r.source = false := by decide
      rw [hnone r hr] at hfinal
      cases hfinal
  | _ => cases hquestion

/-- A machine that comes into its final state with the first step. -/
def arriving : Machine := (load [true] "q0" ["qf"] []).addRules [⟨"q0", 1, 1, .right, "qf"⟩]

/-- The second step finishes it, and enters its final state for the second time. -/
theorem confirmation_of_finished : arriving.Made ∧
    ∃ events k, arriving.dialogue 2 [] [.step, .step] = .ok events ∧ .confirmation k ∈ events ∧
      k.finished = .ok true ∧ k.status 2 = .ok .finished := by
  refine ⟨.loaded _ _ _ _, _, arriving.after 2, rfl, ?_, by decide, by decide⟩
  exact .tail _ (.tail _ (.tail _ (.tail _ (.tail _ (.head _)))))

end Machine

end TapeMachine
