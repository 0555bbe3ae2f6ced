import TapeMachine.Proofs.Patience

/-!
Dialogues take the steps of one run: whatever is answered, no step is left out, made twice, or made
after the first stop. A dialogue that the answers do not break off ends where the machine settles.
-/
namespace TapeMachine.Machine

variable {start m k next : Machine} {limit : Int} {n : Nat} {confirms : List Bool}
  {choices : List Choice} {events : List DialogueEvent} {o : Outcome}

theorem finished_of_agrees (h : m.resetVisits = k.resetVisits) : m.finished = k.finished := by
  change m.resetVisits.finished = k.resetVisits.finished
  rw [h]

theorem isUndefined_of_agrees (h : m.resetVisits = k.resetVisits) :
    m.isUndefined = k.isUndefined := by
  change m.resetVisits.isUndefined = k.resetVisits.isUndefined
  rw [h]

theorem outcome_of_agrees (h : m.resetVisits = k.resetVisits) : m.outcome = k.outcome := by
  change m.resetVisits.outcome = k.resetVisits.outcome
  rw [h]

theorem step_of_agrees (h : m.resetVisits = k.resetVisits) (hs : m.step = .ok (some next)) :
    ∃ other, k.step = .ok (some other) ∧ next.resetVisits = other.resetVisits := by
  obtain ⟨b, r, hb, hr, rfl⟩ := step_cases hs
  change m.resetVisits.tape.symbol? = some b at hb
  change m.resetVisits.ruleFor m.resetVisits.current b = some r at hr
  rw [h] at hb hr
  refine ⟨k.apply r, ?_, ?_⟩
  · change k.ruleFor k.current b = some r at hr
    rw [step_eq (m := k) hb, hr]
    rfl
  · change (m.resetVisits.apply r).resetVisits = (k.resetVisits.apply r).resetVisits
    rw [h]

theorem Proceeds.without_limit {limit : Option Int} (h : Proceeds limit m n k) :
    Proceeds none m n k := by
  induction h with
  | refl => exact .refl
  | step hn _ ih => exact .step ⟨hn.unfinished, rfl, hn.step⟩ ih

/-- A machine goes on to another, apart from how often states were entered. -/
def Reaches (m k : Machine) : Prop := ∃ n l, Proceeds none m n l ∧ l.resetVisits = k.resetVisits

theorem reaches_refl (m : Machine) : m.Reaches m := ⟨0, m, .refl, rfl⟩

theorem Reaches.proceeds (h : start.Reaches m) (hp : Proceeds none m n k) : start.Reaches k := by
  induction hp with
  | refl => exact h
  | step hn _ ih =>
    obtain ⟨_, l, hl, hagrees⟩ := h
    obtain ⟨other, hother, hnext⟩ := step_of_agrees hagrees.symm hn.step
    have hgoes : l.GoesOn none other :=
      ⟨(finished_of_agrees hagrees).trans hn.unfinished, rfl, hother⟩
    exact ih ⟨_, other, hl.concat hgoes, hnext.symm⟩

/-- A turn takes steps that a run would take, within the limit too as long as it does not seem to
loop. -/
theorem turn_proceeds {c : Choice} (hm : m.Readable) (ht : m.Tallied) (hf : m.finished = .ok false)
    (hc : c ≠ .quit) : ∃ n next, m.turn limit c = .ok next ∧ Proceeds none m n next ∧
      (m.isLooping limit = false → Proceeds (some limit) m n next) := by
  cases c with
  | quit => exact (hc rfl).elim
  | step =>
    rcases step_of_readable hm with hs | ⟨next, hs, -⟩
    · refine ⟨0, m, ?_, .refl, fun _ => .refl⟩
      simp only [turn, hs, Except.map, Option.getD_none]
    · refine ⟨1, next, ?_, .step ⟨hf, rfl, hs⟩ .refl, fun hl => .step ⟨hf, hl, hs⟩ .refl⟩
      simp only [turn, hs, Except.map, Option.getD_some]
  | run =>
    obtain ⟨n, next, hturn, hp, -⟩ := turn_run limit hm ht
    exact ⟨n, next, hturn, hp.without_limit, fun _ => hp⟩

theorem closing_eq (h : m.outcome = .ok o) : m.closing = .ok [.result m o] := by
  rw [closing, h]
  rfl

theorem converse_of_finished (h : m.finished = .ok true) :
    m.converse limit confirms choices = m.closing := by
  cases choices <;> rw [converse, h] <;> rfl

/-- Without a further choice, or with the choice to quit, a dialogue ends. -/
theorem converse_of_quit (h : m.finished = .ok false) (ho : m.outcome = .ok o)
    (hc : choices.head?.getD .quit = .quit) :
    m.converse limit confirms choices = .ok [.choice m, .result m o] := by
  cases choices with
  | nil =>
    rw [converse, h, closing_eq ho]
    rfl
  | cons c cs =>
    obtain rfl : c = .quit := hc
    rw [converse, h, closing_eq ho]
    rfl

section Turn

variable {c : Choice} {cs : List Choice}

theorem converse_of_stuck {b : Bool} (h : m.finished = .ok false) (hc : c ≠ .quit)
    (hturn : m.turn limit c = .ok next) (hu : next.isUndefined = .ok true)
    (hb : next.symbol = .ok b) (ho : next.outcome = .ok o) :
    m.converse limit confirms (c :: cs) =
      .ok [.choice m, .screen next, .stuck next b, .result next o] := by
  rw [converse, h, hturn]
  simp [hc, hu, hb, closing_eq ho, bind, Except.bind, pure, Except.pure]

theorem converse_of_denied (h : m.finished = .ok false) (hc : c ≠ .quit)
    (hturn : m.turn limit c = .ok next) (hu : next.isUndefined = .ok false)
    (hl : next.isLooping limit = true) (ho : next.outcome = .ok o)
    (hconfirms : confirms.head? ≠ some true) :
    m.converse limit confirms (c :: cs) =
      .ok [.choice m, .screen next, .confirmation next, .result next o] := by
  rw [converse, h, hturn]
  match confirms, hconfirms with
  | [], _ | false :: _, _ =>
    simp [hc, hu, hl, closing_eq ho, bind, Except.bind, pure, Except.pure]
  | true :: _, hconfirms => exact (hconfirms rfl).elim

theorem converse_of_confirmed (h : m.finished = .ok false) (hc : c ≠ .quit)
    (hturn : m.turn limit c = .ok next) (hu : next.isUndefined = .ok false)
    (hl : next.isLooping limit = true)
    (hrest : next.resetVisits.converse limit confirms cs = .ok events) :
    m.converse limit (true :: confirms) (c :: cs) =
      .ok (.choice m :: .screen next :: .confirmation next :: events) := by
  rw [converse, h, hturn]
  simp [hc, hu, hl, hrest, bind, Except.bind, pure, Except.pure]

theorem converse_of_turn (h : m.finished = .ok false) (hc : c ≠ .quit)
    (hturn : m.turn limit c = .ok next) (hu : next.isUndefined = .ok false)
    (hl : next.isLooping limit = false) (hrest : next.converse limit confirms cs = .ok events) :
    m.converse limit confirms (c :: cs) = .ok (.choice m :: .screen next :: events) := by
  rw [converse, h, hturn]
  simp [hc, hu, hl, hrest, bind, Except.bind, pure, Except.pure]

end Turn

/-- How often a question is asked. -/
def asked (q : Question) (events : List DialogueEvent) : Nat :=
  events.countP fun e => e.question? = some q

/-- The answers do not break a dialogue off: each choice that is asked for is made, and not to quit,
and each confirmation is given. -/
structure Unbroken (confirms : List Bool) (choices : List Choice) (events : List DialogueEvent) :
    Prop where
  chosen : ∀ i < asked .choice events, ∃ c, choices[i]? = some c ∧ c ≠ .quit
  confirmed : ∀ i < asked .confirmation events, confirms[i]? = some true

theorem Unbroken.shown (h : Unbroken confirms choices (.screen m :: events)) :
    Unbroken confirms choices events where
  chosen i hi := h.chosen i (by simpa [asked, DialogueEvent.question?] using hi)
  confirmed i hi := h.confirmed i (by simpa [asked, DialogueEvent.question?] using hi)

theorem Unbroken.rest {c : Choice} {p q : Machine}
    (h : Unbroken confirms (c :: choices) (.choice p :: .screen q :: events)) :
    Unbroken confirms choices events where
  chosen i hi := h.chosen (i + 1) (by simpa [asked, DialogueEvent.question?] using hi)
  confirmed i hi := h.confirmed i (by simpa [asked, DialogueEvent.question?] using hi)

theorem Unbroken.granted {b : Bool}
    (h : Unbroken (b :: confirms) choices (.confirmation m :: events)) :
    Unbroken confirms choices events where
  chosen i hi := h.chosen i (by simpa [asked, DialogueEvent.question?] using hi)
  confirmed i hi := h.confirmed (i + 1) (by simpa [asked, DialogueEvent.question?] using hi)

/-- What a dialogue comes to that began with the machine `start`: its events before the result, and
the machine that it leaves. -/
structure Leads (limit : Int) (start : Machine) (confirms : List Bool) (choices : List Choice)
    (events : List DialogueEvent) (k : Machine) : Prop where
  reaches : start.Reaches k
  asks : ∀ p, .choice p ∈ events → p.Readable ∧ p.Tallied
  through : Unbroken confirms choices events → k.finished = .ok true ∨ k.isUndefined = .ok true

theorem leads_of_turn {c : Choice} (h : Leads limit start confirms choices events k)
    (hm : m.Readable) (ht : m.Tallied) :
    Leads limit start confirms (c :: choices) (.choice m :: .screen next :: events) k where
  reaches := h.reaches
  asks p hp := by
    simp only [List.mem_cons, DialogueEvent.choice.injEq, reduceCtorEq, false_or] at hp
    rcases hp with rfl | hp
    · exact ⟨hm, ht⟩
    · exact h.asks p hp
  through hb := h.through hb.rest

theorem leads_of_granted (h : Leads limit start confirms choices events k) :
    Leads limit start (true :: confirms) choices (.confirmation m :: events) k where
  reaches := h.reaches
  asks p hp := h.asks p (by simpa using hp)
  through hb := h.through hb.granted

theorem leads_of_over (hs : start.Reaches k)
    (hk : k.finished = .ok true ∨ k.isUndefined = .ok true)
    (hno : ∀ p, .choice p ∉ events) : Leads limit start confirms choices events k where
  reaches := hs
  asks p hp := (hno p hp).elim
  through _ := hk

theorem leads_of_quit (hs : start.Reaches m) (hm : m.Readable) (ht : m.Tallied)
    (hc : choices.head?.getD .quit = .quit) :
    Leads limit start confirms choices [.choice m] m where
  reaches := hs
  asks p hp := by
    obtain rfl : p = m := by simpa using hp
    exact ⟨hm, ht⟩
  through hb := by
    obtain ⟨c, hfirst, hquit⟩ := hb.chosen 0 (by simp [asked, DialogueEvent.question?])
    rw [List.head?_eq_getElem?, hfirst] at hc
    exact (hquit hc).elim

theorem leads_of_denied (hs : start.Reaches k) (hconfirms : confirms.head? ≠ some true) :
    Leads limit start confirms choices [.confirmation m] k where
  reaches := hs
  asks p hp := by simp at hp
  through hb := by
    have hfirst := hb.confirmed 0 (by simp [asked, DialogueEvent.question?])
    rw [← List.head?_eq_getElem?] at hfirst
    exact (hconfirms hfirst).elim

/-- A turn in a dialogue: it is taken only if the machine is not finished. -/
structure Turns (limit : Int) (c : Choice) (m next : Machine) : Prop where
  unfinished : m.finished = .ok false
  chosen : c ≠ .quit
  turn : m.turn limit c = .ok next

theorem Turns.proceeds {c : Choice} (h : Turns limit c m next) (hm : m.Readable) (ht : m.Tallied) :
    ∃ n, Proceeds none m n next ∧ (m.isLooping limit = false → Proceeds (some limit) m n next) := by
  obtain ⟨n, other, hturn, hp⟩ := turn_proceeds hm ht h.unfinished h.chosen
  obtain rfl := Except.ok.inj (hturn.symm.trans h.turn)
  exact ⟨n, hp⟩

/-- How a dialogue goes: its events before the result, and the machine that it leaves. -/
inductive Converses (limit : Int) :
    Machine → List Bool → List Choice → List DialogueEvent → Machine → Prop
  | finished {m : Machine} {confirms : List Bool} {choices : List Choice} :
      m.finished = .ok true → Converses limit m confirms choices [] m
  | quit {m : Machine} {confirms : List Bool} {choices : List Choice} :
      m.finished = .ok false → choices.head?.getD .quit = .quit →
      Converses limit m confirms choices [.choice m] m
  | stuck {m next : Machine} {confirms : List Bool} {c : Choice} {cs : List Choice} {b : Bool} :
      Turns limit c m next → next.isUndefined = .ok true → next.symbol = .ok b →
      Converses limit m confirms (c :: cs) [.choice m, .screen next, .stuck next b] next
  | denied {m next : Machine} {confirms : List Bool} {c : Choice} {cs : List Choice} :
      Turns limit c m next → next.isUndefined = .ok false → next.isLooping limit = true →
      confirms.head? ≠ some true →
      Converses limit m confirms (c :: cs) [.choice m, .screen next, .confirmation next] next
  | confirmed {m next k : Machine} {confirms : List Bool} {c : Choice} {cs : List Choice}
      {events : List DialogueEvent} :
      Turns limit c m next → next.isUndefined = .ok false → next.isLooping limit = true →
      Converses limit next.resetVisits confirms cs events k →
      Converses limit m (true :: confirms) (c :: cs)
        (.choice m :: .screen next :: .confirmation next :: events) k
  | turn {m next k : Machine} {confirms : List Bool} {c : Choice} {cs : List Choice}
      {events : List DialogueEvent} :
      Turns limit c m next → next.isUndefined = .ok false → next.isLooping limit = false →
      Converses limit next confirms cs events k →
      Converses limit m confirms (c :: cs) (.choice m :: .screen next :: events) k

/-- However it is answered, a dialogue comes to its result. -/
theorem exists_converses (limit : Int) (confirms : List Bool) (choices : List Choice)
    (hm : m.Readable) (ht : m.Tallied) :
    ∃ events k o, m.converse limit confirms choices = .ok (events ++ [.result k o]) ∧
      k.outcome = .ok o ∧ Converses limit m confirms choices events k := by
  induction choices generalizing m confirms with
  | nil =>
    obtain ⟨o, ho⟩ := outcome_of_readable hm
    obtain ⟨done, hdone⟩ := finished_of_readable hm
    cases done with
    | true =>
      exact ⟨[], m, o, (converse_of_finished hdone).trans (closing_eq ho), ho, .finished hdone⟩
    | false => exact ⟨[.choice m], m, o, converse_of_quit hdone ho rfl, ho, .quit hdone rfl⟩
  | cons c cs ih =>
    obtain ⟨o, ho⟩ := outcome_of_readable hm
    obtain ⟨done, hdone⟩ := finished_of_readable hm
    cases done with
    | true =>
      exact ⟨[], m, o, (converse_of_finished hdone).trans (closing_eq ho), ho, .finished hdone⟩
    | false =>
      by_cases hc : c = .quit
      · exact ⟨[.choice m], m, o, converse_of_quit hdone ho hc, ho, .quit hdone hc⟩
      obtain ⟨n, next, hturn, hp, -⟩ := turn_proceeds hm ht hdone hc
      have hturns : Turns limit c m next := ⟨hdone, hc, hturn⟩
      have hnext := hp.walk.readable hm
      have htallied := tallied_proceeds ht hp
      obtain ⟨o, ho⟩ := outcome_of_readable hnext
      obtain ⟨undefined, hu⟩ := isUndefined_of_readable hnext
      cases undefined with
      | true =>
        obtain ⟨b, hb⟩ := hnext
        have hsymbol : next.symbol = .ok b := by rw [symbol, hb]
        exact ⟨[.choice m, .screen next, .stuck next b], next, o,
          converse_of_stuck hdone hc hturn hu hsymbol ho, ho, .stuck hturns hu hsymbol⟩
      | false =>
        cases hl : next.isLooping limit with
        | false =>
          obtain ⟨events, k, o, hrest, ho, hk⟩ := ih confirms hnext htallied
          exact ⟨_, k, o, converse_of_turn hdone hc hturn hu hl hrest, ho, .turn hturns hu hl hk⟩
        | true =>
          by_cases hconfirms : confirms.head? = some true
          · obtain ⟨confirms, rfl⟩ := List.head?_eq_some_iff.mp hconfirms
            obtain ⟨events, k, o, hrest, ho, hk⟩ :=
              ih confirms (m := next.resetVisits) hnext (tallied_of_none rfl)
            exact ⟨_, k, o, converse_of_confirmed hdone hc hturn hu hl hrest, ho,
              .confirmed hturns hu hl hk⟩
          · exact ⟨[.choice m, .screen next, .confirmation next], next, o,
              converse_of_denied hdone hc hturn hu hl ho hconfirms, ho,
              .denied hturns hu hl hconfirms⟩

/-- The turns of a dialogue lead on from the machine that it began with. -/
theorem Converses.leads (h : Converses limit m confirms choices events k) (hm : m.Readable)
    (ht : m.Tallied) (hs : start.Reaches m) : Leads limit start confirms choices events k := by
  induction h with
  | finished hf => exact leads_of_over hs (.inl hf) (by simp)
  | quit _ hc => exact leads_of_quit hs hm ht hc
  | stuck hturns hu _ =>
    obtain ⟨n, hp, -⟩ := hturns.proceeds hm ht
    exact leads_of_turn (leads_of_over (hs.proceeds hp) (.inr hu) (by simp)) hm ht
  | denied hturns _ _ hconfirms =>
    obtain ⟨n, hp, -⟩ := hturns.proceeds hm ht
    exact leads_of_turn (leads_of_denied (hs.proceeds hp) hconfirms) hm ht
  | @confirmed m next _ _ _ _ _ hturns _ _ _ ih =>
    obtain ⟨n, hp, -⟩ := hturns.proceeds hm ht
    have hreadable : next.resetVisits.Readable := hp.walk.readable hm
    have hreaches : start.Reaches next := hs.proceeds hp
    exact leads_of_turn (leads_of_granted (ih hreadable (tallied_of_none rfl) hreaches)) hm ht
  | turn hturns _ _ _ ih =>
    obtain ⟨n, hp, -⟩ := hturns.proceeds hm ht
    exact leads_of_turn (ih (hp.walk.readable hm) (tallied_proceeds ht hp) (hs.proceeds hp)) hm ht

theorem converse_leads (limit : Int) (confirms : List Bool) (choices : List Choice)
    (hm : m.Readable) (ht : m.Tallied) (hs : start.Reaches m) :
    ∃ events k o, m.converse limit confirms choices = .ok (events ++ [.result k o]) ∧
      k.outcome = .ok o ∧ Leads limit start confirms choices events k := by
  obtain ⟨events, k, o, hevents, ho, hc⟩ := exists_converses limit confirms choices hm ht
  exact ⟨events, k, o, hevents, ho, hc.leads hm ht hs⟩

/-- On the way of a run no machine is finished or without a rule. -/
theorem Proceeds.unfinished {limit : Option Int} (h : Proceeds limit m n k) :
    ∀ i < n, (m.after i).finished = .ok false ∧ (m.after i).isUndefined = .ok false := by
  intro i hi
  have hn := h.goesOn i hi
  exact ⟨hn.unfinished, isUndefined_of_step hn.step⟩

/-- A dialogue with a fresh machine always comes to a result, whatever is answered. The machine it
leaves is, apart from how often states were entered, the one after as many steps as it counts, none
of them from a machine that is finished or stuck; each turn that runs goes on until the machine is
finished, stuck, or seems to loop. Unless the answers break the dialogue off, its machine is
finished or stuck, and steps, outcome and values are those of the fresh machine once it has
settled. -/
theorem dialogue_runs_through (h : m.Made) (limit : Int) (confirms : List Bool)
    (choices : List Choice) :
    ∃ events k o, m.dialogue limit confirms choices = .ok (events ++ [.result k o]) ∧
      k.outcome = .ok o ∧ k.resetVisits = (m.after k.steps).resetVisits ∧
      (∀ i < k.steps, (m.after i).finished = .ok false ∧ (m.after i).isUndefined = .ok false) ∧
      (∀ p, .choice p ∈ events → ∃ n q, p.turn limit .run = .ok q ∧
        Proceeds (some limit) p n q ∧ q.Rests (some limit)) ∧
      (Unbroken confirms choices events → (k.finished = .ok true ∨ k.isUndefined = .ok true) ∧
        ∃ fuel last, m.perform (.settle fuel) =
            (.ok (.settled (some (k.steps, last.tape.ones))), last) ∧
          last.outcome = .ok o ∧ last.tape.values = k.tape.values) := by
  obtain ⟨hroomy, hsteps, hvisits, -⟩ := untouched_of_made h
  have hm := readable_of_inside hroomy.inside
  obtain ⟨events, k, o, hevents, ho, hk⟩ :=
    converse_leads limit confirms choices hm (tallied_of_none hvisits) (reaches_refl m)
  obtain ⟨n, l, hp, hagrees⟩ := hk.reaches
  have hcount : k.steps = n := by
    calc k.steps = k.resetVisits.steps := rfl
      _ = l.steps := by rw [← hagrees]; rfl
      _ = n := by rw [hp.walk.steps_eq, hsteps, Nat.zero_add]
  subst hcount
  refine ⟨.screen m :: events, k, o, ?_, ho, ?_, hp.unfinished, ?_, ?_⟩
  · rw [dialogue, hevents]
    rfl
  · rw [hp.walk.after_eq, hagrees]
  · intro p hp
    obtain ⟨hp, ht⟩ := hk.asks p (by simpa using hp)
    exact turn_run limit hp ht
  · intro hb
    have hends := hk.through hb.shown
    refine ⟨hends, k.steps + 1, l, ?_, ?_, ?_⟩
    · have hrests : l.Rests none := by
        rcases hends with hf | hu
        · exact .finished ((finished_of_agrees hagrees).trans hf)
        · exact .stuck (isUndefined_iff.mp ((isUndefined_of_agrees hagrees).trans hu))
      have hl := hp.walk.steps_eq
      rw [hsteps, Nat.zero_add] at hl
      rw [perform, settle_of_proceeds hp, settle_of_rests hrests, ← hl]
      rfl
    · rw [outcome_of_agrees hagrees, ho]
    · change l.resetVisits.tape.values = k.resetVisits.tape.values
      rw [hagrees]

theorem asked_result (q : Question) : asked q (events ++ [.result k o]) = asked q events := by
  simp [asked, DialogueEvent.question?]

/-- A machine that goes past the ones to the first blank. -/
def sweeper : Machine :=
  (load [true, true, true, true] "q" ["f"] []).addRules
    [⟨"q", 1, 1, .right, "q"⟩, ⟨"q", 0, 0, .halt, "f"⟩]

/-- Runs that seem to loop again and again, the last one just when the machine has finished. -/
theorem dialogue_runs_through_sweeper : sweeper.Made ∧ ∃ events k o,
    sweeper.dialogue 2 [true, true, true] [.run, .step, .run, .run] =
      .ok (events ++ [.result k o]) ∧
    Unbroken [true, true, true] [.run, .step, .run, .run] events ∧ k.steps = 6 ∧
    ∃ fuel last, sweeper.perform (.settle fuel) =
      (.ok (.settled (some (6, last.tape.ones))), last) ∧ last.outcome = .ok o := by
  have hmade : sweeper.Made := .loaded _ _ _ _
  obtain ⟨events, k, o, hevents, -, -, -, -, hthrough⟩ :=
    dialogue_runs_through hmade 2 [true, true, true] [.run, .step, .run, .run]
  have hasked : ∀ q n, (sweeper.dialogue 2 [true, true, true] [.run, .step, .run, .run]).map
      (asked q) = .ok n → asked q events = n := by
    intro q n hn
    rw [hevents] at hn
    exact (asked_result q).symm.trans (Except.ok.inj hn)
  have hbroken : Unbroken [true, true, true] [.run, .step, .run, .run] events := by
    constructor
    · rw [hasked .choice 4 (by decide)]
      intro i hi
      match i, hi with
      | 0, _ | 1, _ | 2, _ | 3, _ => exact ⟨_, rfl, by decide⟩
    · rw [hasked .confirmation 3 (by decide)]
      decide
  have hsteps : k.steps = 6 := by
    have hcount : (sweeper.dialogue 2 [true, true, true] [.run, .step, .run, .run]).map
        (·.getLast?.map fun | .result k _ => k.steps | _ => 0) = .ok (some 6) := by decide
    rw [hevents] at hcount
    simpa [Except.map] using hcount
  obtain ⟨-, fuel, last, hsettle, hlast, -⟩ := hthrough hbroken
  exact ⟨hmade, events, k, o, hevents, hbroken, hsteps, fuel, last, hsteps ▸ hsettle, hlast⟩

end TapeMachine.Machine
