import Mathlib.Data.List.DropRight
import Mathlib.Data.List.Induction
import Mathlib.Data.List.Nodup
import TapeMachine.Proofs.Margin

/-! What the counters of a machine tell about a session: its steps, and the states they led to. -/
namespace TapeMachine

namespace Visits

variable {v : Visits} {s t : String} {n : Nat}

/-- The counts of states that are entered one after the other. -/
def tally (states : List String) : Visits := states.foldl (fun v s => v.bump s) []

theorem tally_concat (states : List String) (s : String) :
    tally (states ++ [s]) = (tally states).bump s := List.foldl_append

theorem count_tally (states : List String) (s : String) :
    count s (tally states) = states.count s := by
  induction states using List.reverseRecOn with
  | nil => rfl
  | append_singleton states t ih =>
    rw [tally_concat, count_bump, ih, List.count_append, List.count_singleton]
    by_cases h : t = s <;> simp [h]

theorem total_tally (states : List String) : total (tally states) = states.length := by
  induction states using List.reverseRecOn with
  | nil => rfl
  | append_singleton states s ih =>
    rw [tally_concat, total_bump, ih, List.length_append, List.length_singleton]

theorem keys_bump (s : String) (v : Visits) : (v.bump s).map Prod.fst =
    if s ∈ v.map Prod.fst then v.map Prod.fst else v.map Prod.fst ++ [s] := by
  induction v with
  | nil => simp [bump]
  | cons x xs ih => grind [bump]

theorem nodup_keys_tally (states : List String) : ((tally states).map Prod.fst).Nodup := by
  induction states using List.reverseRecOn with
  | nil => exact List.nodup_nil
  | append_singleton states s ih =>
    rw [tally_concat, keys_bump]
    split
    · exact ih
    · next hs => exact List.concat_eq_append ▸ List.Nodup.concat hs ih

theorem count_of_mem (h : (v.map Prod.fst).Nodup) (hm : (s, n) ∈ v) : count s v = n := by
  induction v with
  | nil => cases hm
  | cons x xs ih =>
    obtain ⟨hx, hxs⟩ := List.nodup_cons.mp h
    rcases List.mem_cons.mp hm with rfl | hm
    · simp [count]
    · have hne : x.1 ≠ s := by
        rintro rfl
        exact hx (List.mem_map.mpr ⟨_, hm, rfl⟩)
      simpa [count, hne] using ih hxs hm

theorem mem_of_count_pos (h : 0 < count s v) : (s, count s v) ∈ v := by
  induction v with
  | nil => cases h
  | cons x xs ih =>
    obtain ⟨t, n⟩ := x
    by_cases ht : t = s
    · simp [count, ht]
    · simp only [count, if_neg ht] at h ⊢
      exact List.mem_cons_of_mem _ (ih h)

theorem mem_keys_tally {states : List String} : s ∈ (tally states).map Prod.fst ↔ s ∈ states := by
  induction states using List.reverseRecOn with
  | nil => simp [tally]
  | append_singleton states t ih =>
    rw [tally_concat, keys_bump]
    split <;> grind

/-- On record are the states that were entered, each with how often. -/
theorem mem_tally {states : List String} : (s, n) ∈ tally states ↔
    s ∈ states ∧ n = states.count s := by
  constructor
  · intro h
    refine ⟨mem_keys_tally.mp (List.mem_map_of_mem h), ?_⟩
    rw [← count_tally, count_of_mem (nodup_keys_tally states) h]
  · rintro ⟨hs, rfl⟩
    rw [← count_tally]
    exact mem_of_count_pos (by rwa [count_tally, List.count_pos_iff])

/-- A limit is reached when some state on record was entered so often. -/
theorem reaches_tally_iff {limit : Int} {states : List String} :
    (tally states).reaches limit = true ↔ ∃ s ∈ states, limit ≤ states.count s := by
  simp [reaches, mem_tally]

theorem reaches_tally {limit : Int} (h : 1 ≤ limit) (states : List String) :
    (tally states).reaches limit = true ↔ ∃ s, limit ≤ states.count s := by
  rw [reaches_tally_iff]
  constructor
  · rintro ⟨s, -, hs⟩
    exact ⟨s, hs⟩
  · rintro ⟨s, hs⟩
    exact ⟨s, List.count_pos_iff.mp (by omega), hs⟩

end Visits

/-- What happens in a session as far as it counts. -/
inductive Event where
  /-- A step led to a state. -/
  | entered (state : String)
  | reset
  | resetVisits
  deriving DecidableEq, Repr

namespace Event

def state? : Event → Option String
  | entered s => some s
  | _ => none

/-- The states that steps led to after the last one of some events. -/
def statesSince (clears : List Event) (events : List Event) : List String :=
  (events.rtakeWhile fun e => !clears.contains e).filterMap state?

theorem statesSince_concat (clears events : List Event) (e : Event) :
    statesSince clears (events ++ [e]) =
      if e ∈ clears then [] else statesSince clears events ++ e.state?.toList := by
  rw [statesSince, List.rtakeWhile_concat]
  by_cases h : e ∈ clears
  · simp [h]
  · cases he : e.state? <;> simp [h, he, statesSince]

end Event

namespace Machine

variable {σ : Type} {m k : Machine σ} {c : Command} {cs : List Command} {states : List String}
  {events : List Event}

/-- The counters of a machine agree with what happened. -/
structure Tells (m : Machine σ) (events : List Event) : Prop where
  /-- The steps are those since the last reset. -/
  steps : m.steps = (Event.statesSince [.reset] events).length
  /-- The entries of a state are those since the counters were last cleared. -/
  visits : ∀ s, m.visits.count s = (Event.statesSince [.reset, .resetVisits] events).count s
  /-- All entries together are as many as the steps since then. -/
  total : m.visits.total = (Event.statesSince [.reset, .resetVisits] events).length
  /-- The machine seems to loop when some state was entered so often since then. -/
  looping : ∀ limit : Int, 1 ≤ limit → (m.isLooping limit = true ↔
    ∃ s, limit ≤ (Event.statesSince [.reset, .resetVisits] events).count s)

/-- The counters are those of a history. -/
def Counted (m : Machine σ) (events : List Event) : Prop :=
  m.steps = (Event.statesSince [.reset] events).length ∧
    m.visits = .tally (Event.statesSince [.reset, .resetVisits] events)

theorem Counted.tells (h : m.Counted events) : m.Tells events where
  steps := h.1
  visits s := by rw [h.2, Visits.count_tally]
  total := by rw [h.2, Visits.total_tally]
  looping limit hlimit := by rw [isLooping, h.2, Visits.reaches_tally hlimit]

variable [DecidableEq σ] [Symbol σ]

/-- A machine goes on to another by steps, each with a rule that applies, which lead to some
states. -/
inductive Trail : Machine σ → List String → Machine σ → Prop
  | refl {m : Machine σ} : Trail m [] m
  | step {m next k : Machine σ} {states : List String} :
      m.step = .ok (some next) → Trail next states k → Trail m (next.current :: states) k

/-- What counts of a command: it clears counters, or takes steps. Giving the machine a rule, a head
or a state does not count. -/
inductive Does (m : Machine σ) : Command → List Event → Prop
  | reset : Does m .reset [.reset]
  | resetVisits : Does m .resetVisits [.resetVisits]
  | addRule {rule : Rule Int} : Does m (.addRule rule) []
  | setHead {index : Int} : Does m (.setHead index) []
  | setState {state : String} : Does m (.setState state) []
  | steps {c : Command} {states : List String} :
      ¬ Sets c → Trail m states (m.perform c).2 → Does m c (states.map .entered)

/-- What counts of the commands of a session, one after the other. -/
inductive History : Machine σ → List Command → List Event → Prop
  | nil {m : Machine σ} : History m [] []
  | cons {m : Machine σ} {c : Command} {cs : List Command} {events more : List Event} :
      Does m c events → History (m.perform c).2 cs more → History m (c :: cs) (events ++ more)

theorem counted_step (h : m.Counted events) (hs : m.step = .ok (some k)) :
    k.Counted (events ++ [.entered k.current]) := by
  obtain ⟨_, r, -, -, rfl⟩ := step_cases hs
  obtain ⟨hsteps, hvisits⟩ := h
  refine ⟨?_, ?_⟩
  · rw [Event.statesSince_concat, if_neg (by simp), List.length_append, ← hsteps]
    rfl
  · rw [Event.statesSince_concat, if_neg (by simp)]
    exact (congrArg (·.bump r.target) hvisits).trans (Visits.tally_concat _ _).symm

theorem counted_trail (h : m.Counted events) (ht : m.Trail states k) :
    k.Counted (events ++ states.map .entered) := by
  induction ht generalizing events with
  | refl => simpa using h
  | step hs _ ih =>
    have hk := ih (counted_step h hs)
    rwa [List.append_assoc] at hk

theorem visits_addRule (m : Machine σ) (r : Rule Int) : (m.addRule r).visits = m.visits := by
  unfold addRule
  split <;> rfl

theorem counted_addRule (h : m.Counted events) (r : Rule Int) : (m.addRule r).Counted events := by
  rwa [Counted, steps_addRule, visits_addRule]

theorem counted_does {more : List Event} (h : m.Counted events) (hc : m.Does c more) :
    (m.perform c).2.Counted (events ++ more) := by
  cases hc with
  | reset =>
    refine ⟨?_, ?_⟩
    · rw [Event.statesSince_concat, if_pos (by simp)]
      rfl
    · rw [Event.statesSince_concat, if_pos (by simp)]
      rfl
  | resetVisits =>
    refine ⟨?_, ?_⟩
    · rw [Event.statesSince_concat, if_neg (by simp)]
      simpa [Event.state?, perform, resetVisits] using h.1
    · rw [Event.statesSince_concat, if_pos (by simp)]
      rfl
  | addRule =>
    rw [List.append_nil]
    exact counted_addRule h _
  | setHead | setState =>
    rw [List.append_nil]
    exact h
  | steps _ ht => exact counted_trail h ht

theorem counted_history {more : List Event} (h : m.Counted events) (hcs : m.History cs more) :
    (m.performAll cs).Counted (events ++ more) := by
  induction hcs generalizing events with
  | nil => rwa [List.append_nil]
  | cons hc _ ih =>
    have hk := ih (counted_does h hc)
    rwa [List.append_assoc] at hk

theorem counted_of_made (h : m.Made) : m.Counted [] :=
  ⟨(untouched_of_made h).steps, (untouched_of_made h).visits⟩

theorem Walk.exists_trail {n : Nat} (h : Walk m n k) : ∃ states, m.Trail states k := by
  induction h with
  | refl => exact ⟨[], .refl⟩
  | step hs _ ih =>
    obtain ⟨states, ht⟩ := ih
    exact ⟨_, .step hs ht⟩

theorem Trail.walk (h : m.Trail states k) : Walk m states.length k := by
  induction h with
  | refl => exact .refl
  | step hs _ ih => exact .step hs ih

theorem visits_step (h : m.step = .ok (some k)) : k.visits = m.visits.bump k.current := by
  obtain ⟨_, r, -, -, rfl⟩ := step_cases h
  rfl

/-- The counters go on from the states that were entered before. -/
theorem Trail.visits_eq {earlier : List String} (h : m.Trail states k)
    (hm : m.visits = .tally earlier) : k.visits = .tally (earlier ++ states) := by
  induction h generalizing earlier with
  | refl => rwa [List.append_nil]
  | @step m next k states hs _ ih =>
    have hnext : next.visits = .tally (earlier ++ [next.current]) := by
      rw [visits_step hs, hm, Visits.tally_concat]
    rw [ih hnext, List.append_assoc, List.singleton_append]

theorem exists_trail_after (m : Machine σ) (n : Nat) : ∃ states, m.Trail states (m.after n) := by
  induction n generalizing m with
  | zero => exact ⟨[], .refl⟩
  | succ n ih =>
    rw [after_succ_left]
    -- a step that fails, or finds no rule, leaves the machine as it was
    cases hs : m.step with
    | error e => simpa [perform, advance, hs] using ih m
    | ok next =>
      cases next with
      | none => simpa [perform, advance, hs] using ih m
      | some next =>
        obtain ⟨states, ht⟩ := ih next
        rw [perform_of_step hs]
        exact ⟨_, .step hs ht⟩

/-- Steps are counted, so no machine comes back to itself. -/
theorem Trail.eq {others : List String} (h : m.Trail states k) (g : m.Trail others k) :
    states = others := by
  induction h generalizing others with
  | refl =>
    have hn := g.walk.steps_eq
    exact (List.length_eq_zero_iff.mp (by omega)).symm
  | @step m next k states hs ht ih =>
    cases g with
    | refl =>
      have hn := (Trail.step hs ht).walk.steps_eq
      rw [List.length_cons] at hn
      omega
    | step hs' ht' =>
      rw [hs] at hs'
      cases hs'
      rw [ih ht']

theorem Does.eq {others : List Event} (h : m.Does c events) (g : m.Does c others) :
    events = others := by
  cases h with
  | steps hc ht =>
    cases g with
    | steps _ ht' => rw [ht.eq ht']
    | _ => exact (hc trivial).elim
  | _ =>
    cases g with
    | steps hc => exact (hc trivial).elim
    | _ => rfl

theorem History.eq {others : List Event} (h : m.History cs events) (g : m.History cs others) :
    events = others := by
  induction h generalizing others with
  | nil =>
    cases g
    rfl
  | cons hc _ ih =>
    cases g with
    | cons hc' hcs' => rw [hc.eq hc', ih hcs']

theorem exists_does (m : Machine σ) (c : Command) : ∃ events, m.Does c events := by
  by_cases hc : Sets c
  · cases c with
    | reset => exact ⟨_, .reset⟩
    | resetVisits => exact ⟨_, .resetVisits⟩
    | addRule => exact ⟨_, .addRule⟩
    | setHead => exact ⟨_, .setHead⟩
    | setState => exact ⟨_, .setState⟩
    | _ => exact hc.elim
  · obtain ⟨_, hw⟩ := walk_of_perform hc m
    obtain ⟨states, ht⟩ := hw.exists_trail
    exact ⟨_, .steps hc ht⟩

theorem exists_history (m : Machine σ) (cs : List Command) : ∃ events, m.History cs events := by
  induction cs generalizing m with
  | nil => exact ⟨[], .nil⟩
  | cons c cs ih =>
    obtain ⟨events, hc⟩ := exists_does m c
    obtain ⟨more, hcs⟩ := ih (m.perform c).2
    exact ⟨events ++ more, .cons hc hcs⟩

/-- A command that fails has taken no step. -/
theorem does_of_error {e : Fault} (h : (m.perform c).1 = .error e) : m.Does c [] := by
  have hc : ¬ Sets c := by
    intro hc
    cases c <;> first | exact hc.elim | cases h
  have hnone : m.Trail [] (m.perform c).2 := (perform_of_error h).symm ▸ .refl
  exact .steps hc hnone

theorem History.concat {more : List Event} (h : m.History cs events)
    (hc : (m.performAll cs).Does c more) : m.History (cs ++ [c]) (events ++ more) := by
  induction h with
  | nil => simpa using History.cons hc .nil
  | cons hd _ ih =>
    rw [List.append_assoc]
    exact .cons hd (ih hc)

/-- From a session one can tell what happened, and the counters tell the same: the steps since the
last reset, and for each state how often it was entered since the counters were cleared. A command
that fails adds nothing. -/
theorem session_counts {m : Machine Int} (h : m.Made) (cs : List Command) :
    (∃! events, m.History cs events) ∧ ∀ events, m.History cs events →
      (m.performAll cs).Tells events ∧
      ∀ c e, ((m.performAll cs).perform c).1 = .error e → m.History (cs ++ [c]) events := by
  obtain ⟨events, hevents⟩ := exists_history m cs
  refine ⟨⟨events, hevents, fun _ hothers => hothers.eq hevents⟩, fun events hevents => ⟨?_, ?_⟩⟩
  · exact (counted_history (counted_of_made h) hevents).tells
  · intro c e he
    simpa using hevents.concat (does_of_error he)

/-- A machine that goes to and fro for ever. -/
def pingPong (σ : Type) [DecidableEq σ] [Symbol σ] : Machine σ :=
  (load [Symbol.one] "q0" ["q9"] []).addRules
    [⟨"q0", 1, 1, .right, "q1"⟩, ⟨"q1", 0, 0, .left, "q0"⟩]

/-- Steps, of which three are forgotten, and a head that is set where no step can be taken. -/
def toAndFro : List Command := [.run 3 none, .resetVisits, .steps 2, .setHead 99]

theorem session_counts_toAndFro : (pingPong Int).Made ∧
    ∃ events, (pingPong Int).History toAndFro events ∧
    (Event.statesSince [.reset] events).length = 5 ∧
    (Event.statesSince [.reset, .resetVisits] events).count "q1" = 1 ∧
    (pingPong Int).History (toAndFro ++ [.step]) events := by
  have hmade : (pingPong Int).Made := .loaded _ _ _ _
  obtain ⟨⟨events, hevents, -⟩, hcounts⟩ := session_counts hmade toAndFro
  obtain ⟨htells, hfails⟩ := hcounts events hevents
  refine ⟨hmade, events, hevents, ?_, ?_, hfails .step .offTape (by decide)⟩
  · rw [← htells.steps]
    decide
  · rw [← htells.visits]
    decide

end Machine

end TapeMachine
