import TapeMachine.Chart
import TapeMachine.Run

/-!
Sessions: commands given to a machine one after the other. A command that reads where no cell is
fails; what it did to the machine before that stays done.
-/
namespace TapeMachine

inductive Command where
  | step
  /-- The given number of steps, each answering whether a rule applied. -/
  | steps (count : Nat)
  | run (maxSteps : Int) (limit : Option Int)
  /-- Steps until the machine is finished or stuck, at most as often as the fuel allows. -/
  | settle (fuel : Nat)
  | report (maxSteps limit : Int)
  | reset
  | resetVisits
  | addRule (rule : Rule Int)
  | setHead (index : Int)
  | setState (state : String)
  | symbol
  | currentRule
  | isUndefined
  | finished
  | isLooping (limit : Int)
  | outcome
  | ones
  | values
  | render (window : Option Int)
  | chart
  deriving Repr

inductive Answer (σ : Type := Bool) where
  | done
  | flag (b : Bool)
  | flags (bs : List Bool)
  | cell (b : σ)
  | count (n : Nat)
  | numbers (ns : List Nat)
  | rule (r : Option (Rule σ))
  | outcome (o : Outcome)
  /-- Steps in all and ones on the tape; none when the fuel gave out. -/
  | settled (r : Option (Nat × Nat))
  | report (r : Report)
  | text (s : String)
  deriving DecidableEq, Repr

namespace Machine

variable {σ : Type} [DecidableEq σ] [Symbol σ]

/-- One step, with whether a rule applied. -/
def advance (m : Machine σ) : Except Fault Bool × Machine σ :=
  match m.step with
  | .error e => (.error e, m)
  | .ok none => (.ok false, m)
  | .ok (some next) => (.ok true, next)

/-- The given number of steps, each with whether a rule applied. -/
def advanceMany : Nat → Machine σ → Except Fault (List Bool) × Machine σ
  | 0, m => (.ok [], m)
  | n + 1, m =>
    match m.advance with
    | (.error e, m) => (.error e, m)
    | (.ok flag, m) =>
      let (flags, m) := advanceMany n m
      (flags.map (flag :: ·), m)

/-- What a command answers and the machine it leaves, also where it fails. -/
def perform (m : Machine σ) : Command → Except Fault (Answer σ) × Machine σ
  | .step => let (flag, m) := m.advance; (flag.map .flag, m)
  | .steps count => let (flags, m) := m.advanceMany count; (flags.map .flags, m)
  | .run maxSteps limit => thenAsk (m.run limit maxSteps.toNat) (·.outcome.map .outcome)
  | .settle fuel =>
    let (settled, m) := m.settle fuel
    (settled.map fun b => .settled (if b then some (m.steps, m.tape.ones) else none), m)
  | .report maxSteps limit => let (r, m) := m.report maxSteps limit; (r.map .report, m)
  | .reset => (.ok .done, m.reset)
  | .resetVisits => (.ok .done, m.resetVisits)
  | .addRule rule => (.ok .done, m.addRule rule)
  | .setHead index => (.ok .done, m.setHead index)
  | .setState state => (.ok .done, m.setState state)
  | .symbol => (m.symbol.map .cell, m)
  | .currentRule => (m.currentRule.map .rule, m)
  | .isUndefined => (m.isUndefined.map .flag, m)
  | .finished => (m.finished.map .flag, m)
  | .isLooping limit => (.ok (.flag (m.isLooping limit)), m)
  | .outcome => (m.outcome.map .outcome, m)
  | .ones => (.ok (.count m.tape.ones), m)
  | .values => (.ok (.numbers m.tape.values), m)
  | .render window => (.ok (.text (m.tape.render window)), m)
  | .chart => (.ok (.text m.chart), m)

/-- The machine after a list of commands. -/
def performAll (m : Machine σ) (cs : List Command) : Machine σ :=
  cs.foldl (fun m c => (m.perform c).2) m

@[simp] theorem performAll_nil (m : Machine σ) : m.performAll [] = m := rfl

@[simp] theorem performAll_cons (m : Machine σ) (c : Command) (cs : List Command) :
    m.performAll (c :: cs) = (m.perform c).2.performAll cs := rfl

end Machine

end TapeMachine
