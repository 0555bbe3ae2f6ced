import TapeMachine.Machine

/-! Runs: steps until the machine is finished, stuck, seems to loop, or has used up its budget. -/
namespace TapeMachine

/-- Why a run ended. -/
inductive Stop where
  | finished
  /-- The step budget is used up. -/
  | spent
  /-- Some state was entered as often as the limit allows. -/
  | looping
  /-- No rule applies. -/
  | stuck
  deriving DecidableEq, Repr

namespace Machine

variable {σ : Type} [DecidableEq σ] [Symbol σ]

/-- Runs for at most `budget` steps; with a limit, stops once a state was entered that often. Where
it fails, the steps before stay taken. -/
def run (limit : Option Int) : Nat → Machine σ → Except Fault Stop × Machine σ
  | 0, m => (m.finished.map fun done => if done then .finished else .spent, m)
  | budget + 1, m =>
    match m.finished with
    | .error e => (.error e, m)
    | .ok true => (.ok .finished, m)
    | .ok false =>
      if limit.any m.isLooping then (.ok .looping, m)
      else match m.step with
        | .error e => (.error e, m)
        | .ok none => (.ok .stuck, m)
        | .ok (some next) => run limit budget next

/-- Steps until the machine is finished or stuck; answers whether `fuel` steps were enough. -/
def settle : Nat → Machine σ → Except Fault Bool × Machine σ
  | 0, m => (.ok false, m)
  | fuel + 1, m =>
    match m.finished with
    | .error e => (.error e, m)
    | .ok true => (.ok true, m)
    | .ok false =>
      match m.step with
      | .error e => (.error e, m)
      | .ok none => (.ok true, m)
      | .ok (some next) => settle fuel next

end Machine

/-- How a run is reported. -/
inductive Status where
  | finished
  | undefined
  | loop
  | timeout
  deriving DecidableEq, Repr

def Status.name : Status → String
  | finished => "finished"
  | undefined => "undefined"
  | loop => "loop"
  | timeout => "timeout"

/-- The report on a run: how it stopped and what the tape held. -/
structure Report where
  steps : Nat
  status : Status
  value : Option Int
  values : List Nat
  state : String
  deriving DecidableEq, Repr

namespace Machine

variable {σ : Type} [DecidableEq σ] [Symbol σ]

/-- Being finished comes first, then having no rule, then the loop limit. -/
def status (limit : Int) (m : Machine σ) : Except Fault Status := do
  if ← m.finished then
    return .finished
  else if ← m.isUndefined then
    return .undefined
  else if m.isLooping limit then
    return .loop
  else
    return .timeout

/-- The report on a machine that has run within a limit. -/
def reportAfter (limit : Int) (m : Machine σ) : Except Fault Report := do
  let outcome ← m.outcome
  let status ← m.status limit
  return ⟨m.steps, status, outcome.value?, m.tape.values, m.current⟩

/-- Asks the machine that is left, unless there was a fault. -/
def thenAsk {α β : Type} (left : Except Fault α × Machine σ)
    (question : Machine σ → Except Fault β) : Except Fault β × Machine σ :=
  match left with
  | (.error e, m) => (.error e, m)
  | (.ok _, m) => (question m, m)

/-- Runs a machine and reports on it; a negative budget allows no step. -/
def report (m : Machine σ) (maxSteps limit : Int) : Except Fault Report × Machine σ :=
  thenAsk (m.run (some limit) maxSteps.toNat) (·.reportAfter limit)

end Machine

end TapeMachine
