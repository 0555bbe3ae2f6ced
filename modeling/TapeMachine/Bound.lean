import TapeMachine.Dialogue

/-!
Bounds of runs as they are given from outside: a number, or left blank. Nothing can be compared with
a blank bound, so a run fails as soon as it would have to be.
-/
namespace TapeMachine

inductive Bound where
  | number (n : Int)
  | blank
  deriving DecidableEq, Repr

instance : Coe Int Bound := ⟨.number⟩

inductive BoundError where
  | fault (e : Fault)
  /-- Steps cannot be counted against a blank budget. -/
  | blankBudget
  /-- Entries of a state cannot be counted against a blank limit. -/
  | blankLimit
  deriving DecidableEq, Repr

def BoundError.message : BoundError → String
  | fault e => e.message
  | blankBudget => "'<' not supported between instances of 'int' and 'list'"
  | blankLimit => "'>=' not supported between instances of 'int' and 'list'"

namespace Machine

variable (m : Machine)

/-- Runs a machine within bounds and reports on it. A blank limit is reached with the first state
that is entered. -/
def reportWithin : (maxSteps limit : Bound) → Except BoundError Report
  | .number n, .number limit => (m.report n limit).1.mapError .fault
  | .blank, _ => .error .blankBudget
  | .number n, .blank => do
    let stop ← (m.run (some 1) n.toNat).1.mapError .fault
    let report ← (m.report n 1).1.mapError .fault
    if stop = .looping || report.status = .loop then throw .blankLimit
    return report

/-- The events before the limit is asked about. -/
def upToLimit : List DialogueEvent → List DialogueEvent × Bool
  | [] => ([], false)
  | .confirmation _ :: _ => ([], true)
  | e :: es =>
    let (before, reached) := upToLimit es
    (e :: before, reached)

/-- The events of a dialogue within a limit, and why it breaks off. A run that reaches a blank limit
shows nothing. -/
def dialogueWithin (limit : Bound) (confirms : List Bool) (choices : List Choice) :
    Except Fault (List DialogueEvent × Option BoundError) :=
  match limit with
  | .number n => (m.dialogue n confirms choices).map fun es => (es, none)
  | .blank => do
    let (events, reached) := upToLimit (← m.dialogue 1 [] choices)
    let stop ← (m.run (some 1) 2).1
    if !reached then return (events, none)
    else if choices.head? = some .run && stop = .looping then
      return (events.dropLast, some .blankLimit)
    else return (events, some .blankLimit)

end Machine

end TapeMachine
