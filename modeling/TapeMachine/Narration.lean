import TapeMachine.Note
import TapeMachine.Run

/-! Narration: what a machine reports while it steps and runs. -/
namespace TapeMachine.Machine

/-- What is reported where no rule applies. -/
def stuckNotes (m : Machine) : Except Fault (List Note) :=
  m.symbol.map fun symbol => [.noRule m.current symbol]

/-- A number of steps, with what they report. -/
def narrateSteps : Nat → Machine → Except Fault (List Note × Machine)
  | 0, m => .ok ([], m)
  | n + 1, m => do
    match ← m.step with
    | some next => narrateSteps n next
    | none =>
      let notes ← m.stuckNotes
      let (more, last) ← narrateSteps n m
      return (notes ++ more, last)

/-- A run, with what it reports. -/
def narrateRun (limit : Option Int) (maxSteps : Int) (m : Machine) :
    Except Fault (List Note × Machine) := do
  let (stop, last) := m.run limit maxSteps.toNat
  match ← stop with
  | .stuck => return (← last.stuckNotes, last)
  | .looping => return (limit.toList.map .loopAssumed, last)
  | _ => return ([], last)

end TapeMachine.Machine
