import TapeMachine.Note
import TapeMachine.Run

/-!
Dialogues: a machine takes one step or runs on, as it is told, and is shown after each turn. When it
seems to loop, the dialogue goes on only if that is confirmed, and then with cleared counters.
-/
namespace TapeMachine

/-- What to do next. -/
inductive Choice where
  | step
  | run
  | quit
  deriving DecidableEq, Repr

/-- `q` quits, `r` runs, every other word is one step. -/
def Choice.ofWord (word : String) : Choice :=
  if word = "q" then .quit else if word = "r" then .run else .step

/-- What is asked in a dialogue: what to do next, or whether to go on. -/
inductive Question where
  | choice
  | confirmation
  deriving DecidableEq, Repr

/-- How a question is put. -/
def Question.text : Question → String
  | choice => "[s]tep, [r]un or [q]uit (s): "
  | confirmation => "The machine looks stuck in an infinite loop. Keep going? [y/n] (n): "

/-- What happens in a dialogue, with the machine as it is then. -/
inductive DialogueEvent where
  | screen (m : Machine)
  | choice (m : Machine)
  /-- No rule applies to the symbol. -/
  | stuck (m : Machine) (symbol : Bool)
  /-- The machine seems to loop. -/
  | confirmation (m : Machine)
  | result (m : Machine) (o : Outcome)
  deriving Repr

namespace DialogueEvent

def question? : DialogueEvent → Option Question
  | choice _ => some .choice
  | confirmation _ => some .confirmation
  | _ => none

/-- The lines that an event shows, with so many cells on each side of the head. -/
def lines (window : Int) : DialogueEvent → List String
  | screen m =>
    [m.tape.render (some window), "State: " ++ m.current ++ "  Steps: " ++ toString m.steps]
  | stuck m symbol =>
    ["No instruction for state " ++ m.current ++ " reading " ++ Symbol.spell symbol ++ "."]
  | result m o =>
    ["Result: " ++ o.text, "Values: " ++ Note.bracketed (m.tape.values.map fun n => toString n)]
  | choice _ | confirmation _ => []

end DialogueEvent

namespace Machine

variable (limit : Int) (m : Machine)

/-- As many steps as a run can take before some state is entered as often as the limit allows: each
step enters the target of a rule or a final state. -/
def patience : Nat := (m.table.length + m.finals.length) * limit.toNat + 1

/-- The machine after a turn. -/
def turn : Choice → Except Fault Machine
  | .step => m.step.map (·.getD m)
  | .run =>
    let (stop, next) := m.run (some limit) (m.patience limit)
    stop.map fun _ => next
  | .quit => .ok m

def closing : Except Fault (List DialogueEvent) := m.outcome.map fun o => [.result m o]

/-- The events after the first screen. Without further choices the dialogue ends, and what is asked
without a further answer is denied. -/
def converse (m : Machine) (confirms : List Bool) :
    List Choice → Except Fault (List DialogueEvent)
  | [] => do
    if ← m.finished then m.closing
    else return .choice m :: (← m.closing)
  | c :: cs => do
    if ← m.finished then m.closing
    else if c = .quit then
      return .choice m :: (← m.closing)
    else do
      let next ← m.turn limit c
      let shown := [.choice m, .screen next]
      if ← next.isUndefined then
        return shown ++ .stuck next (← next.symbol) :: (← next.closing)
      else if next.isLooping limit then
        match confirms with
        | true :: more =>
          return shown ++ .confirmation next :: (← converse next.resetVisits more cs)
        | _ => return shown ++ .confirmation next :: (← next.closing)
      else return shown ++ (← converse next confirms cs)

/-- The events of a dialogue that begins with a machine on the screen. -/
def dialogue (confirms : List Bool) (choices : List Choice) : Except Fault (List DialogueEvent) :=
  (m.converse limit confirms choices).map (.screen m :: ·)

end Machine

end TapeMachine
