import TapeMachine.CommandLine.Scene
import TapeMachine.Text.Grouped

/-! Running the programs of a folder as a batch. -/
namespace TapeMachine.RunBatch

def spec : CommandSpec where
  options :=
    [⟨"help", some 'h', .help, false⟩, ⟨"programs", none, .text, true⟩,
      ⟨"output", none, .text, false⟩, ⟨"batch_size", none, .number, false⟩,
      ⟨"max_steps", none, .number, false⟩, ⟨"threshold", none, .number, false⟩]
  takesOperand := false
  needsOperand := false

/-- The batch that arguments ask for, with a name of its output even where that is left blank; none
without a folder. -/
def batch? (a : Arguments) : Option Batch := do
  let folder ← a.text? "programs"
  let outputName := match a.value? "output" with
    | some (.text s) => s
    | some .blank => "[]"
    | _ => "results"
  return { folder, outputName
           size := (a.bound? "batch_size").getD (.number 64)
           maxSteps := (a.bound? "max_steps").getD (.number 1000000)
           limit := (a.bound? "threshold").getD (.number 100)
           root := "results" }

def command (args : List String) (day : String) : Act Unit := do
  let a ← Act.arguments (spec.read args)
  let some b := batch? a | throw (.failed .blankPath)
  let (files, result) := b.run day (← get).files
  Act.setFiles files
  let entries ← Act.attempt .batch result
  Act.say ("Ran " ++ Text.grouped entries.length ++ " programs.")

end TapeMachine.RunBatch
