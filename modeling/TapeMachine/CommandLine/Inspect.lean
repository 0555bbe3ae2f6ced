import TapeMachine.Chart
import TapeMachine.CommandLine.Scene

/-! Inspecting a program: its states and libraries, and the chart of its machine. -/
namespace TapeMachine.Inspect

def spec : CommandSpec where
  options := [⟨"help", some 'h', .help, false⟩, ⟨"latex", none, .flag, false⟩]
  takesOperand := true
  needsOperand := true

/-- The lines about a program. -/
def lines (p : Program) (latex : Bool) : List String :=
  (p.description.map ("[INFO] " ++ ·)).toList ++
  ["  Initial state: " ++ p.machine.initial,
    "  Final states: " ++ Names.joined ", " (Names.sorted p.machine.finals)] ++
  (if p.composed.isEmpty then []
    else ["  Composed: " ++ Names.joined ", " (p.composed.map Library.name)]) ++
  ["\n=== Transition Table ===", p.machine.chart] ++
  (if latex then ["\n=== LaTeX Table ===", p.machine.latexChart] else [])

def command (args : List String) : Act Unit := do
  let a ← Act.arguments (spec.read args)
  let source ← Act.source (a.operand.getD "")
  let p ← Act.attempt .diagnostic (Program.build Catalog.all source)
  for line in lines p (a.has "latex") do
    Act.say line

end TapeMachine.Inspect
