import TapeMachine.Machine
import TapeMachine.Names

/-! Charts: one row for each state of a machine, one column for each symbol it may read. -/
namespace TapeMachine

/-- Adds a name at the end unless it is there already. -/
def appendNew (names : List String) (name : String) : List String :=
  if names.contains name then names else names ++ [name]

namespace Machine

variable {σ : Type} [DecidableEq σ] [Symbol σ] (m : Machine σ)

/-- The initial state, then the states of the rules in the order they appear. -/
def ruleStates : List String :=
  m.rules.foldl (fun states r => appendNew (appendNew states r.source) r.target) [m.initial]

/-- Final states that the rules mention, the initial state apart. -/
def ruleFinals : List String := m.ruleStates.tail.filter m.isFinal

/-- Final states that no rule mentions, in code point order. -/
def idleFinals : List String :=
  let states := m.ruleStates
  Names.sorted (m.finals.filter fun s => !states.contains s)

/-- The initial state, the other states by first appearance, and the final ones last. -/
def orderedStates : List String :=
  let finals := m.ruleFinals
  m.ruleStates.filter (fun s => !finals.contains s) ++ finals ++ m.idleFinals

/-- What a machine does in a state that reads a symbol. -/
def action (state : String) (symbol : σ) : String :=
  match m.table.find? state symbol with
  | some r => Symbol.spell r.write ++ r.move.letter ++ r.target
  | none => if m.isFinal state then "HALT" else "-"

structure ChartRow where
  state : String
  onZero : String
  onOne : String
  deriving DecidableEq, Repr

def chartRows : List ChartRow :=
  m.orderedStates.map fun s => ⟨s, m.action s Symbol.blank, m.action s Symbol.one⟩

/-- Rows of tab separated columns, under a heading. -/
def chart : String :=
  Names.joined "\n"
    ("State\t0\t1" ::
      m.chartRows.map fun row => Names.joined "\t" [row.state, row.onZero, row.onOne])

/-- The chart as a LaTeX array. -/
def latexChart : String :=
  Names.joined "\n" <|
    ["\\begin\x7barray\x7d\x7bc|cc\x7d",
      "State/Symbol & \\text\x7b0\x7d & \\text\x7b1\x7d \\\\ \\hline"] ++
    (m.chartRows.map fun row =>
      row.state ++ " & " ++ row.onZero ++ " & " ++ row.onOne ++ " \\\\") ++
    ["\\end\x7barray\x7d"]

end Machine

end TapeMachine
