import TapeMachine.Stray
import TapeMachine.Tape
import TapeMachine.Visits

/-!
The machine: a rule table, final states, a tape and a current state. A step reads the cell under
the head, so it fails when the head was set where no cell is; it changes nothing then. Programs
are over two symbols; a machine may be over any alphabet.
-/
namespace TapeMachine

structure Machine (σ : Type := Bool) where
  table : Table σ
  finals : List String
  initial : String
  /-- The cells before the first step, without margins. -/
  origin : List σ
  tape : Tape σ
  current : String
  previous : Option String
  steps : Nat
  visits : Visits
  strays : List Stray
  deriving DecidableEq, Repr

/-- What stops a machine from answering. -/
inductive Fault where
  /-- The head is where no cell is. -/
  | offTape
  deriving DecidableEq, Repr

def Fault.message : Fault → String
  | offTape => "list index out of range"

/-- What the tape says: undefined when no rule applies, else the number of ones. -/
inductive Outcome where
  | undefined (steps : Int)
  | defined (steps value : Int)
  deriving DecidableEq, Repr

namespace Outcome

def steps : Outcome → Int
  | undefined n => n
  | defined n _ => n

def value? : Outcome → Option Int
  | undefined _ => none
  | defined _ v => some v

def text : Outcome → String
  | undefined _ => "Undefined"
  | defined n v => "Defined(" ++ toString n ++ ", " ++ toString v ++ ")"

end Outcome

namespace Machine

variable {σ : Type} [DecidableEq σ] [Symbol σ]

/-- A machine about to read the first of the cells in its initial state. -/
def load (cells : List σ) (initial : String) (finals : List String) (rules : List (Rule σ)) :
    Machine σ :=
  { table := Table.ofRules rules
    finals := finals
    initial := initial
    origin := cells
    tape := Tape.load cells
    current := initial
    previous := none
    steps := 0
    visits := []
    strays := [] }

variable (m : Machine σ)

/-- All rules in the order their keys came in. -/
def rules : List (Rule Int) := Stray.weave 0 m.strays m.table

def isFinal (state : String) : Bool := m.finals.contains state

/-- The rule for a state and a symbol: the table's, or in a final state the one that rests. -/
def ruleFor (state : String) (symbol : σ) : Option (Rule σ) :=
  match m.table.find? state symbol with
  | some r => some r
  | none => if m.isFinal state then some (.rest state symbol) else none

def symbol : Except Fault σ :=
  match m.tape.symbol? with
  | some b => .ok b
  | none => .error .offTape

/-- The rule that applies now, if there is one. -/
def currentRule : Except Fault (Option (Rule σ)) := m.symbol.map (m.ruleFor m.current)

/-- Writes, moves, keeps the margins, and counts the state that is entered. -/
def apply (r : Rule σ) : Machine σ :=
  { m with
    tape := ((m.tape.write r.write).shift r.move).padded
    current := r.target
    previous := some m.current
    steps := m.steps + 1
    visits := m.visits.bump r.target }

/-- The machine after one step; none when no rule applies. -/
def step : Except Fault (Option (Machine σ)) := m.currentRule.map (·.map m.apply)

def isUndefined : Except Fault Bool := m.currentRule.map Option.isNone

/-- A final state was entered from itself, and the rule that applies changes nothing. -/
def finished : Except Fault Bool :=
  if m.isFinal m.current && m.previous == some m.current then
    m.currentRule.map (·.any Rule.isIdle)
  else .ok false

/-- Some state was entered at least `limit` times since the counters were cleared. -/
def isLooping (limit : Int) : Bool := m.visits.reaches limit

def outcome : Except Fault Outcome :=
  m.isUndefined.map fun undefined =>
    if undefined then .undefined m.steps else .defined m.steps m.tape.ones

/-- Back to the first state and cells, with cleared counters; the table stays as it is. -/
def reset : Machine σ :=
  { m with
    tape := Tape.load m.origin
    current := m.initial
    previous := none
    steps := 0
    visits := [] }

def resetVisits : Machine σ := { m with visits := [] }

/-- Adds a rule; one with a symbol that the alphabet lacks is a stray. Over whole numbers there are
none, and every rule that is added can apply and write what it says. -/
def addRule (r : Rule Int) : Machine σ :=
  match (r.within? : Option (Rule σ)) with
  | some r => { m with table := m.table.insert r }
  | none => { m with strays := Stray.insert ⟨r, m.table.length⟩ m.strays }

def addRules (rules : List (Rule Int)) : Machine σ := rules.foldl addRule m

/-- The machine of a program over another alphabet. -/
def recast (τ : Type) [Symbol τ] (m : Machine) : Machine τ :=
  { m with
    table := m.table.map (.map Symbol.ofBit)
    origin := m.origin.map Symbol.ofBit
    tape := m.tape.map Symbol.ofBit }

def setHead (index : Int) : Machine σ := { m with tape := m.tape.setHead index }

def setState (state : String) : Machine σ := { m with current := state }

end Machine

end TapeMachine
