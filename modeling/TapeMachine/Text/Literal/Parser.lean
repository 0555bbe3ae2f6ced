import TapeMachine.Text.Literal.Token
import Std.Data.HashMap

/-!
Parsers that go back. A parser takes the index of a token and gives that of the token after what it
reads, or fails, and the next choice is tried; a fault ends all of them. Some rules only look for
what is probably meant by a faulty text, and apply only when hints are wanted.
-/
namespace TapeMachine.Text.Literal

/-- The rules whose outcome at a place is kept. -/
inductive Form where
  | expressions | expression | plain | lambda | named | assignment
  | starExpressions | starExpression | starNamed | starNameds | yielded
  | disjunction | conjunction | inversion | comparison
  | bitOr | bitXor | bitAnd | shift | sum | term | factor | power | awaited | primary | atom
  | tuple | group | generator | braces | pairs | pair | clauses
  | arguments | argument | args | keywords | keyword | doubleKeyword | starred
  | targets | target
  deriving DecidableEq, Repr, Hashable

/-- What a parser remembers: whether hints are wanted, and outcomes of rules at places. -/
structure Memory where
  hints : Bool
  outcomes : Std.HashMap (Form × Nat) (Option Nat)

abbrev Act := OptionT (StateT Memory (Except String))

abbrev Parser := Nat → Act Nat

namespace Parser

def refuse (fault : String) : Parser := fun _ => throwThe String fault

/-- Reads one thing after another. -/
def seq (ps : List Parser) : Parser := fun i => ps.foldlM (fun j p => p j) i

/-- Reads the first thing that can be read. -/
def alt (ps : List Parser) : Parser := fun i => ps.foldr (fun p rest => p i <|> rest) failure

def opt (p : Parser) : Parser := fun i => p i <|> pure i

/-- What a parser finds, be it nothing. -/
def outcome (p : Parser) (i : Nat) : Act (Option Nat) := OptionT.mk (some <$> (p i).run)

def ahead (p : Parser) : Parser := fun i => do
  let _ ← p i
  return i

def notAhead (p : Parser) : Parser := fun i => do
  if (← outcome p i).isSome then failure else return i

/-- Reads as often as it can be read, `fuel` times at most. -/
def many (p : Parser) : (fuel : Nat) → Parser
  | 0, i => return i
  | fuel + 1, i => do
    match ← outcome p i with
    | some j => many p fuel j
    | none => return i

/-- Applies only when hints are wanted. -/
def hint (p : Parser) : Parser := fun i => do
  if (← get).hints then p i else failure

/-- Reads without any hints. -/
def unhinted (p : Parser) : Parser := fun i => do
  let hints := (← get).hints
  modify fun m => { m with hints := false }
  let found ← outcome p i
  modify fun m => { m with hints := hints }
  match found with
  | some j => return j
  | none => failure

/-- Reads by a rule, or remembers what it found. -/
def remembered (f : Form) (p : Parser) : Parser := fun i => do
  match (← get).outcomes[(f, i)]? with
  | some (some j) => return j
  | some none => failure
  | none =>
    let found ← outcome p i
    modify fun m => { m with outcomes := m.outcomes.insert (f, i) found }
    match found with
    | some j => return j
    | none => failure

end Parser

end TapeMachine.Text.Literal
