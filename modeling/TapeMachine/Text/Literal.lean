import TapeMachine.Text.Literal.Expression

/-! What is wrong with a text that should be a literal. -/
namespace TapeMachine.Text.Literal

/-- Whether tokens are one expression; a fault ends the reading. -/
def isExpression (toks : Array Placed) (hints : Bool) : Except String Bool := do
  let whole : Act Token := do
    let i ← readWith toks (50 * toks.size) .expressions 0
    return (← look toks i).token
  let (last, _) ← whole.run.run ⟨hints, ∅⟩
  return last == some .stop

/-- The fault that ends the tokens, unless it is only the end of the text. -/
def lateFault? (toks : Array Placed) : Option String :=
  match toks.back?.map Placed.token with
  | some (.faulty message) => some message
  | _ => none

/-- What is wrong with a text, if it is not an expression. A second reading looks for what was
meant; a faulty token further on counts more. -/
def fault? (cs : List Char) : Option String :=
  if cs.contains '\x00' then some "source code string cannot contain null bytes"
  else
    let toks := (tokens (cs.length + 1) [] cs).toArray
    let faulty := fun (fault : String) => some ((lateFault? toks).getD fault)
    match isExpression toks false with
    | .ok true => none
    | .error fault => faulty fault
    | .ok false =>
      match isExpression toks true with
      | .error fault => faulty fault
      | .ok _ => faulty "invalid syntax"

end TapeMachine.Text.Literal
