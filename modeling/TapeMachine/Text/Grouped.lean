/-! Whole numbers with a comma between groups of three digits. -/
namespace TapeMachine.Text

/-- Puts a comma before each third digit from the end, the end being `left` digits away. -/
def groupDigits : (left : Nat) → List Char → List Char
  | left + 1, c :: cs =>
    if left % 3 = 0 && left != 0 then c :: ',' :: groupDigits left cs else c :: groupDigits left cs
  | _, cs => cs

def grouped (n : Int) : String :=
  let digits := Nat.toDigits 10 n.natAbs
  String.ofList ((if n < 0 then ['-'] else []) ++ groupDigits digits.length digits)

end TapeMachine.Text
