/-!
Lines of a text. Every character of Unicode that breaks a line ends one here, a carriage return
with the line feed after it counting once; what follows the last break is a line unless it is empty.
-/
namespace TapeMachine.Text

def isLineBreak (c : Char) : Bool :=
  let n := c.toNat
  (0xa ≤ n && n ≤ 0xd) || (0x1c ≤ n && n ≤ 0x1e) || n == 0x85 || n == 0x2028 || n == 0x2029

/-- The lines of `cs` when `line`, read backwards, has been read of the first one. -/
def linesFrom (line : List Char) : List Char → List (List Char)
  | [] => if line.isEmpty then [] else [line.reverse]
  | '\r' :: '\n' :: cs => line.reverse :: linesFrom [] cs
  | c :: cs => if isLineBreak c then line.reverse :: linesFrom [] cs else linesFrom (c :: line) cs

def lines (s : String) : List String := (linesFrom [] s.toList).map String.ofList

/-- The line with a number, counted from one; empty when there is none. -/
def line (s : String) (number : Nat) : String :=
  if number = 0 then "" else ((lines s)[number - 1]?).getD ""

/-- Reads carriage returns, with or without a line feed after them, as line feeds. -/
def unifyBreaks : List Char → List Char
  | '\r' :: '\n' :: cs => '\n' :: unifyBreaks cs
  | '\r' :: cs => '\n' :: unifyBreaks cs
  | c :: cs => c :: unifyBreaks cs
  | [] => []

end TapeMachine.Text
