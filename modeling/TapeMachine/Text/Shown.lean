import TapeMachine.Text.Blank
import TapeMachine.Text.Columns
import TapeMachine.Text.LowerCase
import TapeMachine.Text.Pictographs

/-!
Text as a terminal shows it. Names of pictographs between colons give way to these, control
characters are dropped, and tabs reach to the next eighth column.
-/
namespace TapeMachine.Text

/-- A text without a tail that it ends in. -/
def dropTail? (tail cs : List Char) : Option (List Char) :=
  if tail.isSuffixOf cs then some (cs.take (cs.length - tail.length)) else none

/-- A name of a pictograph, and the selector that its last part asks for. -/
def splitSelector (name : List Char) : List Char × List Char :=
  match dropTail? "-emoji".toList name with
  | some short => (short, ['\ufe0f'])
  | none =>
    match dropTail? "-text".toList name with
    | some short => (short, ['\ufe0e'])
    | none => (name, [])

/-- What stands for a name between colons; an unknown name stays with its colons. -/
def drawn (name : List Char) : List Char :=
  let (short, selector) := splitSelector name
  match pictograph? (String.ofList (lower short)) with
  | some s => s.toList ++ selector
  | none => ':' :: (name ++ [':'])

/-- Replaces the names between colons. Blanks cannot be part of a name. -/
def draw : List Char → List Char
  | [] => []
  | c :: cs =>
    let name := cs.takeWhile fun d => d != ':' && !isBlank d
    if c = ':' && (cs.drop name.length).head? = some ':' then
      drawn name ++ draw (cs.drop (name.length + 1))
    else c :: draw cs
termination_by cs => cs.length
decreasing_by all_goals simp only [List.length_drop, List.length_cons]; omega

/-- Bell, backspace, vertical tab, form feed and carriage return. -/
def isControl (c : Char) : Bool := [7, 8, 11, 12, 13].contains c.toNat

/-- Text with its pictographs, without controls. -/
def rendered (cs : List Char) : List Char := (draw cs).filter (!isControl ·)

/-- Fills up each tab with blanks. The part of the line since the last tab is held in `part`, read
backwards, and begins at a column. -/
def expandTabs (column : Nat) (part : List Char) : List Char → List Char
  | [] => part.reverse
  | c :: cs =>
    if c = '\n' then part.reverse ++ '\n' :: expandTabs 0 [] cs
    else if c = '\t' then
      let stop := column + columnCount (part.reverse ++ [' '])
      let size := (8 - stop % 8) % 8
      part.reverse ++ List.replicate (size + 1) ' ' ++ expandTabs (stop + size) [] cs
    else expandTabs column (c :: part) cs

/-- A text as it is shown, without regard to tags. -/
def shown (s : String) : String := String.ofList (expandTabs 0 [] (rendered s.toList))

end TapeMachine.Text
