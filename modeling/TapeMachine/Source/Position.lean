/-!
Places in a text: lines and columns, both counted from one; only a line feed starts a line. A place
given from outside may lie before the text.
-/
namespace TapeMachine

structure Position where
  line : Int
  column : Int
  deriving DecidableEq, Repr

namespace Position

def start : Position := ⟨1, 1⟩

/-- The place after one character. -/
def advance (p : Position) (c : Char) : Position :=
  if c = '\n' then ⟨p.line + 1, 1⟩ else ⟨p.line, p.column + 1⟩

/-- The place after a piece of text. -/
def after (p : Position) (cs : List Char) : Position := cs.foldl advance p

@[simp] theorem after_nil (p : Position) : p.after [] = p := rfl

@[simp] theorem after_cons (p : Position) (c : Char) (cs : List Char) :
    p.after (c :: cs) = (p.advance c).after cs := rfl

theorem after_append (p : Position) (as bs : List Char) :
    p.after (as ++ bs) = (p.after as).after bs := by
  simp [after]

end Position

/-- A stretch of text; the end is exclusive, and missing where only one place is meant. -/
structure Span where
  start : Position
  stop : Option Position
  deriving DecidableEq, Repr

end TapeMachine
