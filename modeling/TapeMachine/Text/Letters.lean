/-!
Text in which half of a pair of code units may stand alone. Such halves can be written in JSON,
though no file can hold them.
-/
namespace TapeMachine.Text

inductive Letter where
  | char (c : Char)
  /-- A code unit that lacks the other one of its pair. -/
  | half (unit : Nat)
  deriving DecidableEq, Repr

abbrev Letters := List Letter

namespace Letters

def ofString (s : String) : Letters := s.toList.map .char

instance : Coe String Letters := ⟨ofString⟩

/-- The characters of a text, with a replacement character for each half. -/
def chars (s : Letters) : List Char :=
  s.map fun
    | .char c => c
    | .half _ => '\ufffd'

def text (s : Letters) : String := String.ofList s.chars

end Letters

theorem chars_ofString (s : String) : (Letters.ofString s).chars = s.toList := by
  simp [Letters.chars, Letters.ofString, Function.comp_def]

end TapeMachine.Text
