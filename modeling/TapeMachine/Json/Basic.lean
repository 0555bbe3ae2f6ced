import TapeMachine.Json.Binary64
import TapeMachine.Text.Letters

/-! Values of JSON. Whole numbers have no bound; the fields of an object keep their order. -/
namespace TapeMachine

open Text (Letters)

inductive Json where
  | null
  | bool (b : Bool)
  | int (n : Int)
  | real (x : Binary64)
  | str (s : Letters)
  | arr (items : List Json)
  | obj (fields : List (Letters × Json))
  deriving Repr

namespace Json

instance : Inhabited Json := ⟨null⟩

/-- Fields with distinct names. -/
abbrev Fields := List (Letters × Json)

namespace Fields

/-- The last value given to a name counts, at the place where the name came first. -/
def put (name : Letters) (value : Json) : Fields → Fields
  | [] => [(name, value)]
  | (n, v) :: rest => if n = name then (n, value) :: rest else (n, v) :: put name value rest

def putAll (fields : Fields) (more : List (Letters × Json)) : Fields :=
  more.foldl (fun fs (name, value) => put name value fs) fields

def ofPairs (pairs : List (Letters × Json)) : Fields := putAll [] pairs

def get? (name : Letters) : Fields → Option Json
  | [] => none
  | (n, v) :: rest => if n = name then some v else get? name rest

end Fields

/-- The field of an object with a name; none in what is no object. -/
def field? (name : Letters) : Json → Option Json
  | obj fields => Fields.get? name fields
  | _ => none

/-- What a value is called in messages about its type. -/
def typeName : Json → String
  | null => "NoneType"
  | bool _ => "bool"
  | int _ => "int"
  | real _ => "float"
  | str _ => "str"
  | arr _ => "list"
  | obj _ => "dict"

end Json

end TapeMachine
