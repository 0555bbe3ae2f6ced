import TapeMachine.Json.Writer

/-!
Dictionaries: values by keys, which need not be texts. Numbers that are equal are one key, and a
truth value is the key that zero or one is. A key stays written as it was when it came first.
-/
namespace TapeMachine

open Text (Letters)

/-- The whole number that a fractional number is equal to, if there is one. -/
def Binary64.whole? : Binary64 → Option Int
  | finite negative mantissa exponent =>
    let (n, d) := quotient mantissa exponent
    if n % d = 0 then some (if negative then -(n / d : Nat) else (n / d : Nat)) else none
  | _ => none

namespace Json

inductive Key where
  | null
  | whole (n : Int)
  /-- A number that is not whole. -/
  | real (x : Binary64)
  | text (s : Letters)
  deriving DecidableEq, Repr

/-- The key that a value serves as; lists and objects are no keys. -/
def Key.of? : Json → Option Key
  | .null => some null
  | .bool b => some (whole (if b then 1 else 0))
  | .int n => some (whole n)
  | .real x => some ((x.whole?.map whole).getD (real x))
  | .str s => some (text s)
  | .arr _ | .obj _ => none

structure Entry where
  key : Key
  /-- The key as a name in JSON. -/
  name : Letters
  value : Json
  deriving Repr

def Entry.ofField (field : Letters × Json) : Entry := ⟨.text field.1, field.1, field.2⟩

/-- Entries with distinct keys. -/
abbrev Dictionary := List Entry

namespace Dictionary

def ofFields (fields : Fields) : Dictionary := fields.map .ofField

/-- The last value given for a key counts, at the place where the key came first. -/
def put (e : Entry) : Dictionary → Dictionary
  | [] => [e]
  | x :: rest => if x.key = e.key then { x with value := e.value } :: rest else x :: put e rest

def putAll (entries : List Entry) (d : Dictionary) : Dictionary :=
  entries.foldl (fun d e => put e d) d

def get? (key : Key) : Dictionary → Option Json
  | [] => none
  | x :: rest => if x.key = key then some x.value else get? key rest

/-- The fields of an object with the same entries. -/
def fields (d : Dictionary) : Fields := .ofPairs (d.map fun x => (x.name, x.value))

/-- The entries whose keys are texts. -/
def texts (d : Dictionary) : Fields :=
  d.filterMap fun x =>
    match x.key with
    | .text s => some (s, x.value)
    | _ => none

theorem get?_put (e : Entry) (key : Key) (d : Dictionary) :
    get? key (put e d) = if e.key = key then some e.value else get? key d := by
  induction d with
  | nil => rfl
  | cons x d ih => grind [put, get?]

end Dictionary

end Json

end TapeMachine
