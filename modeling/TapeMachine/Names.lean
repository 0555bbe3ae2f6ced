/-! Sets of names, kept as lists in code point order without repetitions. -/
namespace TapeMachine.Names

/-- Puts a name in its place; a name that is already there is not repeated. -/
def insert (s : String) : List String → List String
  | [] => [s]
  | x :: xs =>
    if s < x then s :: x :: xs
    else if s = x then x :: xs
    else x :: insert s xs

/-- The distinct names of a list, in code point order. -/
def sorted : List String → List String
  | [] => []
  | x :: xs => insert x (sorted xs)

theorem mem_insert {s x : String} {xs : List String} : x ∈ insert s xs ↔ x = s ∨ x ∈ xs := by
  induction xs with
  | nil => simp [insert]
  | cons y ys ih => grind [insert]

theorem mem_sorted {x : String} {xs : List String} : x ∈ sorted xs ↔ x ∈ xs := by
  induction xs with
  | nil => simp [sorted]
  | cons y ys ih => simp [sorted, mem_insert, ih]

/-- The names with a separator between neighbours. -/
def joined (separator : String) (names : List String) : String :=
  String.intercalate separator names

end TapeMachine.Names
