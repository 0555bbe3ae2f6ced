import TapeMachine.Table

/-!
Stray rules: rules with a symbol that the alphabet of a machine lacks, so that the machine cannot
apply them. They belong to it all the same, and have their places among the rules of its table. Over
whole numbers no rule is stray.
-/
namespace TapeMachine

structure Stray where
  rule : Rule Int
  /-- How many rules of the table came before it. -/
  index : Nat
  deriving DecidableEq, Repr

namespace Stray

variable {σ : Type} [Symbol σ]

/-- A stray rule takes the place of the one with its key. -/
def insert (s : Stray) : List Stray → List Stray
  | [] => [s]
  | x :: xs =>
    if x.rule.key = s.rule.key then { x with rule := s.rule } :: xs else x :: insert s xs

/-- The rules of a table, the first of which has an index, with the stray ones among them. -/
def weave (index : Nat) (strays : List Stray) : Table σ → List (Rule Int)
  | [] => strays.map Stray.rule
  | r :: rs =>
    (strays.takeWhile (·.index ≤ index)).map Stray.rule ++
      r.map Symbol.value :: weave (index + 1) (strays.dropWhile (·.index ≤ index)) rs

theorem weave_nil (index : Nat) (t : Table σ) :
    weave index [] t = t.map (Rule.map Symbol.value) := by
  induction t generalizing index with
  | nil => rfl
  | cons r rs ih => simp [weave, ih]

end Stray

end TapeMachine
