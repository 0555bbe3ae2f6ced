/-! Counters: how often each state was entered. -/
namespace TapeMachine

/-- Each state entered so far with its count, in the order of first entry. -/
abbrev Visits := List (String × Nat)

namespace Visits

/-- Counts one more entry of a state. -/
def bump (state : String) : Visits → Visits
  | [] => [(state, 1)]
  | (s, n) :: rest => if s = state then (s, n + 1) :: rest else (s, n) :: bump state rest

/-- How often a state was entered; zero when it never was. -/
def count (state : String) : Visits → Nat
  | [] => 0
  | (s, n) :: rest => if s = state then n else count state rest

def total (v : Visits) : Nat := v.foldr (fun entry sum => entry.2 + sum) 0

/-- Some state on record was entered at least `limit` times. -/
def reaches (limit : Int) (v : Visits) : Bool := v.any fun entry => limit ≤ entry.2

@[simp] theorem count_nil (s : String) : count s [] = 0 := rfl

theorem count_bump (s t : String) (v : Visits) :
    count t (bump s v) = if s = t then count t v + 1 else count t v := by
  induction v with
  | nil => simp [bump, count]
  | cons x xs ih => grind [bump, count]

theorem total_bump (s : String) (v : Visits) : total (bump s v) = total v + 1 := by
  induction v with
  | nil => simp [bump, total]
  | cons x xs ih => grind [bump, total]

end Visits

end TapeMachine
