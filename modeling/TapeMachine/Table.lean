import TapeMachine.Rule

/-! Rule tables: at most one rule for each state and symbol, in the order the keys came in. -/
namespace TapeMachine

abbrev Table (σ : Type := Bool) := List (Rule σ)

namespace Table

variable {σ : Type} [DecidableEq σ]

/-- A rule takes the place of the one with its key; a rule with a new key goes to the end. -/
def insert (r : Rule σ) : Table σ → Table σ
  | [] => [r]
  | x :: xs => if x.key = r.key then r :: xs else x :: insert r xs

def insertAll (rules : List (Rule σ)) (t : Table σ) : Table σ :=
  rules.foldl (fun t r => insert r t) t

def ofRules (rules : List (Rule σ)) : Table σ := insertAll rules []

/-- The rule of the table for a state and a symbol. -/
def find? (state : String) (symbol : σ) : Table σ → Option (Rule σ)
  | [] => none
  | x :: xs => if x.key = (state, symbol) then some x else find? state symbol xs

theorem find?_insert (r : Rule σ) (state : String) (symbol : σ) (t : Table σ) :
    find? state symbol (insert r t) =
      if r.key = (state, symbol) then some r else find? state symbol t := by
  induction t with
  | nil => simp [insert, find?]
  | cons x xs ih => grind [insert, find?]

theorem key_of_find? {state : String} {symbol : σ} {t : Table σ} {r : Rule σ}
    (h : find? state symbol t = some r) : r.key = (state, symbol) := by
  induction t with
  | nil => simp [find?] at h
  | cons x xs ih => grind [find?]

theorem mem_of_find? {state : String} {symbol : σ} {t : Table σ} {r : Rule σ}
    (h : find? state symbol t = some r) : r ∈ t := by
  induction t with
  | nil => simp [find?] at h
  | cons x xs ih => grind [find?]

theorem keys_insert (r : Rule σ) (t : Table σ) :
    (insert r t).map Rule.key =
      if r.key ∈ t.map Rule.key then t.map Rule.key else t.map Rule.key ++ [r.key] := by
  induction t with
  | nil => simp [insert]
  | cons x xs ih => grind [insert]

end Table

end TapeMachine
