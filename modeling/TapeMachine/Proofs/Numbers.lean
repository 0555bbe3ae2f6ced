import TapeMachine.Proofs.TapeView

/-! The numbers on a tape depend only on what is around the head, not on how many blanks are
kept. -/
namespace TapeMachine

variable {as bs cells : List Bool} {n : ℕ}

theorem runsFrom_append_blank (n : ℕ) (cells : List Bool) :
    runsFrom n (cells ++ [false]) = runsFrom n cells := by
  fun_induction runsFrom n cells with
  | case1 | case2 => simp [runsFrom]
  | case3 | case4 | case5 =>
    rename_i ih
    simpa [runsFrom] using ih

theorem runsFrom_ones_append (n k : ℕ) (h : cells.head? ≠ some true) :
    runsFrom n (List.replicate (k + 1) true ++ cells) = (n + k + 1) :: runsFrom 0 cells := by
  induction k generalizing n with
  | zero =>
    rw [List.replicate_one, List.singleton_append, runsFrom, Nat.add_zero]
    match cells with
    | [] | false :: _ => simp [runsFrom]
    | true :: _ => exact (h rfl).elim
  | succ k ih =>
    rw [List.replicate_succ, List.cons_append, runsFrom, ih]
    simp only [List.cons.injEq, and_true]
    omega

theorem numbers_unary_append (n : ℕ) (h : cells.head? ≠ some true) :
    numbers (unary n ++ cells) = n :: numbers cells := by
  rw [numbers, unary, runsFrom_ones_append 0 n h]
  simp [numbers]

theorem numbers_unary (n : ℕ) : numbers (unary n) = [n] := by
  simpa [numbers, runsFrom] using @numbers_unary_append [] n nofun

theorem numbers_append_blanks (cells : List Bool) (k : ℕ) :
    numbers (cells ++ List.replicate k false) = numbers cells := by
  induction k with
  | zero => simp
  | succ k ih =>
    rw [← ih, List.replicate_succ', ← List.append_assoc, numbers, runsFrom_append_blank, numbers]

theorem numbers_blanks_append (k : ℕ) (cells : List Bool) :
    numbers (List.replicate k false ++ cells) = numbers cells := by
  induction k with
  | zero => simp
  | succ k ih =>
    rw [← ih]
    simp [List.replicate_succ, numbers, runsFrom]

/-- Rows of cells that look the same, but for where they begin, hold the same numbers. -/
theorem numbers_of_cellAt {d : Int} (h : ∀ i, cellAt as (i + d) = cellAt bs i) :
    numbers as = numbers bs ∧ as.count true = bs.count true := by
  obtain ⟨i, j, k, l, heq⟩ := exists_blanks_of_cellAt h
  rw [Symbol.blank_bool] at heq
  constructor
  · have hnumbers := congrArg numbers heq
    rwa [numbers_append_blanks, numbers_append_blanks, numbers_blanks_append,
      numbers_blanks_append] at hnumbers
  · have hcount := congrArg (List.count true) heq
    simpa [List.count_replicate] using hcount

theorem Tape.values_of_around {t : Tape} (h : ∀ d, t.around d = cellAt cells d) :
    t.values = numbers cells ∧ t.ones = cells.count true := by
  rw [values_eq, ones_eq]
  refine numbers_of_cellAt (d := t.head) fun i => ?_
  rw [← h, around, Int.add_comm]

end TapeMachine
