import Mathlib.Algebra.Group.Nat.Even
import Mathlib.Data.List.Basic
import TapeMachine.Proofs.Numbers

/-!
Decoding a tape undoes the writing of numbers on it: whatever blanks are between them, the numbers
come back, and every row of cells is the writing of just one list of numbers.
-/
namespace TapeMachine

variable {cells : List Bool} {b : Bool} {n : ℕ}

/-- A number to be written, and how many blanks come before it. -/
structure Spaced where
  blanks : ℕ
  value : ℕ
  deriving DecidableEq, Repr

/-- The cells of a row of numbers, with more blanks behind the last one. -/
def spread (row : List Spaced) (last : ℕ) : List Bool :=
  match row with
  | [] => List.replicate last false
  | s :: row => List.replicate s.blanks false ++ (unary s.value ++ spread row last)

/-- At least one blank is between neighbours; the first number needs none. -/
def Apart (row : List Spaced) : Prop := ∀ s ∈ row.tail, 0 < s.blanks

instance (row : List Spaced) : Decidable (Apart row) := inferInstanceAs (Decidable (∀ _ ∈ _, _))

variable {row : List Spaced} {last : ℕ}

theorem Apart.tail {s : Spaced} (h : Apart (s :: row)) : Apart row :=
  fun x hx => h x (List.mem_of_mem_tail hx)

theorem head?_spread (h : ∀ s ∈ row, 0 < s.blanks) : (spread row last).head? ≠ some true := by
  cases row with
  | nil => cases last <;> simp [spread, List.replicate_succ]
  | cons s row =>
    obtain ⟨k, hk⟩ := Nat.exists_eq_succ_of_ne_zero (Nat.ne_of_gt (h s List.mem_cons_self))
    simp [spread, hk, List.replicate_succ]

theorem numbers_spread (h : Apart row) : numbers (spread row last) = row.map Spaced.value := by
  induction row with
  | nil => simpa [spread, numbers, runsFrom] using numbers_append_blanks [] last
  | cons s row ih =>
    have hhead : (spread row last).head? ≠ some true := head?_spread h
    rw [spread, numbers_blanks_append, numbers_unary_append _ hhead, ih h.tail, List.map_cons]

/-- Every row of cells is one of numbers that are apart: a cell more is a blank more before the
first number, or makes it larger, or is a number of its own. -/
theorem exists_spread (cells : List Bool) : ∃ row last, Apart row ∧ spread row last = cells := by
  induction cells with
  | nil => exact ⟨[], 0, nofun, rfl⟩
  | cons b cells ih =>
    obtain ⟨row, last, hrow, rfl⟩ := ih
    match b, row with
    | false, [] => exact ⟨[], last + 1, nofun, by simp [spread, List.replicate_succ]⟩
    | false, s :: row =>
      exact ⟨⟨s.blanks + 1, s.value⟩ :: row, last, hrow, by simp [spread, List.replicate_succ]⟩
    | true, [] => exact ⟨[⟨0, 0⟩], last, nofun, by simp [spread, unary]⟩
    | true, ⟨0, value⟩ :: row =>
      exact ⟨⟨0, value + 1⟩ :: row, last, hrow, by simp [spread, unary, List.replicate_succ]⟩
    | true, ⟨blanks + 1, value⟩ :: row =>
      refine ⟨⟨0, 0⟩ :: ⟨blanks + 1, value⟩ :: row, last, ?_, by simp [spread, unary]⟩
      exact List.forall_mem_cons.mpr ⟨Nat.succ_pos blanks, hrow⟩

theorem count_spread (row : List Spaced) (last : ℕ) :
    (spread row last).count true = ((row.map Spaced.value).map (· + 1)).foldr (· + ·) 0 := by
  induction row with
  | nil => simp [spread, List.count_replicate]
  | cons s row ih =>
    rw [spread, List.count_append, List.count_append, unary, ih]
    simp [List.count_replicate]

/-- Cells hold numbers as a row of them, in this order. -/
def Encodes (cells : List Bool) (ns : List ℕ) : Prop :=
  ∃ row last, Apart row ∧ row.map Spaced.value = ns ∧ spread row last = cells

theorem encodes_iff {ns : List ℕ} : Encodes cells ns ↔ numbers cells = ns := by
  constructor
  · rintro ⟨row, last, hrow, rfl, rfl⟩
    exact numbers_spread hrow
  · rintro rfl
    obtain ⟨row, last, hrow, rfl⟩ := exists_spread cells
    exact ⟨row, last, hrow, (numbers_spread hrow).symm, rfl⟩

theorem count_eq_foldr (cells : List Bool) :
    cells.count true = ((numbers cells).map (· + 1)).foldr (· + ·) 0 := by
  obtain ⟨row, last, hrow, rfl⟩ := exists_spread cells
  rw [numbers_spread hrow, count_spread]

/-- The indices of the cells that differ from the one before, when `b` comes before the first of
them and a blank behind the last one. -/
def edges (b : Bool) (cells : List Bool) : List ℕ :=
  (List.range (cells.length + 1)).filter fun i => (b :: cells)[i]? ≠ (cells ++ [false])[i]?

/-- From each index to the next one, by pairs. -/
def extents : List ℕ → List ℕ
  | i :: j :: rest => (j - i) :: extents rest
  | _ => []

theorem edges_cons (b c : Bool) (cells : List Bool) :
    edges b (c :: cells) = (if b = c then [] else [0]) ++ (edges c cells).map (· + 1) := by
  rw [edges, List.length_cons, List.range_succ_eq_map, List.filter_cons]
  simp only [List.filter_map, edges]
  by_cases h : b = c <;> simp [h, Function.comp_def]

theorem extents_map_add (k : ℕ) (indices : List ℕ) :
    extents (indices.map (· + k)) = extents indices := by
  match indices with
  | [] | [_] => rfl
  | i :: j :: rest =>
    rw [List.map_cons, List.map_cons, extents, extents, extents_map_add k rest,
      Nat.add_sub_add_right]

/-- A run of ones reaches from one edge to the next, also when it has begun before these cells. -/
theorem extents_edges (cells : List Bool) :
    extents (edges false cells) = runsFrom 0 cells ∧
      ∀ n, extents (0 :: (edges true cells).map (· + (n + 1))) = runsFrom (n + 1) cells := by
  induction cells with
  | nil => exact ⟨rfl, fun n => by simp [edges, extents, runsFrom]⟩
  | cons c cells ih =>
    obtain ⟨hblank, hone⟩ := ih
    cases c with
    | false =>
      constructor
      · rw [edges_cons, if_pos rfl, List.nil_append, extents_map_add, runsFrom, hblank]
      · intro n
        rw [edges_cons, if_neg Bool.false_ne_true.symm, List.singleton_append, List.map_cons,
          Nat.zero_add, extents, extents_map_add, extents_map_add, runsFrom, hblank]
        simp
    | true =>
      constructor
      · rw [edges_cons, if_neg Bool.false_ne_true, List.singleton_append, runsFrom]
        exact hone 0
      · intro n
        have hshift : (· + (n + 1)) ∘ (· + 1) = (· + (n + 1 + 1)) := by
          funext i
          simp only [Function.comp_apply]
          omega
        rw [edges_cons, if_pos rfl, List.nil_append, List.map_map, hshift, runsFrom, hone]

theorem even_edges (b : Bool) (cells : List Bool) : Even (edges b cells).length ↔ b = false := by
  induction cells generalizing b with
  | nil => cases b <;> simp [edges]
  | cons c cells ih => cases b <;> cases c <;> simp [edges_cons, ih, Nat.even_add_one]

theorem numbers_eq_extents (cells : List Bool) :
    numbers cells = (extents (edges false cells)).map (· - 1) := by
  rw [numbers, (extents_edges cells).1]

namespace Tape

variable {t u : Tape}

theorem values_of_blanks {before behind : ℕ}
    (h : u.cells = List.replicate before false ++ t.cells ++ List.replicate behind false) :
    u.values = t.values := by
  rw [values_eq, h, numbers_append_blanks, numbers_blanks_append, values_eq]

/-- Margins are blanks before and behind the cells, wherever the head is. -/
theorem values_padded (t : Tape) : t.padded.values = t.values := by
  cases t with
  | within left cell right =>
    obtain ⟨before, behind, hcells, -⟩ := padded_extends (inside_within left cell right)
    exact values_of_blanks hcells
  | outside cells index h =>
    obtain ⟨before, behind, hcells⟩ : ∃ before behind, (outside cells index h).padded.cells =
        List.replicate before false ++ cells ++ List.replicate behind false := by
      rw [padded, cells_place, padTo_eq]
      exact ⟨_, _, rfl⟩
    exact values_of_blanks hcells

/-- The values of a tape are the numbers that are written on it. A row of numbers comes back
whatever blanks are between, before and behind them, and the cells of any tape are the writing of
one list of numbers and of no other. More blanks at its ends leave the values as they are, margins
too, and they tell how many ones there are. They are found where the cells change: there are evenly
many such places, and a number takes up the cells from one with an even index to the next. -/
theorem values_decode :
    (∀ (t : Tape) (row : List Spaced) (last : ℕ), Apart row → t.cells = spread row last →
      t.values = row.map Spaced.value) ∧
    (∀ t : Tape, ∃! ns, Encodes t.cells ns) ∧
    (∀ (t u : Tape) (before behind : ℕ),
      u.cells = List.replicate before false ++ t.cells ++ List.replicate behind false →
        u.values = t.values) ∧
    (∀ t : Tape, t.padded.values = t.values) ∧
    (∀ t : Tape, (t.values.map (· + 1)).foldr (· + ·) 0 = t.ones) ∧
    ∀ t : Tape, Even (edges false t.cells).length ∧
      t.values = (extents (edges false t.cells)).map (· - 1) := by
  refine ⟨?_, ?_, ?_, values_padded, ?_, ?_⟩
  · intro t row last hrow hcells
    rw [values_eq, hcells, numbers_spread hrow]
  · intro t
    exact ⟨numbers t.cells, encodes_iff.mpr rfl, fun ns hns => (encodes_iff.mp hns).symm⟩
  · intro t u before behind
    exact values_of_blanks
  · intro t
    rw [values_eq, ones_eq]
    exact (count_eq_foldr t.cells).symm
  · intro t
    rw [values_eq]
    exact ⟨(even_edges false t.cells).mpr rfl, numbers_eq_extents t.cells⟩

/-- Numbers at both ends of the cells, and two blanks in one place. -/
theorem values_decode_touchingEnds :
    let row : List Spaced := [⟨0, 0⟩, ⟨1, 0⟩, ⟨2, 1⟩]
    Apart row ∧ spread row 0 = [true, false, true, false, false, true, true] ∧
      (place (spread row 0) 0).values = [0, 0, 1] ∧ (load (spread row 0)).values = [0, 0, 1] ∧
      edges false (spread row 0) = [0, 1, 2, 3, 5, 7] := by
  intro row
  have hrow : Apart row := by decide
  have hvalues : (place (spread row 0) 0).values = [0, 0, 1] :=
    values_decode.1 _ row 0 hrow (cells_place _ _)
  exact ⟨hrow, rfl, hvalues, (values_decode.2.2.2.1 _).trans hvalues, by decide⟩

end Tape

end TapeMachine
