import TapeMachine.Rule

/-!
A tape is a list of cells and the index of the head; it is kept as the cells on the two sides of
the head. It grows on demand: after each move there are at least three cells on both sides of the
head. A head set by hand may be on no cell, and an index below zero counts back from the last one.
-/
namespace TapeMachine

inductive Tape (σ : Type := Bool) where
  /-- The head is on a cell; those on its left come nearest first. -/
  | within (left : List σ) (cell : σ) (right : List σ)
  /-- The head is on no cell. -/
  | outside (cells : List σ) (index : Int) (is_outside : index < 0 ∨ cells.length ≤ index)
  deriving DecidableEq, Repr

/-- Adds blanks behind the cells until there are `n` of them. -/
def padTo {σ : Type} [Symbol σ] : Nat → List σ → List σ
  | 0, cells => cells
  | n + 1, [] => Symbol.blank :: padTo n []
  | n + 1, b :: cells => b :: padTo n cells

namespace Tape

variable {σ : Type}

/-- Cells kept on each side of the head. -/
def margin : Nat := 3

def cells : Tape σ → List σ
  | within left cell right => left.reverse ++ cell :: right
  | outside cells _ _ => cells

def head : Tape σ → Int
  | within left _ _ => left.length
  | outside _ index _ => index

/-- The tape with these cells and the head at this index. -/
def place (cells : List σ) (index : Int) : Tape σ :=
  if h : index < 0 ∨ cells.length ≤ index then outside cells index h
  else within (cells.take index.toNat).reverse (cells.get ⟨index.toNat, by omega⟩)
    (cells.drop (index.toNat + 1))

def map {τ : Type} (f : σ → τ) : Tape σ → Tape τ
  | within left cell right => within (left.map f) (f cell) (right.map f)
  | outside cells index h => outside (cells.map f) index (by rwa [List.length_map])

def setHead (t : Tape σ) (index : Int) : Tape σ := place t.cells index

/-- The symbol that is read; none where no cell can be. -/
def symbol? : Tape σ → Option σ
  | within _ cell _ => some cell
  | outside cells (.negSucc n) _ => cells.reverse[n]?
  | outside _ (.ofNat _) _ => none

def write (b : σ) : Tape σ → Tape σ
  | within left _ right => within left b right
  | outside cells (.negSucc n) _ =>
    outside (cells.reverse.set n b).reverse (.negSucc n) (.inl (Int.negSucc_lt_zero n))
  | outside cells (.ofNat n) h => outside cells (.ofNat n) h

/-- Moves the head by one cell; at either end the cell it needs is added first. -/
def shift [Symbol σ] : Move → Tape σ → Tape σ
  | .left, within [] cell right => within [] Symbol.blank (cell :: right)
  | .left, within (b :: left) cell right => within left b (cell :: right)
  | .left, outside cells index _ => place cells (index - 1)
  | .right, within left cell [] => within (cell :: left) Symbol.blank []
  | .right, within left cell (b :: right) => within (cell :: left) b right
  | .right, outside cells index _ => place cells (index + 1)
  | .halt, t => t

/-- Adds blanks until the head has its margin on both sides. -/
def padded [Symbol σ] : Tape σ → Tape σ
  | within left cell right => within (padTo margin left) cell (padTo margin right)
  | outside cells index _ =>
    let kept := max index margin
    place (padTo (kept + margin + 1).toNat
      (List.replicate (kept - index).toNat Symbol.blank ++ cells)) kept

/-- A tape as it is loaded: the head on the first of the cells, with blanks around. -/
def load [Symbol σ] (cells : List σ) : Tape σ := (place cells 0).padded

/-- There are at least `margin` cells on each side of the head. -/
def Roomy (t : Tape σ) : Prop := margin ≤ t.head ∧ t.head + margin < t.cells.length

instance (t : Tape σ) : Decidable t.Roomy := inferInstanceAs (Decidable (_ ∧ _))

@[simp] theorem map_id (t : Tape σ) : t.map id = t := by
  cases t <;> simp [map]

@[simp] theorem cells_map {τ : Type} (f : σ → τ) (t : Tape σ) :
    (t.map f).cells = t.cells.map f := by
  cases t <;> simp [map, Tape.cells]

@[simp] theorem head_map {τ : Type} (f : σ → τ) (t : Tape σ) : (t.map f).head = t.head := by
  cases t <;> simp [map, head]

@[simp] theorem cells_place (cells : List σ) (index : Int) :
    (place cells index).cells = cells := by
  unfold place
  split
  · rfl
  · simp [Tape.cells]

@[simp] theorem head_place (cells : List σ) (index : Int) :
    (place cells index).head = index := by
  unfold place
  split
  · rfl
  · simp only [head, List.length_reverse, List.length_take]
    omega

/-- A tape is its cells and the index of its head. -/
@[simp] theorem place_views (t : Tape σ) : place t.cells t.head = t := by
  cases t with
  | within left cell right =>
    have h : ¬ ((left.length : Int) < 0 ∨
        ((left.reverse ++ cell :: right).length : Int) ≤ left.length) := by
      simp only [List.length_append, List.length_reverse, List.length_cons]
      omega
    rw [place, cells, head, dif_neg h]
    simp [List.drop_append]
  | outside cells index h => simp [place, Tape.cells, head, h]

theorem eq_of_views {t u : Tape σ} (hc : t.cells = u.cells) (hh : t.head = u.head) : t = u := by
  rw [← place_views t, hc, hh, place_views]

/-- The symbol read is the one at the index of the head. -/
theorem symbol?_eq (t : Tape σ) (h : 0 ≤ t.head) : t.symbol? = t.cells[t.head.toNat]? := by
  match t with
  | within left cell right => simp [symbol?, cells, head]
  | outside cells (.negSucc n) _ => exact absurd h (by simp [head])
  | outside cells (.ofNat n) h' =>
    have h' : cells.length ≤ n := by rw [Int.ofNat_eq_natCast] at h'; omega
    exact (List.getElem?_eq_none h').symm

@[simp] theorem head_write (b : σ) (t : Tape σ) : (t.write b).head = t.head := by
  match t with
  | within .. | outside _ (.negSucc _) _ | outside _ (.ofNat _) _ => rfl

/-- Writing replaces the cell at the index of the head. -/
theorem cells_write (b : σ) (t : Tape σ) (h : 0 ≤ t.head) :
    (t.write b).cells = t.cells.set t.head.toNat b := by
  match t with
  | within left cell right => simp [write, cells, head]
  | outside cells (.negSucc n) _ => exact absurd h (by simp [head])
  | outside cells (.ofNat n) h' =>
    have h' : cells.length ≤ n := by rw [Int.ofNat_eq_natCast] at h'; omega
    exact (List.set_eq_of_length_le h').symm

theorem length_padTo [Symbol σ] (n : Nat) (cells : List σ) :
    (padTo n cells).length = max n cells.length := by
  induction n generalizing cells with
  | zero => simp [padTo]
  | succ n ih => cases cells <;> simp only [padTo, List.length_cons, List.length_nil, ih] <;> omega

theorem padTo_of_le [Symbol σ] {n : Nat} {cells : List σ} (h : n ≤ cells.length) :
    padTo n cells = cells := by
  induction n generalizing cells with
  | zero => rfl
  | succ n ih => cases cells with
    | nil => simp at h
    | cons b cells => simp [padTo, ih (Nat.le_of_succ_le_succ h)]

theorem roomy_padded [Symbol σ] (t : Tape σ) : t.padded.Roomy := by
  cases t with
  | within left cell right =>
    simp only [padded, Roomy, head, cells, List.length_append, List.length_reverse,
      List.length_cons, length_padTo, margin]
    omega
  | outside cells index h =>
    simp only [padded, Roomy, head_place, cells_place, length_padTo, margin]
    omega

theorem padded_of_roomy [Symbol σ] {t : Tape σ} (h : t.Roomy) : t.padded = t := by
  cases t with
  | within left cell right =>
    simp only [Roomy, head, cells, List.length_append, List.length_reverse, List.length_cons,
      margin] at h
    have hl : margin ≤ left.length := by
      simp only [margin]
      omega
    have hr : margin ≤ right.length := by
      simp only [margin]
      omega
    rw [padded, padTo_of_le hl, padTo_of_le hr]
  | outside cells index h' =>
    simp only [Roomy, head, Tape.cells, margin] at h
    omega

/-- How many cells are not blank: over two symbols, how many hold a one. -/
def ones [DecidableEq σ] [Symbol σ] (t : Tape σ) : Nat := t.cells.countP (· != Symbol.blank)

theorem ones_eq (t : Tape) : t.ones = t.cells.count true := by
  simp [ones, List.count]

end Tape

/-- Lengths of the runs of ones, from left to right, when `n` ones come just before the cells. -/
def runsFrom : Nat → List Bool → List Nat
  | 0, [] => []
  | n + 1, [] => [n + 1]
  | n, true :: cells => runsFrom (n + 1) cells
  | 0, false :: cells => runsFrom 0 cells
  | n + 1, false :: cells => (n + 1) :: runsFrom 0 cells

/-- A number is written as a run of one more ones, and ends where the run ends. -/
def unary (n : Nat) : List Bool := List.replicate (n + 1) true

/-- The numbers that the cells hold, from left to right. -/
def numbers (cells : List Bool) : List Nat := (runsFrom 0 cells).map (· - 1)

namespace Tape

variable {σ : Type}

/-- The numbers on a tape of zeros and ones. No program writes another symbol; where a rule that was
added does, it passes for a one. -/
def values [DecidableEq σ] [Symbol σ] (t : Tape σ) : List Nat :=
  numbers (t.cells.map (· != Symbol.blank))

theorem values_eq (t : Tape) : t.values = numbers t.cells := by
  simp [values]

/-- The first index to show and the first not to: those within `window` of the head, or all. -/
def shown (t : Tape σ) : Option Int → Nat × Nat
  | none => (0, t.cells.length)
  | some window =>
    ((t.head - window).toNat, (min (t.cells.length : Int) (t.head + window + 1)).toNat)

/-- A line as wide as the cells, with a caret where the head is. -/
def marks (head : Int) (indices : List Nat) : List Char :=
  indices.flatMap fun (i : Nat) => [if (i : Int) = head then '^' else ' ', ' ']

/-- Two lines: the cells shown, and a caret under the head. -/
def render [Symbol σ] (t : Tape σ) (window : Option Int) : String :=
  let (first, stop) := t.shown window
  let cells := ((t.cells.take stop).drop first).flatMap fun b => (Symbol.spell b).toList ++ [' ']
  String.ofList (cells ++ '\n' :: marks t.head ((List.range stop).drop first))

end Tape

end TapeMachine
