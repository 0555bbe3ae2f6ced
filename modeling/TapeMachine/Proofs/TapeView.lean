import Mathlib.Data.List.Basic
import TapeMachine.Tape

/-! The cells of a tape as they lie around the head; beyond the cells everything is blank. -/
namespace TapeMachine

variable {σ : Type} {cells : List σ} {i : Int} {t : Tape σ} {b : σ}

namespace Tape

/-- The head is on a cell. -/
def Inside (t : Tape σ) : Prop := 0 ≤ t.head ∧ t.head < t.cells.length

instance (t : Tape σ) : Decidable t.Inside := inferInstanceAs (Decidable (_ ∧ _))

theorem Inside.eq_within (h : t.Inside) : ∃ left cell right, t = within left cell right := by
  cases t with
  | within left cell right => exact ⟨left, cell, right, rfl⟩
  | outside cells index ho =>
    simp only [Inside, head, Tape.cells] at h
    omega

theorem inside_within (left : List σ) (cell : σ) (right : List σ) :
    (within left cell right).Inside := by
  simp only [Inside, head, cells, List.length_append, List.length_reverse, List.length_cons]
  omega

theorem roomy_within_iff {left right : List σ} {cell : σ} :
    (within left cell right).Roomy ↔ margin ≤ left.length ∧ margin ≤ right.length := by
  simp only [Roomy, head, cells, List.length_append, List.length_reverse, List.length_cons]
  omega

theorem Roomy.inside (h : t.Roomy) : t.Inside := by
  simp only [Roomy, margin, Inside] at h ⊢
  omega

theorem Roomy.map {τ : Type} (h : t.Roomy) (f : σ → τ) : (t.map f).Roomy := by
  rwa [Roomy, cells_map, head_map, List.length_map]

theorem inside_setHead (h0 : 0 ≤ i) (hl : i < t.cells.length) : (t.setHead i).Inside := by
  simp only [Inside, setHead, head_place, cells_place]
  exact ⟨h0, hl⟩

/-- Past the last cell nothing can be read. -/
theorem symbol?_of_past (h : (t.cells.length : Int) ≤ t.head) : t.symbol? = none := by
  rw [symbol?_eq t (by omega)]
  exact List.getElem?_eq_none (by omega)

theorem inside_write (h : t.Inside) : (t.write b).Inside := by
  obtain ⟨left, cell, right, rfl⟩ := h.eq_within
  exact inside_within left b right

end Tape

variable [Symbol σ]

/-- The symbol at an index of a list of cells, blank where there is no cell. -/
def cellAt (cells : List σ) (i : Int) : σ :=
  if 0 ≤ i then (cells[i.toNat]?).getD Symbol.blank else Symbol.blank

theorem cellAt_natCast (cells : List σ) (k : Nat) :
    cellAt cells k = (cells[k]?).getD Symbol.blank := by
  simp [cellAt]

theorem cellAt_outside (h : i < 0 ∨ cells.length ≤ i) : cellAt cells i = Symbol.blank := by
  unfold cellAt
  grind

theorem cellAt_replicate_append (n : Nat) (cells : List σ) (i : Int) :
    cellAt (List.replicate n Symbol.blank ++ cells) i = cellAt cells (i - n) := by
  unfold cellAt
  by_cases hi : 0 ≤ i
  · obtain ⟨k, rfl⟩ := Int.eq_ofNat_of_zero_le hi
    by_cases hk : n ≤ k
    · have hn : ((k : Int) - n).toNat = k - n := by omega
      rw [if_pos hi, if_pos (by omega), hn, Int.toNat_natCast,
        List.getElem?_append_right (by simpa using hk), List.length_replicate]
    · rw [if_pos hi, if_neg (by omega), Int.toNat_natCast,
        List.getElem?_append_left (by simpa using hk)]
      simp only [List.getElem?_replicate]
      split <;> rfl
  · rw [if_neg hi, if_neg (by omega)]

theorem cellAt_append_replicate (cells : List σ) (n : Nat) (i : Int) :
    cellAt (cells ++ List.replicate n Symbol.blank) i = cellAt cells i := by
  unfold cellAt
  split
  · by_cases hk : i.toNat < cells.length
    · rw [List.getElem?_append_left hk]
    · rw [List.getElem?_append_right (by omega),
        List.getElem?_eq_none (by omega : cells.length ≤ _)]
      grind
  · rfl

theorem cellAt_set {k : Nat} (hk : k < cells.length) (b : σ) (i : Int) :
    cellAt (cells.set k b) i = if i = k then b else cellAt cells i := by
  unfold cellAt
  grind

theorem eq_of_cellAt {as bs : List σ} (hlen : as.length = bs.length)
    (h : ∀ i, cellAt as i = cellAt bs i) : as = bs := by
  refine List.ext_getElem hlen fun k hk hk' => ?_
  have hcell := h k
  rwa [cellAt_natCast, cellAt_natCast, List.getElem?_eq_getElem hk, List.getElem?_eq_getElem hk',
    Option.getD_some, Option.getD_some] at hcell

/-- Rows of cells that look the same, but for where they begin, are the same up to blanks. -/
theorem exists_blanks_of_cellAt {as bs : List σ} {d : Int}
    (h : ∀ i, cellAt as (i + d) = cellAt bs i) :
    ∃ i j k l, List.replicate i Symbol.blank ++ as ++ List.replicate j Symbol.blank =
      List.replicate k Symbol.blank ++ bs ++ List.replicate l Symbol.blank := by
  refine ⟨(-d).toNat, d.toNat + bs.length, d.toNat, (-d).toNat + as.length, eq_of_cellAt ?_ ?_⟩
  · simp only [List.length_append, List.length_replicate]
    omega
  · intro i
    rw [cellAt_append_replicate, cellAt_append_replicate, cellAt_replicate_append,
      cellAt_replicate_append, ← h]
    congr 1
    omega

namespace Tape

/-- The symbol so many cells to the right of the head. -/
def around (t : Tape σ) (d : Int) : σ := cellAt t.cells (t.head + d)

/-- One tape has the cells of another with blanks before and behind, and its head on the same
one. -/
def Extends (u t : Tape σ) : Prop :=
  ∃ before behind : Nat,
    u.cells =
        List.replicate before Symbol.blank ++ t.cells ++ List.replicate behind Symbol.blank ∧
      u.head = t.head + before

/-- There is a cell wherever a one is read. -/
theorem inside_of_around {t : Tape} (h : t.around 0 = true) : t.Inside := by
  rw [around, Int.add_zero, cellAt, Symbol.blank_bool] at h
  unfold Inside
  grind

theorem symbol?_of_inside (h : t.Inside) : t.symbol? = some (t.around 0) := by
  obtain ⟨left, cell, right, rfl⟩ := h.eq_within
  simp [symbol?, around, head, cells, cellAt_natCast]

theorem inside_shift (h : t.Inside) (m : Move) : (t.shift m).Inside := by
  obtain ⟨left, cell, right, rfl⟩ := h.eq_within
  cases m <;> cases left <;> cases right <;> exact inside_within ..

theorem around_write (h : t.Inside) (b : σ) (d : Int) :
    (t.write b).around d = if d = 0 then b else t.around d := by
  obtain ⟨h0, hl⟩ := h
  rw [around, head_write, cells_write b t h0, cellAt_set (by omega)]
  have hd : t.head + d = t.head.toNat ↔ d = 0 := by omega
  simp only [hd, around]

theorem Extends.around_eq {u t : Tape σ} (h : u.Extends t) (d : Int) : u.around d = t.around d := by
  obtain ⟨before, behind, hc, hh⟩ := h
  rw [around, around, hc, hh, cellAt_append_replicate, cellAt_replicate_append]
  congr 1
  omega

theorem padTo_eq (n : Nat) (cells : List σ) :
    padTo n cells = cells ++ List.replicate (n - cells.length) Symbol.blank := by
  induction n generalizing cells with
  | zero => simp [padTo]
  | succ n ih => cases cells <;> simp [padTo, ih, List.replicate_succ]

/-- The margins are blanks before and behind the cells. -/
theorem padded_extends (h : t.Inside) : t.padded.Extends t := by
  obtain ⟨left, cell, right, rfl⟩ := h.eq_within
  refine ⟨margin - left.length, margin - right.length, ?_, ?_⟩
  · simp [padded, cells, padTo_eq]
  · simp [padded, head, padTo_eq]

end Tape

/-- How far a move takes the head to the right. -/
def Move.offset : Move → Int
  | left => -1
  | right => 1
  | halt => 0

namespace Tape

theorem around_shift (h : t.Inside) (m : Move) (d : Int) :
    (t.shift m).around d = t.around (d + m.offset) := by
  obtain ⟨left, cell, right, rfl⟩ := h.eq_within
  cases m with
  | halt => simp [shift, Move.offset]
  | left =>
    cases left with
    | nil =>
      -- the list grows in front, so the same index is one cell further left
      have hc := cellAt_replicate_append 1 (cell :: right) d
      simpa [shift, around, head, cells, Move.offset, ← Int.sub_eq_add_neg] using hc
    | cons b left =>
      simp only [shift, around, head, cells, Move.offset, List.reverse_cons, List.append_assoc,
        List.singleton_append, List.length_cons]
      congr 1
      omega
  | right =>
    cases right with
    | nil =>
      have hc := cellAt_append_replicate (left.reverse ++ [cell]) 1 (left.length + 1 + d)
      simp only [shift, around, head, cells, Move.offset, List.reverse_cons, List.length_cons]
      rw [show (left.length : Int) + (d + 1) = left.length + 1 + d by omega]
      simpa using hc
    | cons b right =>
      simp only [shift, around, head, cells, Move.offset, List.reverse_cons, List.append_assoc,
        List.singleton_append, List.length_cons]
      congr 1
      omega

/-- What a step does to a tape, seen from where the head comes to stand. -/
theorem around_step (h : t.Inside) (b : σ) (m : Move) (d : Int) :
    ((t.write b).shift m).padded.around d =
      if d + m.offset = 0 then b else t.around (d + m.offset) := by
  have hw : (t.write b).Inside := inside_write h
  rw [(padded_extends (inside_shift hw m)).around_eq, around_shift hw, around_write h]

end Tape

end TapeMachine
