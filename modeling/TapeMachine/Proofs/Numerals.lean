import TapeMachine.Proofs.Decoding
import TapeMachine.Proofs.Textbook

/-! Numbers on a tape without ends, each at its place: what else the tape holds is blank. -/
namespace TapeMachine

open Textbook

/-- A number on a tape, and the index of the first of its ones. -/
structure Numeral where
  place : Int
  value : ℕ
  deriving DecidableEq, Repr

namespace Numeral

/-- The index of the last of its ones. -/
def last (p : Numeral) : Int := p.place + p.value

/-- There is a blank from the one to the other. -/
abbrev Before (p q : Numeral) : Prop := p.last + 2 ≤ q.place

/-- There is just one blank from the one to the other. -/
abbrev Adjoins (p q : Numeral) : Prop := p.last + 2 = q.place

/-- One more, by the cell on the left. -/
def succ (p : Numeral) : Numeral := ⟨p.place - 1, p.value + 1⟩

/-- One less, by the first cell; nothing is taken from zero. -/
def pred : Numeral → Numeral
  | ⟨place, 0⟩ => ⟨place, 0⟩
  | ⟨place, n + 1⟩ => ⟨place + 1, n⟩

theorem place_le_last (p : Numeral) : p.place ≤ p.last := by
  unfold last
  omega

@[simp] theorem last_succ (p : Numeral) : p.succ.last = p.last := by
  simp only [succ, last]
  omega

@[simp] theorem last_pred (p : Numeral) : p.pred.last = p.last := by
  obtain ⟨place, _ | n⟩ := p <;> simp only [pred, last]
  omega

theorem pred_of_zero {p : Numeral} (h : p.value = 0) : p.pred = p := by
  obtain ⟨place, value⟩ := p
  cases h
  rfl

theorem place_pred {p : Numeral} (h : 0 < p.value) : p.pred.place = p.place + 1 := by
  obtain ⟨place, _ | n⟩ := p
  · cases h
  · rfl

@[simp] theorem value_pred (p : Numeral) : p.pred.value = p.value - 1 := by
  obtain ⟨place, _ | n⟩ := p <;> rfl

end Numeral

/-- One of the numbers has a one at an index. -/
def Covers (row : List Numeral) (i : Int) : Prop := ∃ p ∈ row, p.place ≤ i ∧ i ≤ p.last

/-- A tape bears numbers, from left to right, and has no other ones. -/
structure Bears (t : Int → Bool) (row : List Numeral) : Prop where
  apart : row.Pairwise Numeral.Before
  ones : ∀ i, t i = true ↔ Covers row i

variable {t u : Int → Bool} {row left mid right : List Numeral} {p q : Numeral} {i : Int}

theorem covers_cons : Covers (p :: row) i ↔ (p.place ≤ i ∧ i ≤ p.last) ∨ Covers row i :=
  List.exists_mem_cons_iff ..

theorem covers_append : Covers (left ++ right) i ↔ Covers left i ∨ Covers right i := by
  simp only [Covers, List.mem_append, or_and_right, exists_or]

/-- A list with one of its members between the others. -/
theorem split_at {α : Type} {xs : List α} {j : ℕ} (hj : j < xs.length) :
    xs = xs.take j ++ xs[j] :: xs.drop (j + 1) := by
  rw [← List.set_eq_take_cons_drop _ hj, List.set_getElem_self]

namespace Bears

theorem eq_true (h : Bears t row) (hp : p ∈ row) (hi : p.place ≤ i) (hlast : i ≤ p.last) :
    t i = true :=
  (h.ones i).mpr ⟨p, hp, hi, hlast⟩

theorem eq_of_ones (h : Bears t row) (g : Bears u row) : t = u := by
  funext i
  rw [Bool.eq_iff_iff, h.ones, g.ones]

theorem left_before (h : Bears t (left ++ p :: right)) : ∀ q ∈ left, q.Before p := by
  obtain ⟨-, -, hacross⟩ := List.pairwise_append.mp h.apart
  exact fun q hq => hacross q hq p List.mem_cons_self

theorem before_right (h : Bears t (left ++ p :: right)) : ∀ q ∈ right, p.Before q := by
  obtain ⟨-, hright, -⟩ := List.pairwise_append.mp h.apart
  exact (List.pairwise_cons.mp hright).1

/-- Beside a number there are blanks. -/
theorem eq_false (h : Bears t row) (hp : p ∈ row) (hi : i = p.place - 1 ∨ i = p.last + 1) :
    t i = false := by
  obtain ⟨left, right, rfl⟩ := List.append_of_mem hp
  have hplace := p.place_le_last
  refine Bool.eq_false_iff.mpr fun hone => ?_
  obtain ⟨q, hq, hfirst, hlast⟩ := (h.ones i).mp hone
  rcases List.mem_append.mp hq with hq | hq
  · have hbefore := h.left_before q hq
    omega
  · rcases List.mem_cons.mp hq with rfl | hq
    · omega
    · have hbefore := h.before_right q hq
      omega

theorem first_one (h : Bears t row) (hp : p ∈ row) : t p.place = true :=
  h.eq_true hp (Int.le_refl _) p.place_le_last

theorem second_one (h : Bears t row) (hp : p ∈ row) (hpos : 0 < p.value) :
    t (p.place + 1) = true := by
  refine h.eq_true hp (by omega) ?_
  unfold Numeral.last
  omega

/-- When a cell is written, there may be one number instead of others, up to two indices between
which it is apart from the rest. -/
theorem replace {a : Int} {b : Bool} (lo hi : Int) (h : Bears t (left ++ (mid ++ right)))
    (hleft : ∀ x ∈ left, x.last + 2 ≤ lo) (hmid : ∀ x ∈ mid, lo ≤ x.place ∧ x.last ≤ hi)
    (hright : ∀ x ∈ right, hi + 2 ≤ x.place) (hq : lo ≤ q.place ∧ q.last ≤ hi)
    (ha : lo ≤ a ∧ a ≤ hi)
    (hnew : ∀ i, lo ≤ i → i ≤ hi → (Function.update t a b i = true ↔ q.place ≤ i ∧ i ≤ q.last)) :
    Bears (Function.update t a b) (left ++ q :: right) := by
  obtain ⟨hl, hmr, hacross⟩ := List.pairwise_append.mp h.apart
  obtain ⟨-, hr, -⟩ := List.pairwise_append.mp hmr
  have hfirst := q.place_le_last
  constructor
  · refine List.pairwise_append.mpr ⟨hl, List.pairwise_cons.mpr ⟨?_, hr⟩, ?_⟩
    · intro y hy
      have hafter := hright y hy
      omega
    · intro x hx y hy
      rcases List.mem_cons.mp hy with rfl | hy
      · have hbefore := hleft x hx
        omega
      · exact hacross x hx y (List.mem_append_right mid hy)
  · intro i
    have hbelow : Covers left i → i < lo := by
      rintro ⟨x, hx, -, hlast⟩
      have hbefore := hleft x hx
      omega
    have habove : Covers right i → hi < i := by
      rintro ⟨x, hx, hplace, -⟩
      have hafter := hright x hx
      omega
    have hbetween : Covers mid i → lo ≤ i ∧ i ≤ hi := by
      rintro ⟨x, hx, hin⟩
      have hinside := hmid x hx
      omega
    rw [covers_append, covers_cons]
    by_cases hi : lo ≤ i ∧ i ≤ hi
    · rw [hnew i hi.1 hi.2]
      grind
    · rw [Function.update_of_ne (by omega), h.ones, covers_append, covers_append]
      grind

/-- Another number up to the same last cell may be in the place of one. -/
theorem replace_at {a : Int} {b : Bool} {j : ℕ} (lo : Int) (h : Bears t row) (hj : j < row.length)
    (hleft : ∀ x ∈ row.take j, x.last + 2 ≤ lo) (hlo : lo ≤ row[j].place)
    (hq : lo ≤ q.place ∧ q.last = row[j].last) (ha : lo ≤ a ∧ a ≤ row[j].last)
    (hnew : ∀ i, lo ≤ i → i ≤ row[j].last →
      (Function.update t a b i = true ↔ q.place ≤ i ∧ i ≤ q.last)) :
    Bears (Function.update t a b) (row.set j q) := by
  have hsplit : Bears t (row.take j ++ ([row[j]] ++ row.drop (j + 1))) := by
    rwa [List.singleton_append, ← split_at hj]
  rw [List.set_eq_take_cons_drop _ hj]
  refine hsplit.replace lo row[j].last hleft ?_ hsplit.before_right ⟨hq.1, by omega⟩ ha hnew
  intro x hx
  rw [List.mem_singleton.mp hx]
  exact ⟨hlo, Int.le_refl _⟩

end Bears

/-- The numbers of a row of cells, when its first cell has the index `o`. -/
def numeralsFrom (o : Int) : List Spaced → List Numeral
  | [] => []
  | s :: row => ⟨o + s.blanks, s.value⟩ :: numeralsFrom (o + s.blanks + s.value + 1) row

theorem map_value_numeralsFrom (o : Int) (row : List Spaced) :
    (numeralsFrom o row).map Numeral.value = row.map Spaced.value := by
  induction row generalizing o with
  | nil => rfl
  | cons s row ih => simp [numeralsFrom, ih]

theorem lt_place_of_blanks {o : Int} {row : List Spaced} (h : ∀ s ∈ row, 0 < s.blanks) :
    ∀ p ∈ numeralsFrom o row, o < p.place := by
  induction row generalizing o with
  | nil => nofun
  | cons s row ih =>
    obtain ⟨hs, hrow⟩ := List.forall_mem_cons.mp h
    refine List.forall_mem_cons.mpr ⟨Int.lt_add_of_pos_right o (by omega), fun p hp => ?_⟩
    have hlt := ih hrow p hp
    omega

theorem pairwise_numeralsFrom {row : List Spaced} (h : Apart row) (o : Int) :
    (numeralsFrom o row).Pairwise Numeral.Before := by
  induction row generalizing o with
  | nil => exact .nil
  | cons s row ih =>
    refine .cons (fun p hp => ?_) (ih h.tail _)
    have hlt := lt_place_of_blanks h p hp
    simp only [Numeral.Before, Numeral.last]
    omega

theorem cellAt_unary_append (n : ℕ) (cells : List Bool) (i : Int) :
    cellAt (unary n ++ cells) i = true ↔ (0 ≤ i ∧ i ≤ n) ∨ cellAt cells (i - (n + 1)) = true := by
  have hlength : (unary n).length = n + 1 := List.length_replicate
  by_cases hi : 0 ≤ i
  · obtain ⟨k, rfl⟩ := Int.eq_ofNat_of_zero_le hi
    rw [cellAt_natCast]
    by_cases hk : k < n + 1
    · have hone : (unary n)[k]? = some true :=
        List.getElem?_eq_some_iff.mpr ⟨by omega, by simp [unary]⟩
      rw [List.getElem?_append_left (by omega), hone]
      exact iff_of_true rfl (.inl (by omega))
    · have hrest : (k : Int) - (n + 1) = (k - (n + 1) : ℕ) := by omega
      rw [List.getElem?_append_right (by omega), hlength, hrest, cellAt_natCast]
      exact ⟨.inr, fun h => h.resolve_left (by omega)⟩
  · rw [cellAt_outside (by omega), cellAt_outside (by omega)]
    exact iff_of_false Bool.false_ne_true (by simp [hi])

theorem cellAt_spread (row : List Spaced) (last : ℕ) (o i : Int) :
    cellAt (spread row last) (i - o) = true ↔ Covers (numeralsFrom o row) i := by
  induction row generalizing o with
  | nil =>
    have hblank : cellAt (spread [] last) (i - o) = false := by
      rw [spread, ← List.nil_append (List.replicate last false), ← Symbol.blank_bool,
        cellAt_append_replicate]
      exact cellAt_outside (by simp only [List.length_nil]; omega)
    simp [hblank, numeralsFrom, Covers]
  | cons s row ih =>
    have horigin : i - o - s.blanks - (s.value + 1) = i - (o + s.blanks + s.value + 1) := by omega
    rw [spread, ← Symbol.blank_bool, cellAt_replicate_append, cellAt_unary_append, horigin, ih,
      numeralsFrom, covers_cons]
    refine or_congr_left ?_
    simp only [Numeral.last]
    omega

theorem bears_spread {row : List Spaced} (h : Apart row) (last : ℕ) (o : Int) :
    Bears (fun i => cellAt (spread row last) (i - o)) (numeralsFrom o row) :=
  ⟨pairwise_numeralsFrom h o, cellAt_spread row last o⟩

/-- The cells of a row of numbers bear them, the first cell at the index 0. -/
theorem bears_cells {row : List Spaced} (h : Apart row) (last : ℕ) :
    Bears (cellAt (spread row last)) (numeralsFrom 0 row) := by
  simpa only [Int.sub_zero] using bears_spread h last 0

/-- Numbers with blanks between them are those of a row of cells. -/
theorem exists_numeralsFrom {o : Int} (hrow : row.Pairwise Numeral.Before)
    (hlt : ∀ p ∈ row, o < p.place) :
    ∃ spaced, (∀ s ∈ spaced, 0 < s.blanks) ∧ numeralsFrom o spaced = row := by
  induction hrow generalizing o with
  | nil => exact ⟨[], nofun, rfl⟩
  | @cons p row hp _ ih =>
    obtain ⟨hfirst, -⟩ := List.forall_mem_cons.mp hlt
    have hrest : ∀ q ∈ row, p.last + 1 < q.place := by
      intro q hq
      have hbefore := hp q hq
      omega
    obtain ⟨spaced, hblanks, hspaced⟩ := ih hrest
    have hplace : o + ((p.place - o).toNat : Int) = p.place := by omega
    refine ⟨⟨(p.place - o).toNat, p.value⟩ :: spaced, ?_, ?_⟩
    · exact List.forall_mem_cons.mpr ⟨Int.pos_iff_toNat_pos.mp (by omega), hblanks⟩
    · rw [numeralsFrom, hplace, ← hspaced]
      rfl

/-- All of a row lies to the right of some index. -/
theorem exists_lt_place (row : List Numeral) : ∃ o : Int, ∀ p ∈ row, o < p.place := by
  induction row with
  | nil => exact ⟨0, nofun⟩
  | cons p row ih =>
    obtain ⟨o, ho⟩ := ih
    refine ⟨min o (p.place - 1), List.forall_mem_cons.mpr ⟨by omega, fun q hq => ?_⟩⟩
    have hlt := ho q hq
    omega

/-- The values of a tape are the numbers it bears. -/
theorem Machine.values_of_bears {m : Machine} {c : Config} (hc : m.Shows c) (h : Bears c.tape row) :
    m.tape.values = row.map Numeral.value := by
  obtain ⟨o, ho⟩ := exists_lt_place row
  obtain ⟨spaced, hblanks, rfl⟩ := exists_numeralsFrom h.apart ho
  have hapart : Apart spaced := fun s hs => hblanks s (List.mem_of_mem_tail hs)
  have htape : c.tape = fun i => cellAt (spread spaced 0) (i - o) :=
    h.eq_of_ones (bears_spread hapart 0 o)
  have hcells : ∀ i, cellAt (spread spaced 0) (i + (c.head - o - m.tape.head)) =
      cellAt m.tape.cells i := by
    intro i
    have hshown := hc.tape (i - m.tape.head)
    rw [Tape.around, htape] at hshown
    rw [show m.tape.head + (i - m.tape.head) = i by omega] at hshown
    rw [hshown]
    congr 1
    omega
  rw [Tape.values_eq, ← (numbers_of_cellAt hcells).1, numbers_spread hapart, map_value_numeralsFrom]

/-- A machine on the cells of a row of numbers, in a state and with its head at an index. -/
def Machine.onRow (rules : List (Rule Bool)) (row : List Spaced) (state : String)
    (i : Int) : Machine :=
  { Machine.load [] state [] rules with tape := .place (spread row 0) i }

theorem Machine.shows_onRow (rules : List (Rule Bool)) (row : List Spaced)
    (state : String) (i : Int) :
    (Machine.onRow rules row state i).Shows ⟨cellAt (spread row 0), i, state⟩ := by
  refine ⟨rfl, fun d => ?_⟩
  rw [Tape.around, onRow, Tape.cells_place, Tape.head_place]

end TapeMachine
