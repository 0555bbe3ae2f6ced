import TapeMachine.Proofs.TapeView
import TapeMachine.Proofs.Text.Rows

/-! What is shown of a tape: the cells in a window around the head, and a caret below the head. -/
namespace TapeMachine

namespace Text

variable {α : Type} {as : List α} {f : α → Char}

/-- In a line of characters with a blank after each, they stand in every other column. -/
theorem getElem?_spaced (f : α → Char) (as : List α) (column : Nat) :
    (as.flatMap fun a => [f a, ' '])[column]? =
      if column % 2 = 0 then as[column / 2]?.map f
      else if column / 2 < as.length then some ' ' else none := by
  induction as generalizing column with
  | nil => simp
  | cons a as ih =>
    match column with
    | 0 => simp
    | 1 => simp
    | column + 2 =>
      have hdiv : (column + 2) / 2 = column / 2 + 1 := by omega
      have hmod : (column + 2) % 2 = column % 2 := by omega
      rw [List.flatMap_cons, hdiv, hmod]
      simpa using ih column

theorem length_spaced (f : α → Char) (as : List α) :
    (as.flatMap fun a => [f a, ' ']).length = 2 * as.length := by
  induction as with
  | nil => rfl
  | cons a as ih =>
    rw [List.flatMap_cons, List.length_append, ih, List.length_cons]
    simp only [List.length_cons, List.length_nil]
    omega

theorem count_spaced {c : Char} (hc : c ≠ ' ') (f : α → Char) (as : List α) :
    (as.flatMap fun a => [f a, ' ']).count c = as.countP fun a => f a == c := by
  induction as with
  | nil => rfl
  | cons a as ih =>
    rw [List.flatMap_cons, List.count_append, ih, List.countP_cons, List.count_cons,
      List.count_singleton, if_neg (by simpa using hc.symm), Nat.zero_add, Nat.add_comm]

theorem not_mem_spaced (h : ∀ a ∈ as, f a ≠ '\n') : '\n' ∉ as.flatMap fun a => [f a, ' '] := by
  intro hmem
  obtain ⟨a, ha, hc⟩ := List.mem_flatMap.mp hmem
  rcases List.mem_cons.mp hc with hc | hc
  · exact h a ha hc.symm
  · exact absurd (List.mem_singleton.mp hc) (by decide)

/-- Two lines with a line feed between them are the rows of their text. -/
theorem rows_of_two {upper lower : List Char} (hupper : '\n' ∉ upper) (hlower : '\n' ∉ lower) :
    rows (upper ++ '\n' :: lower) = [upper, lower] := by
  have hone : ∀ {row : List Char}, '\n' ∉ row → rows row = [row] :=
    fun h => List.splitOn_eq_singleton (by simpa using h)
  rw [rows_append_feed, hone hupper, hone hlower]
  rfl

end Text

namespace Tape

variable {t : Tape} {window : Option Int} {i : Nat}

/-- An index is in view if there is a cell, no farther from the head than the window reaches. -/
def InView (t : Tape) (window : Option Int) (i : Nat) : Prop :=
  i < t.cells.length ∧ ∀ reach, window = some reach → ((i : Int) - t.head).natAbs ≤ reach

/-- The cells that a line shows, one digit for each. -/
def cellsOfLine (line : List Char) : List Bool := (line.filter (· != ' ')).map (· == '1')

theorem cellsOfLine_spaced (cells : List Bool) :
    cellsOfLine (cells.flatMap fun b => [digit b, ' ']) = cells := by
  induction cells with
  | nil => rfl
  | cons b cells ih =>
    have hcons : cellsOfLine (digit b :: ' ' :: (cells.flatMap fun b => [digit b, ' '])) =
        b :: cellsOfLine (cells.flatMap fun b => [digit b, ' ']) := by
      cases b <;> rfl
    exact hcons.trans (congrArg (b :: ·) ih)

/-- The indices that are shown, in order. -/
def indicesShown (t : Tape) (window : Option Int) : List Nat :=
  (List.range (t.shown window).2).drop (t.shown window).1

/-- The cells that are shown. -/
def cellsShown (t : Tape) (window : Option Int) : List Bool :=
  (t.cells.take (t.shown window).2).drop (t.shown window).1

theorem toList_render (t : Tape) (window : Option Int) : (t.render window).toList =
    ((t.cellsShown window).flatMap fun b => [digit b, ' ']) ++
      '\n' :: marks t.head (t.indicesShown window) := by
  rw [render, String.toList_ofList]
  simp only [Symbol.toList_spell_bool, List.singleton_append, cellsShown, indicesShown]

theorem indicesShown_eq (t : Tape) (window : Option Int) : t.indicesShown window =
    List.range' (t.shown window).1 ((t.shown window).2 - (t.shown window).1) := by
  rw [indicesShown, List.range_eq_range', List.drop_range']
  simp

/-- What lies between the bounds is what is in view. -/
theorem mem_indicesShown : i ∈ t.indicesShown window ↔ t.InView window i := by
  rw [indicesShown_eq, List.mem_range'_1]
  unfold InView shown
  cases window with
  | none => simp
  | some reach =>
    simp only [Option.some.injEq, forall_eq']
    omega

theorem pairwise_indicesShown (t : Tape) (window : Option Int) :
    (t.indicesShown window).Pairwise (· < ·) := by
  rw [indicesShown_eq]
  exact List.pairwise_lt_range'

theorem shown_le_length (t : Tape) (window : Option Int) : (t.shown window).2 ≤ t.cells.length := by
  unfold shown
  cases window with
  | none => exact le_rfl
  | some reach =>
    dsimp only
    omega

/-- The cells that are shown are those at the indices that are shown. -/
theorem map_indicesShown (t : Tape) (window : Option Int) :
    (t.indicesShown window).map (t.cells[·]?) = (t.cellsShown window).map some := by
  have hlength := shown_le_length t window
  have htake : (List.range (t.shown window).2).map (t.cells[·]?) =
      (t.cells.take (t.shown window).2).map some := by
    refine List.ext_getElem (by simp [Nat.min_eq_left hlength]) fun k hk _ => ?_
    simp only [List.length_map, List.length_range] at hk
    simp [List.getElem?_eq_getElem (show k < t.cells.length by omega)]
  rw [indicesShown, cellsShown, List.map_drop, htake, List.map_drop]

theorem indicesShown_eq_nil (h : t.Inside) :
    t.indicesShown window = [] ↔ t.head.toNat ∉ t.indicesShown window := by
  constructor
  · intro hnil
    rw [hnil]
    exact List.not_mem_nil
  · intro hhead
    rw [List.eq_nil_iff_forall_not_mem]
    intro i hi
    rw [mem_indicesShown] at hi hhead
    refine hhead ⟨by unfold Inside at h; omega, fun reach hreach => ?_⟩
    have hnear := hi.2 reach hreach
    unfold Inside at h
    omega

theorem mark_eq_caret (h : t.Inside) (i : Nat) :
    (if (i : Int) = t.head then '^' else ' ') = '^' ↔ i = t.head.toNat := by
  unfold Inside at h
  split
  · next hi => simp [← hi]
  · next hi =>
    refine iff_of_false (by decide) ?_
    omega

/-- There is one caret if the cell under the head is shown, and none otherwise. -/
theorem count_marks (h : t.Inside) {indices : List Nat} (hindices : indices.Nodup) :
    (marks t.head indices).count '^' = if t.head.toNat ∈ indices then 1 else 0 := by
  have hcount : indices.countP (fun i : Nat => (if (i : Int) = t.head then '^' else ' ') == '^') =
      indices.count t.head.toNat := by
    refine List.countP_congr fun i _ => ?_
    rw [beq_iff_eq, beq_iff_eq]
    exact mark_eq_caret h i
  rw [marks, Text.count_spaced (by decide), hcount, hindices.count]

/-- The caret is in the column of the cell under the head. -/
theorem getElem?_marks (h : t.Inside) (indices : List Nat) (column : Nat) :
    (marks t.head indices)[column]? = some '^' ↔
      ∃ k, indices[k]? = some t.head.toNat ∧ column = 2 * k := by
  rw [marks, Text.getElem?_spaced]
  constructor
  · intro hcaret
    split at hcaret
    · next heven =>
      obtain ⟨i, hi, hmark⟩ := Option.map_eq_some_iff.mp hcaret
      rw [mark_eq_caret h] at hmark
      exact ⟨column / 2, hmark ▸ hi, by omega⟩
    · split at hcaret
      · exact absurd (Option.some.inj hcaret) (by decide)
      · cases hcaret
  · rintro ⟨k, hk, rfl⟩
    have hhalf : 2 * k / 2 = k := by omega
    rw [if_pos (by omega), hhalf, hk, Option.map_some, (mark_eq_caret h _).mpr rfl]

theorem mem_marks {c : Char} {head : Int} {indices : List Nat} (hc : c ∈ marks head indices) :
    c = ' ' ∨ c = '^' := by
  obtain ⟨i, -, hc⟩ := List.mem_flatMap.mp hc
  rcases List.mem_cons.mp hc with rfl | hc
  · split
    · exact .inr rfl
    · exact .inl rfl
  · exact .inl (List.mem_singleton.mp hc)

end Tape

/-- A machine whose head is on a cell shows two lines of one length. The upper line has two
characters for each cell in view, in order, from which these cells can be read again; the lower line
is blank but for a caret in the column of the cell under the head, which is there unless no cell is
in view. -/
theorem Machine.render_shows_window {m : Machine} (h : m.tape.Inside) (window : Option Int) :
    ∃ (indices : List Nat) (cells : List Bool) (upper lower : List Char),
      Text.rows (m.tape.render window).toList = [upper, lower] ∧ upper.length = lower.length ∧
      (∀ i, i ∈ indices ↔ m.tape.InView window i) ∧ indices.Pairwise (· < ·) ∧
      indices.map (m.tape.cells[·]?) = cells.map some ∧ cells <:+: m.tape.cells ∧
      upper = (cells.flatMap fun b => [digit b, ' ']) ∧ Tape.cellsOfLine upper = cells ∧
      (∀ c ∈ lower, c = ' ' ∨ c = '^') ∧
      (∀ column, lower[column]? = some '^' ↔ ∃ k, indices[k]? = some m.tape.head.toNat ∧
        column = 2 * k) ∧
      lower.count '^' = if indices = [] then 0 else 1 := by
  let indices := m.tape.indicesShown window
  let cells := m.tape.cellsShown window
  let upper := cells.flatMap fun b => [digit b, ' ']
  let lower := Tape.marks m.tape.head indices
  have hcells : indices.map (m.tape.cells[·]?) = cells.map some := m.tape.map_indicesShown window
  have hordered := m.tape.pairwise_indicesShown window
  have hupper : '\n' ∉ upper := Text.not_mem_spaced fun b _ => by cases b <;> decide
  have hlower : '\n' ∉ lower := fun hmem => by
    rcases Tape.mem_marks hmem with hc | hc <;> exact absurd hc (by decide)
  have hrows : Text.rows (m.tape.render window).toList = [upper, lower] := by
    rw [Tape.toList_render]
    exact Text.rows_of_two hupper hlower
  have hlength : upper.length = lower.length := by
    have hsame : indices.length = cells.length := by simpa using congrArg List.length hcells
    rw [Text.length_spaced, ← hsame]
    exact (Text.length_spaced _ indices).symm
  have hslice : cells <:+: m.tape.cells :=
    (List.drop_suffix _ _).isInfix.trans (List.take_prefix _ _).isInfix
  have hcount : lower.count '^' = if indices = [] then 0 else 1 := by
    rw [Tape.count_marks h (hordered.imp Nat.ne_of_lt)]
    simp only [indices, Tape.indicesShown_eq_nil h]
    split <;> simp_all
  exact ⟨indices, cells, upper, lower, hrows, hlength, fun _ => Tape.mem_indicesShown,
    hordered, hcells, hslice, rfl, Tape.cellsOfLine_spaced cells, fun _ hc => Tape.mem_marks hc,
    Tape.getElem?_marks h indices, hcount⟩

/-- The window reaches beyond the cells on the left, and not as far as the last one on the right. -/
theorem Machine.render_shows_window_clipped :
    (load [true, false, true, false, true, true] "q" [] []).tape.Inside ∧ ∃ lower,
      Text.rows
        ((load [true, false, true, false, true, true] "q" [] []).tape.render (some 4)).toList =
        ["0 0 0 1 0 1 0 1 ".toList, lower] ∧ lower.length = 16 ∧ lower.count '^' = 1 := by
  have hinside : (load [true, false, true, false, true, true] "q" [] []).tape.Inside := by decide
  obtain ⟨indices, cells, upper, lower, hrows, hlength, hview, -, -, -, -, -, -, -, hcount⟩ :=
    render_shows_window hinside (some 4)
  have hfirst : (Text.rows
      ((load [true, false, true, false, true, true] "q" [] []).tape.render (some 4)).toList).head? =
        some "0 0 0 1 0 1 0 1 ".toList := by decide +kernel
  obtain rfl : upper = "0 0 0 1 0 1 0 1 ".toList := by
    rw [hrows] at hfirst
    exact Option.some.inj hfirst
  have hhead : 3 ∈ indices := by
    refine (hview 3).mpr ⟨by decide, fun reach hreach => ?_⟩
    cases hreach
    decide
  refine ⟨hinside, lower, hrows, hlength.symm, ?_⟩
  rw [hcount, if_neg (List.ne_nil_of_mem hhead)]

end TapeMachine
