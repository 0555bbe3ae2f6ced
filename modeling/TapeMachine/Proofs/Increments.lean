import TapeMachine.Proofs.Arithmetic
import TapeMachine.Proofs.Handover
import TapeMachine.Proofs.Numerals

/-!
One more and one less, for any of the numbers on a tape. A number grows and shrinks at its left end,
so it can be made larger without harm to the one before only where two blanks separate them.
-/
namespace TapeMachine

open Textbook Catalog

variable {t : Int → Bool} {row : List Numeral} {j : ℕ} {h : Int}

namespace Bears

theorem before_of_take (hrow : Bears t row) (hj : j < row.length) :
    ∀ x ∈ row.take j, x.Before row[j] := by
  have hsplit : Bears t (row.take j ++ row[j] :: row.drop (j + 1)) := by rwa [← split_at hj]
  exact hsplit.left_before

/-- Two blanks before a number are enough for it to grow. -/
theorem succ (hrow : Bears t row) (hj : j < row.length) (hroom : t (row[j].place - 2) = false) :
    Bears (Function.update t (row[j].place - 1) true) (row.set j row[j].succ) := by
  have hplace := row[j].place_le_last
  have hlast := row[j].last_succ
  refine hrow.replace_at (row[j].place - 1) hj ?_ (by omega) ⟨Int.le_refl _, hlast⟩ (by omega) ?_
  · intro x hx
    have hbefore := hrow.before_of_take hj x hx
    have hne : x.last ≠ row[j].place - 2 := by
      intro heq
      have hone := hrow.eq_true (List.mem_of_mem_take hx) x.place_le_last (Int.le_refl x.last)
      rw [heq, hroom] at hone
      cases hone
    omega
  · intro i hlo hhi
    refine iff_of_true ?_ ⟨hlo, by omega⟩
    rw [Function.update_apply]
    split
    · rfl
    · exact hrow.eq_true (List.getElem_mem hj) (by omega) hhi

/-- A number that is not zero may lose its first cell. -/
theorem pred (hrow : Bears t row) (hj : j < row.length) (hpos : 0 < row[j].value) :
    Bears (Function.update t row[j].place false) (row.set j row[j].pred) := by
  have hfirst := row[j].place_le_last
  have hlast := row[j].last_pred
  have hplace := Numeral.place_pred hpos
  refine hrow.replace_at row[j].place hj (hrow.before_of_take hj) (Int.le_refl _) ⟨by omega, hlast⟩
    ⟨Int.le_refl _, hfirst⟩ ?_
  intro i hlo hhi
  rw [Function.update_apply, hplace, hlast]
  split
  · exact iff_of_false Bool.false_ne_true (by omega)
  · exact iff_of_true (hrow.eq_true (List.getElem_mem hj) hlo hhi) (by omega)

/-- A one in front of the blank before a number is the last one of the number before. -/
theorem exists_adjoins (hrow : Bears t row) (hj : j < row.length)
    (hone : t (row[j].place - 2) = true) :
    ∃ i, ∃ hi : i + 1 = j, row[i].Adjoins row[j] := by
  have hpairs := List.pairwise_iff_getElem.mp hrow.apart
  obtain ⟨p, hp, hfirst, hlast⟩ := (hrow.ones _).mp hone
  obtain ⟨i, hi, rfl⟩ := List.getElem_of_mem hp
  have hplace := row[j].place_le_last
  have hij : i < j := by
    rcases Nat.lt_trichotomy i j with hlt | rfl | hlt
    · exact hlt
    · omega
    · have hbefore := hpairs j i hj hi hlt
      omega
  have hbefore := hpairs i j hi hj hij
  have hnext : i + 1 = j := by
    by_contra hne
    -- a number between the two would need more than the one blank
    have hmid : i + 1 < row.length := by omega
    have hleft := hpairs i (i + 1) hi hmid (by omega)
    have hright := hpairs (i + 1) j hmid hj (by omega)
    have hmiddle := row[i + 1].place_le_last
    omega
  exact ⟨i, hnext, by omega⟩

/-- Two numbers with one blank between them are one when that blank is filled. -/
theorem join {i : ℕ} (hrow : Bears t row) (hi : i + 1 < row.length)
    (hadjoins : row[i].Adjoins row[i + 1]) :
    Bears (Function.update t (row[i + 1].place - 1) true)
      (row.take i ++ ⟨row[i].place, row[i].value + row[i + 1].value + 2⟩ :: row.drop (i + 2)) := by
  have hsplit : Bears t (row.take i ++ ([row[i], row[i + 1]] ++ row.drop (i + 2))) := by
    rwa [List.cons_append, List.singleton_append, List.getElem_cons_drop, List.getElem_cons_drop,
      List.take_append_drop]
  have hsecond : Bears t (row.take (i + 1) ++ row[i + 1] :: row.drop (i + 2)) := by
    rwa [← split_at hi]
  have hlast : (⟨row[i].place, row[i].value + row[i + 1].value + 2⟩ : Numeral).last =
      row[i + 1].last := by
    simp only [Numeral.Adjoins, Numeral.last] at hadjoins ⊢
    omega
  have hp := row[i].place_le_last
  have hq := row[i + 1].place_le_last
  refine hsplit.replace row[i].place row[i + 1].last hsplit.left_before ?_ hsecond.before_right
    ⟨Int.le_refl _, by omega⟩ (by omega) ?_
  · intro x hx
    simp only [List.mem_cons, List.not_mem_nil, or_false] at hx
    rcases hx with rfl | rfl <;> omega
  · intro x hlo hhi
    refine iff_of_true ?_ ⟨hlo, by omega⟩
    rw [Function.update_apply]
    split
    · rfl
    · by_cases hx : x ≤ row[i].last
      · exact hrow.eq_true (List.getElem_mem _) hlo hx
      · exact hrow.eq_true (List.getElem_mem hi) (by omega) hhi

end Bears

namespace Catalog

variable {m : Machine}

theorem inc_comes (hrules : m.Links inc) (hc : m.Shows ⟨t, h, inc.initial⟩) (hone : t h = true)
    (hblank : t (h - 1) = false) :
    ∃ k, m.ComesTo ⟨t, h, inc.initial⟩ 2 k ⟨Function.update t (h - 1) true, h - 1, inc.final⟩ ∧
      k.tape.Inside ∧ k.table = m.table := by
  have hδ : m.transitions.Obeys inc.rules inc.final := Machine.obeys_of_links hrules (by decide)
  have hcells : Holds t (h - 1) [false, true] := by
    rw [holds_cons, holds_cons, Int.sub_add_cancel]
    exact ⟨hblank, hone, nofun⟩
  exact Machine.comesTo_of_runs (inc_runs hδ hcells) (hc.inside hone) hc

theorem dec_comes_zero (hrules : m.Links dec) (hc : m.Shows ⟨t, h, dec.initial⟩) (hone : t h = true)
    (hblank : t (h + 1) = false) : ∃ k, m.ComesTo ⟨t, h, dec.initial⟩ 2 k ⟨t, h, dec.final⟩ := by
  have hδ : m.transitions.Obeys dec.rules dec.final := Machine.obeys_of_links hrules (by decide)
  have hcells : Holds t h [true, false] := by
    rw [holds_cons, holds_cons]
    exact ⟨hone, hblank, nofun⟩
  obtain ⟨k, hk, -⟩ := Machine.comesTo_of_runs (dec_runs_zero hδ hcells) (hc.inside hone) hc
  exact ⟨k, hk⟩

theorem dec_comes_succ (hrules : m.Links dec) (hc : m.Shows ⟨t, h, dec.initial⟩) (hone : t h = true)
    (hnext : t (h + 1) = true) :
    ∃ k, m.ComesTo ⟨t, h, dec.initial⟩ 3 k ⟨Function.update t h false, h + 1, dec.final⟩ ∧
      k.tape.Inside ∧ k.table = m.table := by
  have hδ : m.transitions.Obeys dec.rules dec.final := Machine.obeys_of_links hrules (by decide)
  have hcells : Holds t h [true, true] := by
    rw [holds_cons, holds_cons]
    exact ⟨hone, hnext, nofun⟩
  exact Machine.comesTo_of_runs (dec_runs_succ hδ hcells) (hc.inside hone) hc

/-- The library `inc` makes a number one larger, with the cell on its left. It comes to its last
state after two steps, with the head on the new first cell. Where two blanks were before the number,
it is the only one that has changed. Where there was one blank, the number before is joined to
it. -/
theorem inc_adds_one (m : Machine) (t : Int → Bool) (row : List Numeral) (j : ℕ)
    (hj : j < row.length)
    (hrules : m.Links inc) (hrow : Bears t row) (hc : m.Shows ⟨t, row[j].place, inc.initial⟩) :
    m.tape.values = row.map Numeral.value ∧
      ∃ k u, m.ComesTo ⟨t, row[j].place, inc.initial⟩ 2 k ⟨u, row[j].succ.place, inc.final⟩ ∧
        (t (row[j].place - 2) = false → Bears u (row.set j row[j].succ) ∧
          k.tape.values = (row.map Numeral.value).set j (row[j].value + 1)) ∧
        (t (row[j].place - 2) = true → ∃ i, ∃ hi : i + 1 = j,
          k.tape.values = (row.map Numeral.value).take i ++
            (row[i].value + row[j].value + 2) :: (row.map Numeral.value).drop (j + 1)) := by
  have hmem := List.getElem_mem hj
  have hone : t row[j].place = true := hrow.first_one hmem
  have hblank : t (row[j].place - 1) = false := hrow.eq_false hmem (.inl rfl)
  obtain ⟨k, hk, -⟩ := inc_comes hrules hc hone hblank
  refine ⟨Machine.values_of_bears hc hrow, k, _, hk, ?_, ?_⟩
  · intro hroom
    have hsucc := hrow.succ hj hroom
    refine ⟨hsucc, ?_⟩
    rw [Machine.values_of_bears hk.shown hsucc, List.map_set]
    rfl
  · intro hfull
    obtain ⟨i, rfl, hadjoins⟩ := hrow.exists_adjoins hj hfull
    refine ⟨i, rfl, ?_⟩
    rw [Machine.values_of_bears hk.shown (hrow.join hj hadjoins), List.map_append, List.map_cons,
      List.map_take, List.map_drop]

/-- Three numbers, one blank between the first two and two blanks between the others. -/
def threeNumbers : List Spaced := [⟨0, 0⟩, ⟨1, 1⟩, ⟨2, 0⟩]

/-- A machine on their cells with the rules of `inc` and `dec` and one that passes control from the
first to the second. -/
def counting (state : String) (i : Int) : Machine :=
  .onRow (inc.rules ++ dec.rules ++ [⟨"incf", true, true, .halt, "dec0"⟩]) threeNumbers state i

theorem bears_threeNumbers : Bears (cellAt (spread threeNumbers 0)) [⟨0, 0⟩, ⟨2, 1⟩, ⟨6, 0⟩] :=
  bears_cells (by decide) 0

theorem shows_counting (state : String) (i : Int) :
    (counting state i).Shows ⟨cellAt (spread threeNumbers 0), i, state⟩ := Machine.shows_onRow ..

theorem links_counting (state : String) (i : Int) :
    (counting state i).Links inc ∧ (counting state i).Links dec := by
  have hfind : ∀ r ∈ inc.rules ++ dec.rules,
      (counting "inc0" 0).table.find? r.source r.read = some r := by
    decide
  exact ⟨fun r hr => hfind r (List.mem_append_left _ hr), fun r hr =>
    hfind r (List.mem_append_right _ hr)⟩

/-- The last number grows alone; the one in the middle is joined to the first. -/
theorem inc_adds_one_threeNumbers :
    (∃ k u,
        (counting "inc0" 6).ComesTo ⟨cellAt (spread threeNumbers 0), 6, "inc0"⟩ 2 k ⟨u, 5, "incf"⟩ ∧
      k.tape.values = [0, 1, 1]) ∧
    ∃ k u,
      (counting "inc0" 2).ComesTo ⟨cellAt (spread threeNumbers 0), 2, "inc0"⟩ 2 k ⟨u, 1, "incf"⟩ ∧
      k.tape.values = [3, 0] := by
  have hrules := fun i => (links_counting "inc0" i).1
  constructor
  · obtain ⟨-, k, u, hk, halone, -⟩ :=
      inc_adds_one _ _ _ 2 (by decide) (hrules 6) bears_threeNumbers (shows_counting "inc0" 6)
    exact ⟨k, u, hk, (halone (by decide)).2⟩
  · obtain ⟨-, k, u, hk, -, hjoined⟩ :=
      inc_adds_one _ _ _ 1 (by decide) (hrules 2) bears_threeNumbers (shows_counting "inc0" 2)
    obtain ⟨i, hi, hvalues⟩ := hjoined (by decide)
    obtain rfl : i = 0 := by omega
    exact ⟨k, u, hk, hvalues⟩

/-- One blank before a number is too little: there the machine comes to its last state and the
numbers are not the old ones with one of them larger by one. -/
theorem inc_joins_neighbours :
    (counting "inc0" 2).Links inc ∧ Bears (cellAt (spread threeNumbers 0))
    [⟨0, 0⟩, ⟨2, 1⟩, ⟨6, 0⟩] ∧
      (counting "inc0" 2).Shows ⟨cellAt (spread threeNumbers 0), 2, inc.initial⟩ ∧
      ¬ ∃ n k u g, (counting "inc0" 2).ComesTo ⟨cellAt (spread threeNumbers 0), 2, inc.initial⟩ n k
          ⟨u, g, inc.final⟩ ∧ k.tape.values = [0, 1, 0].set 1 (1 + 1) := by
  have hrules := (links_counting "inc0" 2).1
  have hshown := shows_counting "inc0" 2
  refine ⟨hrules, bears_threeNumbers, hshown, ?_⟩
  rintro ⟨n, k, u, g, hk, hvalues⟩
  obtain ⟨_, hend, -⟩ := inc_comes hrules hshown (by decide) (by decide)
  obtain ⟨rfl, rfl, -⟩ := hk.unique hend rfl
  rw [← hk.walk.after_eq] at hvalues
  exact absurd hvalues (by decide)

theorem dec_row (hj : j < row.length) (hrules : m.Links dec) (hrow : Bears t row)
    (hc : m.Shows ⟨t, row[j].place, dec.initial⟩) :
    ∃ n k u, m.ComesTo ⟨t, row[j].place, dec.initial⟩ n k ⟨u, row[j].pred.place, dec.final⟩ ∧
      Bears u (row.set j row[j].pred) := by
  have hmem := List.getElem_mem hj
  have hone : t row[j].place = true := hrow.first_one hmem
  rcases Nat.eq_zero_or_pos row[j].value with hzero | hpos
  · have hblank : t (row[j].place + 1) = false := by
      have hlast : row[j].last = row[j].place := by
        rw [Numeral.last, hzero]
        exact Int.add_zero _
      exact hrow.eq_false hmem (.inr (by rw [hlast]))
    obtain ⟨k, hk⟩ := dec_comes_zero hrules hc hone hblank
    have hsame : row[j].pred = row[j] := Numeral.pred_of_zero hzero
    rw [hsame, List.set_getElem_self]
    exact ⟨2, k, t, hk, hrow⟩
  · obtain ⟨k, hk, -⟩ := dec_comes_succ hrules hc hone (hrow.second_one hmem hpos)
    rw [← Numeral.place_pred hpos] at hk
    exact ⟨3, k, _, hk, hrow.pred hj hpos⟩

theorem dec_undoes_inc (hinc : m.Links inc) (hdec : m.Links dec) (hc : m.Shows ⟨t, h, inc.initial⟩)
    (hone : t h = true) (hblank : t (h - 1) = false) :
    ∃ k u g, m.ComesTo ⟨t, h, inc.initial⟩ 2 k ⟨u, g, inc.final⟩ ∧ ∀ e, k.Passes dec.initial e →
      ∃ l, e.ComesTo ⟨u, g, dec.initial⟩ 3 l ⟨t, h, dec.final⟩ := by
  obtain ⟨k, hk, hin, htable⟩ := inc_comes hinc hc hone hblank
  refine ⟨k, _, _, hk, fun e he => ?_⟩
  obtain ⟨hstart, -, hetable⟩ := he.shows hin hk.shown
  have hfirst : Function.update t (h - 1) true (h - 1) = true := Function.update_self ..
  have hnext : Function.update t (h - 1) true (h - 1 + 1) = true := by
    rwa [Int.sub_add_cancel, Function.update_of_ne (by omega)]
  obtain ⟨l, hl, -⟩ := dec_comes_succ (hdec.of_table (hetable.trans htable)) hstart hfirst hnext
  have hback : Function.update (Function.update t (h - 1) true) (h - 1) false = t := by
    rw [Function.update_idem, ← hblank, Function.update_eq_self]
  rw [hback, Int.sub_add_cancel] at hl
  exact ⟨l, hl⟩

theorem inc_undoes_dec (hinc : m.Links inc) (hdec : m.Links dec) (hc : m.Shows ⟨t, h, dec.initial⟩)
    (hone : t h = true) (hnext : t (h + 1) = true) :
    ∃ k u g, m.ComesTo ⟨t, h, dec.initial⟩ 3 k ⟨u, g, dec.final⟩ ∧ ∀ e, k.Passes inc.initial e →
      ∃ l, e.ComesTo ⟨u, g, inc.initial⟩ 2 l ⟨t, h, inc.final⟩ := by
  obtain ⟨k, hk, hin, htable⟩ := dec_comes_succ hdec hc hone hnext
  refine ⟨k, _, _, hk, fun e he => ?_⟩
  obtain ⟨hstart, -, hetable⟩ := he.shows hin hk.shown
  have hrest : Function.update t h false (h + 1) = true := by
    rwa [Function.update_of_ne (by omega)]
  have hblank : Function.update t h false (h + 1 - 1) = false := by
    rw [Int.add_sub_cancel, Function.update_self]
  obtain ⟨l, hl, -⟩ := inc_comes (hinc.of_table (hetable.trans htable)) hstart hrest hblank
  have hback : Function.update (Function.update t h false) h true = t := by
    rw [Function.update_idem, ← hone, Function.update_eq_self]
  rw [Int.add_sub_cancel, hback] at hl
  exact ⟨l, hl⟩

/-- The library `dec` takes one away from a number that is not zero, and leaves zero as it is. It
comes to its last state with the head on the number, and no other number changes. After `inc` it
restores every cell and the head, and so does `inc` after it where there was one to take away,
however control passes from one to the other. -/
theorem dec_takes_one :
    (∀ (m : Machine) (t : Int → Bool) (row : List Numeral) (j : ℕ) (hj : j < row.length),
      m.Links dec → Bears t row → m.Shows ⟨t, row[j].place, dec.initial⟩ →
        m.tape.values = row.map Numeral.value ∧
          ∃ n k u, m.ComesTo ⟨t, row[j].place, dec.initial⟩ n k ⟨u, row[j].pred.place, dec.final⟩ ∧
            Bears u (row.set j row[j].pred) ∧
            k.tape.values = (row.map Numeral.value).set j (row[j].value - 1)) ∧
    (∀ (m : Machine) (t : Int → Bool) (h : Int), m.Links inc → m.Links dec →
      m.Shows ⟨t, h, inc.initial⟩ → t h = true → t (h - 1) = false →
        ∃ k u g, m.ComesTo ⟨t, h, inc.initial⟩ 2 k ⟨u, g, inc.final⟩ ∧ ∀ e, k.Passes dec.initial e →
          ∃ l, e.ComesTo ⟨u, g, dec.initial⟩ 3 l ⟨t, h, dec.final⟩) ∧
    ∀ (m : Machine) (t : Int → Bool) (row : List Numeral) (j : ℕ) (hj : j < row.length),
      m.Links inc → m.Links dec → Bears t row → 1 ≤ row[j].value →
        m.Shows ⟨t, row[j].place, dec.initial⟩ →
          ∃ k u g, m.ComesTo ⟨t, row[j].place, dec.initial⟩ 3 k ⟨u, g, dec.final⟩ ∧
            ∀ e, k.Passes inc.initial e →
              ∃ l, e.ComesTo ⟨u, g, inc.initial⟩ 2 l ⟨t, row[j].place, inc.final⟩ := by
  refine ⟨?_, fun m t h => dec_undoes_inc, ?_⟩
  · intro m t row j hj hrules hrow hc
    obtain ⟨n, k, u, hk, hpred⟩ := dec_row hj hrules hrow hc
    refine ⟨Machine.values_of_bears hc hrow, n, k, u, hk, hpred, ?_⟩
    rw [Machine.values_of_bears hk.shown hpred, List.map_set, Numeral.value_pred]
  · intro m t row j hj hinc hdec hrow hpos hc
    have hmem := List.getElem_mem hj
    exact inc_undoes_dec hinc hdec hc (hrow.first_one hmem) (hrow.second_one hmem hpos)

/-- Taken from one and from zero; and one added to a number that is joined to its neighbour by that,
then taken away again by the rule that passes control, and the other way round by hand. -/
theorem dec_takes_one_threeNumbers :
    let t := cellAt (spread threeNumbers 0)
    (∃ n k u, (counting "dec0" 2).ComesTo ⟨t, 2, "dec0"⟩ n k ⟨u, 3, "decf"⟩ ∧
      k.tape.values = [0, 0, 0]) ∧
    (∃ n k u, (counting "dec0" 6).ComesTo ⟨t, 6, "dec0"⟩ n k ⟨u, 6, "decf"⟩ ∧
      k.tape.values = [0, 1, 0]) ∧
    (∃ l u g, ((counting "inc0" 2).after 3).ComesTo ⟨u, g, "dec0"⟩ 3 l ⟨t, 2, "decf"⟩) ∧
    ∃ k l u g, (counting "dec0" 2).ComesTo ⟨t, 2, "dec0"⟩ 3 k ⟨u, g, "decf"⟩ ∧
      (k.setState "inc0").ComesTo ⟨u, g, "inc0"⟩ 2 l ⟨t, 2, "incf"⟩ := by
  intro t
  obtain ⟨htakes, hafter, hbefore⟩ := dec_takes_one
  have hrules := fun state i => links_counting state i
  refine ⟨?_, ?_, ?_, ?_⟩
  · obtain ⟨-, n, k, u, hk, -, hvalues⟩ :=
      htakes _ _ _ 1 (by decide) (hrules _ _).2 bears_threeNumbers (shows_counting "dec0" 2)
    exact ⟨n, k, u, hk, hvalues⟩
  · obtain ⟨-, n, k, u, hk, -, hvalues⟩ :=
      htakes _ _ _ 2 (by decide) (hrules _ _).2 bears_threeNumbers (shows_counting "dec0" 6)
    exact ⟨n, k, u, hk, hvalues⟩
  · obtain ⟨k, u, g, hk, hdec⟩ :=
      hafter _ _ 2 (hrules _ _).1 (hrules _ _).2 (shows_counting "inc0" 2) (by decide) (by decide)
    have hpasses : k.Passes dec.initial ((counting "inc0" 2).after 3) := by
      rw [← hk.walk.after_eq]
      exact .rule (r := ⟨"incf", true, true, .halt, "dec0"⟩) (by decide) rfl rfl rfl
    obtain ⟨l, hl⟩ := hdec _ hpasses
    exact ⟨l, u, g, hl⟩
  · obtain ⟨k, u, g, hk, hinc⟩ :=
      hbefore _ _ _ 1 (by decide) (hrules _ _).1 (hrules _ _).2 bears_threeNumbers (by decide)
        (shows_counting "dec0" 2)
    obtain ⟨l, hl⟩ := hinc _ .set
    exact ⟨k, l, u, g, hk, hl⟩

end Catalog

end TapeMachine
