import TapeMachine.Proofs.Arithmetic
import TapeMachine.Proofs.Handover
import TapeMachine.Proofs.Numerals

/-! The way from each number of a list to the next one and back, where one blank separates them. -/
namespace TapeMachine

open Textbook

variable {δ : Transitions} {stop : String} {t : Int → Bool} {row : List Numeral} {p q : Numeral}
  {m : Machine} {h : Int} {n j i : ℕ}

namespace Catalog

theorem next_runs (hδ : δ.Obeys next.rules stop) (hones : ∀ i, h ≤ i → i ≤ h + n → t i = true)
    (hblank : t (h + n + 1) = false) :
    Runs δ stop ⟨t, h, "next0"⟩ (n + 2) ⟨t, h + n + 2, "nextf"⟩ := by
  have toBlank : Runs δ stop ⟨t, h, "next0"⟩ (n + 1) ⟨t, h + n + 1, "next0"⟩ :=
    runs_right hδ (r := ⟨"next0", true, true, .right, "next0"⟩) (by decide) rfl rfl rfl
      (fun i hi hlast => hones i hi (by omega)) (by omega)
  have overBlank : Runs δ stop ⟨t, h + n + 1, "next0"⟩ 1 ⟨t, h + n + 2, "nextf"⟩ :=
    runs_keep hδ (r := ⟨"next0", false, false, .right, "nextf"⟩) (by decide) rfl hblank
      (by simp only [Move.offset]; omega)
  exact toBlank.trans overBlank

theorem prev_runs (hδ : δ.Obeys prev.rules stop) (hleft : t (h - 1) = false)
    (hones : ∀ i, h ≤ i → i ≤ h + n → t i = true) (hblank : t (h + n + 1) = false)
    (hone : t (h + n + 2) = true) :
    Runs δ stop ⟨t, h + n + 2, "prev0"⟩ (n + 4) ⟨t, h, "prevf"⟩ := by
  have toBlank : Runs δ stop ⟨t, h + n + 2, "prev0"⟩ 1 ⟨t, h + n + 1, "prev1"⟩ :=
    runs_keep hδ (r := ⟨"prev0", true, true, .left, "prev1"⟩) (by decide) rfl hone
      (by simp only [Move.offset]; omega)
  have overBlank : Runs δ stop ⟨t, h + n + 1, "prev1"⟩ 1 ⟨t, h + n, "prev2"⟩ :=
    runs_keep hδ (r := ⟨"prev1", false, false, .left, "prev2"⟩) (by decide) rfl hblank
      (by simp only [Move.offset]; omega)
  have toLeft : Runs δ stop ⟨t, h + n, "prev2"⟩ (n + 1) ⟨t, h - 1, "prev2"⟩ :=
    runs_left hδ (r := ⟨"prev2", true, true, .left, "prev2"⟩) (by decide) rfl rfl rfl
      (fun i hi hlast => hones i (by omega) (by omega)) (by omega)
  have stepBack : Runs δ stop ⟨t, h - 1, "prev2"⟩ 1 ⟨t, h, "prevf"⟩ :=
    runs_keep hδ (r := ⟨"prev2", false, false, .right, "prevf"⟩) (by decide) rfl hleft
      (by simp only [Move.offset]; omega)
  convert ((toBlank.trans overBlank).trans toLeft).trans stepBack using 1
  omega

theorem next_comes (hrules : m.Links next) (hrow : Bears t row) (hp : p ∈ row) (hpq : p.Adjoins q)
    (hc : m.Shows ⟨t, p.place, next.initial⟩) :
    ∃ k, m.ComesTo ⟨t, p.place, next.initial⟩ (p.value + 2) k ⟨t, q.place, next.final⟩ ∧
      k.table = m.table := by
  have hδ : m.transitions.Obeys next.rules next.final := Machine.obeys_of_links hrules (by decide)
  have hones : ∀ i, p.place ≤ i → i ≤ p.place + p.value → t i = true :=
    fun i hi hlast => hrow.eq_true hp hi hlast
  have hblank : t (p.place + p.value + 1) = false := hrow.eq_false hp (.inr rfl)
  have hruns := next_runs hδ hones hblank
  have hin : m.tape.Inside := hc.inside (hrow.first_one hp)
  rw [show p.place + p.value + 2 = q.place from hpq] at hruns
  obtain ⟨k, hk, -, htable⟩ := Machine.comesTo_of_runs (d := ⟨t, q.place, next.final⟩) hruns hin hc
  exact ⟨k, hk, htable⟩

theorem prev_comes (hrules : m.Links prev) (hrow : Bears t row) (hp : p ∈ row) (hq : q ∈ row)
    (hpq : p.Adjoins q) (hc : m.Shows ⟨t, q.place, prev.initial⟩) :
    ∃ k, m.ComesTo ⟨t, q.place, prev.initial⟩ (p.value + 4) k ⟨t, p.place, prev.final⟩ ∧
      k.table = m.table := by
  have hδ : m.transitions.Obeys prev.rules prev.final := Machine.obeys_of_links hrules (by decide)
  have hplace : p.place + p.value + 2 = q.place := hpq
  have hone : t q.place = true := hrow.first_one hq
  have hruns := prev_runs hδ (hrow.eq_false hp (.inl rfl))
    (fun i hi hlast => hrow.eq_true hp hi hlast) (hrow.eq_false hp (.inr rfl)) (hplace ▸ hone)
  rw [hplace] at hruns
  have hin : m.tape.Inside := hc.inside hone
  obtain ⟨k, hk, -, htable⟩ := Machine.comesTo_of_runs (d := ⟨t, p.place, prev.final⟩) hruns hin hc
  exact ⟨k, hk, htable⟩

/-- The place of the number with an index, the index of no number being at 0. -/
def placeOf (row : List Numeral) (j : ℕ) : Int := (row[j]?.map Numeral.place).getD 0

theorem placeOf_eq (hj : j < row.length) : placeOf row j = row[j].place := by
  simp [placeOf, hj]

theorem eq_true_of_placeOf (hrow : Bears t row) (hj : j < row.length) :
    t (placeOf row j) = true := by
  rw [placeOf_eq hj]
  exact hrow.first_one (List.getElem_mem hj)

variable {state : String}

theorem calls_next (hrules : m.Links next) (hrow : Bears t row)
    (hchain : row.IsChain Numeral.Adjoins)
    (hij : j + i < row.length) (hc : m.Shows ⟨t, placeOf row j, state⟩) :
    (∃ k d, Machine.Calls next i m ⟨t, placeOf row j, state⟩ k d) ∧
      ∀ k d, Machine.Calls next i m ⟨t, placeOf row j, state⟩ k d →
        k.Shows d ∧ d.tape = t ∧ d.head = placeOf row (j + i) ∧ k.table = m.table := by
  refine Machine.calls_lead (x := fun a => placeOf row (j + a)) ?_ ?_ hrules hc
  · intro a ha
    exact eq_true_of_placeOf hrow (by omega)
  · intro a ha e he hshown
    have hnext : j + a + 1 < row.length := by omega
    rw [placeOf_eq (Nat.lt_of_succ_lt hnext)] at hshown ⊢
    rw [← Nat.add_assoc, placeOf_eq hnext]
    have hadjoins := hchain.getElem (j + a) hnext
    obtain ⟨k, hk⟩ := next_comes he hrow (List.getElem_mem _) hadjoins hshown
    exact ⟨_, k, hk⟩

theorem calls_prev (hrules : m.Links prev) (hrow : Bears t row)
    (hchain : row.IsChain Numeral.Adjoins)
    (hij : j + i < row.length) (hc : m.Shows ⟨t, placeOf row (j + i), state⟩) :
    (∃ k d, Machine.Calls prev i m ⟨t, placeOf row (j + i), state⟩ k d) ∧
      ∀ k d, Machine.Calls prev i m ⟨t, placeOf row (j + i), state⟩ k d →
        k.Shows d ∧ d.tape = t ∧ d.head = placeOf row j ∧ k.table = m.table := by
  have hlead := Machine.calls_lead (x := fun a => placeOf row (j + i - a)) (i := i) ?_ ?_ hrules hc
  · rwa [Nat.add_sub_cancel] at hlead
  · intro a ha
    exact eq_true_of_placeOf hrow (by omega)
  · intro a ha e he hshown
    have hnext : j + i - (a + 1) + 1 < row.length := by omega
    have hsame : j + i - a = j + i - (a + 1) + 1 := by omega
    rw [hsame, placeOf_eq hnext] at hshown ⊢
    rw [placeOf_eq (Nat.lt_of_succ_lt hnext)]
    have hadjoins := hchain.getElem _ hnext
    obtain ⟨k, hk⟩ := prev_comes he hrow (List.getElem_mem _) (List.getElem_mem _) hadjoins hshown
    exact ⟨_, k, hk⟩

/-- The libraries `next` and `prev` lead from a number to its neighbours in a list whose numbers are
separated by one blank each, and change no cell. `next` takes two steps more than the number that is
left, `prev` four more than the one that is reached. So many calls of `next` and as many of `prev`,
however control passes from one to the next, lead back to where they began. -/
theorem next_prev_lead :
    (∀ (m : Machine) (t : Int → Bool) (row : List Numeral) (j : ℕ) (hj : j < row.length)
      (hnext : j + 1 < row.length), m.Links next → Bears t row → row.IsChain Numeral.Adjoins →
        m.Shows ⟨t, row[j].place, next.initial⟩ →
          ∃ k, m.ComesTo ⟨t, row[j].place, next.initial⟩ (row[j].value + 2) k
            ⟨t, row[j + 1].place, next.final⟩) ∧
    (∀ (m : Machine) (t : Int → Bool) (row : List Numeral) (j : ℕ) (hj : j < row.length)
      (hnext : j + 1 < row.length), m.Links prev → Bears t row → row.IsChain Numeral.Adjoins →
        m.Shows ⟨t, row[j + 1].place, prev.initial⟩ →
          ∃ k, m.ComesTo ⟨t, row[j + 1].place, prev.initial⟩ (row[j].value + 4) k
            ⟨t, row[j].place, prev.final⟩) ∧
    ∀ (m : Machine) (t : Int → Bool) (row : List Numeral) (state : String) (j i : ℕ)
      (hj : j < row.length) (hij : j + i < row.length), m.Links next → m.Links prev → Bears t row →
        row.IsChain Numeral.Adjoins → m.Shows ⟨t, row[j].place, state⟩ →
          (∃ k d, Machine.Calls next i m ⟨t, row[j].place, state⟩ k d) ∧
          ∀ k d, Machine.Calls next i m ⟨t, row[j].place, state⟩ k d →
            k.Shows d ∧ d.tape = t ∧ d.head = row[j + i].place ∧
            (∃ l f, Machine.Calls prev i k d l f) ∧
              ∀ l f, Machine.Calls prev i k d l f → l.Shows f ∧ f.tape = t ∧
              f.head = row[j].place := by
  refine ⟨?_, ?_, ?_⟩
  · intro m t row j hj hnext hrules hrow hchain hc
    have hadjoins := hchain.getElem j hnext
    obtain ⟨k, hk, -⟩ := next_comes hrules hrow (List.getElem_mem _) hadjoins hc
    exact ⟨k, hk⟩
  · intro m t row j hj hnext hrules hrow hchain hc
    have hadjoins := hchain.getElem j hnext
    obtain ⟨k, hk, -⟩ :=
      prev_comes hrules hrow (List.getElem_mem _) (List.getElem_mem _) hadjoins hc
    exact ⟨k, hk⟩
  · intro m t row state j i hj hij hnext hprev hrow hchain hc
    rw [← placeOf_eq hj] at hc ⊢
    rw [← placeOf_eq hij]
    obtain ⟨hexists, hall⟩ := calls_next hnext hrow hchain hij hc
    refine ⟨hexists, fun k d hk => ?_⟩
    obtain ⟨hshown, htape, hhead, htable⟩ := hall k d hk
    obtain ⟨u, g, state'⟩ := d
    cases htape
    cases hhead
    obtain ⟨hback, hreturns⟩ := calls_prev (hprev.of_table htable) hrow hchain hij hshown
    refine ⟨hshown, rfl, rfl, hback, fun l f hl => ?_⟩
    obtain ⟨hlast, htape, hhead, -⟩ := hreturns l f hl
    exact ⟨hlast, htape, hhead⟩

/-- One, zero and two, with one blank between neighbours. -/
def adjoining : List Spaced := [⟨2, 1⟩, ⟨1, 0⟩, ⟨1, 2⟩]

/-- A machine on their cells with the rules of both libraries. -/
def navigating (state : String) (i : Int) : Machine :=
  .onRow (next.rules ++ prev.rules) adjoining state i

/-- To the second number, back to it from the third, and to the third and back again. -/
theorem next_prev_lead_adjoining :
    let t := cellAt (spread adjoining 0)
    (∃ k, (navigating "next0" 2).ComesTo ⟨t, 2, "next0"⟩ 3 k ⟨t, 5, "nextf"⟩) ∧
    (∃ k, (navigating "prev0" 7).ComesTo ⟨t, 7, "prev0"⟩ 4 k ⟨t, 5, "prevf"⟩) ∧
    ∃ k d l f, Machine.Calls next 2 (navigating "" 2) ⟨t, 2, ""⟩ k d ∧ d.head = 7 ∧
      Machine.Calls prev 2 k d l f ∧ f.tape = t ∧ f.head = 2 := by
  intro t
  have hrules : ∀ r ∈ next.rules ++ prev.rules,
      (navigating "next0" 0).table.find? r.source r.read = some r := by decide
  have hnext : ∀ state i, (navigating state i).Links next :=
    fun _ _ r hr => hrules r (List.mem_append_left _ hr)
  have hprev : ∀ state i, (navigating state i).Links prev :=
    fun _ _ r hr => hrules r (List.mem_append_right _ hr)
  have hrow : Bears (cellAt (spread adjoining 0)) [⟨2, 1⟩, ⟨5, 0⟩, ⟨7, 2⟩] :=
    bears_cells (by decide) 0
  have hchain : List.IsChain Numeral.Adjoins [⟨2, 1⟩, ⟨5, 0⟩, ⟨7, 2⟩] := by
    simp [Numeral.Adjoins, Numeral.last]
  have hshown : ∀ state i, (navigating state i).Shows ⟨cellAt (spread adjoining 0), i, state⟩ :=
    Machine.shows_onRow _ _
  obtain ⟨hforth, hback, hcalls⟩ := next_prev_lead
  refine ⟨hforth _ _ _ 0 (by decide) (by decide) (hnext _ _) hrow hchain (hshown _ _),
    hback _ _ _ 1 (by decide) (by decide) (hprev _ _) hrow hchain (hshown _ _), ?_⟩
  obtain ⟨⟨k, d, hk⟩, hall⟩ :=
    hcalls _ _ _ "" 0 2 (by decide) (by decide) (hnext _ _) (hprev _ _) hrow hchain (hshown _ _)
  obtain ⟨-, -, hthird, ⟨l, f, hl⟩, hreturns⟩ := hall k d hk
  obtain ⟨-, htape, hhead⟩ := hreturns l f hl
  exact ⟨k, d, l, f, hk, hthird, hl, htape, hhead⟩

end Catalog

end TapeMachine
