import TapeMachine.Proofs.Runs

/-! What the libraries of the catalog do to unary numbers, on a tape that is arbitrary otherwise. -/
namespace TapeMachine.Catalog

open Textbook

variable {δ : Transitions} {stop : String} {t : Int → Bool} {h : Int} {a b n : ℕ}

/-- A number with a blank on each side. -/
def enclosed (n : ℕ) : List Bool := false :: (unary n ++ [false])

/-- Two numbers with one blank between them, and a blank on each side. -/
def summands (a b : ℕ) : List Bool := false :: (unary a ++ enclosed b)

theorem length_unary (n : ℕ) : (unary n).length = n + 1 := List.length_replicate

theorem holds_unary : Holds t h (unary n) ↔ ∀ j, h ≤ j → j ≤ h + n → t j = true := by
  rw [unary, holds_replicate]
  grind

theorem holds_enclosed : Holds t (h - 1) (enclosed n) ↔
    t (h - 1) = false ∧ (∀ j, h ≤ j → j ≤ h + n → t j = true) ∧ t (h + n + 1) = false := by
  rw [enclosed, holds_cons, holds_append, holds_cons, Int.sub_add_cancel, holds_unary, length_unary,
    Int.natCast_succ, ← Int.add_assoc]
  simp [Holds]

theorem holds_summands : Holds t (h - 1) (summands a b) ↔
    t (h - 1) = false ∧ (∀ j, h ≤ j → j ≤ h + a → t j = true) ∧ t (h + a + 1) = false ∧
      (∀ j, h + a + 2 ≤ j → j ≤ h + a + 2 + b → t j = true) ∧ t (h + a + b + 3) = false := by
  have hsecond : h - 1 + 1 + ((unary a).length : ℕ) = h + a + 2 - 1 := by
    rw [length_unary]
    omega
  rw [summands, holds_cons, holds_append, hsecond, holds_enclosed, Int.sub_add_cancel, holds_unary]
  grind

/-- The tape once the blank between two numbers is filled. -/
def joined (t : Int → Bool) (h : Int) (a : ℕ) : Int → Bool := Function.update t (h + a + 1) true

theorem holds_joined (hcells : Holds t (h - 1) (summands a b)) :
    Holds (joined t h a) (h - 1) (enclosed (a + b + 2)) := by
  obtain ⟨hleft, hfirst, -, hsecond, hright⟩ := holds_summands.mp hcells
  refine holds_enclosed.mpr ⟨?_, ?_, ?_⟩
  · rw [joined, Function.update_of_ne (by omega), hleft]
  · intro j hj hlast
    rw [joined, Function.update_apply]
    split
    · rfl
    · by_cases hbefore : j ≤ h + a
      · exact hfirst j hj hbefore
      · exact hsecond j (by omega) (by omega)
  · rw [joined, Function.update_of_ne (by omega)]
    convert hright using 2
    omega

/-- On its way to the right `sum` joins the two numbers. -/
theorem sum_joins (hδ : δ.Obeys sum.rules stop) (hcells : Holds t (h - 1) (summands a b)) :
    Runs δ stop ⟨t, h, "sum0"⟩ (a + b + 3) ⟨joined t h a, h + a + b + 3, "sum1"⟩ := by
  obtain ⟨-, hfirst, hgap, hsecond, -⟩ := holds_summands.mp hcells
  have toGap : Runs δ stop ⟨t, h, "sum0"⟩ (a + 1) ⟨t, h + a + 1, "sum0"⟩ :=
    runs_right hδ (r := ⟨"sum0", true, true, .right, "sum0"⟩) (by decide) rfl rfl rfl
      (fun j hj hlast => hfirst j hj (by omega)) (by omega)
  have overGap : Runs δ stop ⟨t, h + a + 1, "sum0"⟩ 1 ⟨joined t h a, h + a + 2, "sum1"⟩ :=
    runs_rule hδ (r := ⟨"sum0", false, true, .right, "sum1"⟩) (by decide) hgap rfl
      (by simp only [Move.offset]; omega)
  have toEnd : Runs δ stop ⟨joined t h a, h + a + 2, "sum1"⟩ (b + 1)
      ⟨joined t h a, h + a + b + 3, "sum1"⟩ := by
    refine runs_right hδ (r := ⟨"sum1", true, true, .right, "sum1"⟩)
      (by decide) rfl rfl rfl ?_ (by omega)
    intro j hj hlast
    rw [joined, Function.update_of_ne (by omega)]
    exact hsecond j hj (by omega)
  convert (toGap.trans overGap).trans toEnd using 1
  omega

/-- The tape once the two last ones of a number are erased. -/
def shortened (t : Int → Bool) (h : Int) (n : ℕ) : Int → Bool :=
  Function.update (Function.update t (h + n + 2) false) (h + n + 1) false

theorem shortened_of_ne {j : Int} (hlast : j ≠ h + n + 2) (hprevious : j ≠ h + n + 1) :
    shortened t h n j = t j := by
  rw [shortened, Function.update_of_ne hprevious, Function.update_of_ne hlast]

theorem replaces_shortened (hcells : Holds t (h - 1) (enclosed (n + 2))) :
    Replaces t h (unary n ++ [false, false]) (shortened t h n) := by
  obtain ⟨-, hones, -⟩ := holds_enclosed.mp hcells
  constructor
  · rw [holds_append, holds_cons, holds_cons, holds_unary, length_unary]
    refine ⟨?_, ?_, ?_, by simp [Holds]⟩
    · intro j hj hlast
      rw [shortened_of_ne (by omega) (by omega)]
      exact hones j hj (by omega)
    · rw [Int.natCast_succ, ← Int.add_assoc]
      exact Function.update_self ..
    · have hlast : h + ((n + 1 : ℕ) : Int) + 1 = h + n + 2 := by omega
      rw [hlast, shortened, Function.update_of_ne (by omega)]
      exact Function.update_self ..
  · intro j hj
    rw [List.length_append, length_unary] at hj
    simp only [List.length_cons, List.length_nil] at hj
    exact shortened_of_ne (by omega) (by omega)

/-- On its way back to the left `sum` erases two ones: the one that joined the numbers, and one
because a number is written with one more. -/
theorem sum_shortens (hδ : δ.Obeys sum.rules stop) (hcells : Holds t (h - 1) (enclosed (n + 2))) :
    Runs δ stop ⟨t, h + n + 3, "sum1"⟩ (n + 5) ⟨shortened t h n, h, "sumf"⟩ := by
  obtain ⟨hleft, hones, hright⟩ := holds_enclosed.mp hcells
  have turn : Runs δ stop ⟨t, h + n + 3, "sum1"⟩ 1 ⟨t, h + n + 2, "sum2"⟩ := by
    have hblank : t (h + n + 3) = false := by
      convert hright using 2
      omega
    exact runs_keep hδ (r := ⟨"sum1", false, false, .left, "sum2"⟩) (by decide) rfl hblank
      (by simp only [Move.offset]; omega)
  have eraseLast : Runs δ stop ⟨t, h + n + 2, "sum2"⟩ 1
      ⟨Function.update t (h + n + 2) false, h + n + 1, "sum3"⟩ :=
    runs_rule hδ (r := ⟨"sum2", true, false, .left, "sum3"⟩) (by decide)
      (hones _ (by omega) (by omega)) rfl (by simp only [Move.offset]; omega)
  have erasePrevious : Runs δ stop ⟨Function.update t (h + n + 2) false, h + n + 1, "sum3"⟩ 1
      ⟨shortened t h n, h + n, "sum4"⟩ := by
    refine runs_rule hδ (r := ⟨"sum3", true, false, .left, "sum4"⟩) (by decide) ?_ rfl ?_
    · rw [Function.update_of_ne (by omega)]
      exact hones _ (by omega) (by omega)
    · simp only [Move.offset]
      omega
  have toStart : Runs δ stop ⟨shortened t h n, h + n, "sum4"⟩ (n + 1)
      ⟨shortened t h n, h - 1, "sum4"⟩ := by
    refine runs_left hδ (r := ⟨"sum4", true, true, .left, "sum4"⟩)
      (by decide) rfl rfl rfl ?_ (by omega)
    intro j hj hlast
    rw [shortened_of_ne (by omega) (by omega)]
    exact hones j (by omega) (by omega)
  have stepBack : Runs δ stop ⟨shortened t h n, h - 1, "sum4"⟩ 1 ⟨shortened t h n, h, "sumf"⟩ := by
    have hblank : shortened t h n (h - 1) = false := by
      rw [shortened_of_ne (by omega) (by omega), hleft]
    exact runs_keep hδ (r := ⟨"sum4", false, false, .right, "sumf"⟩) (by decide) rfl hblank
      (by simp only [Move.offset]; omega)
  convert (((turn.trans eraseLast).trans erasePrevious).trans toStart).trans stepBack using 1
  omega

theorem sum_runs (hδ : δ.Obeys sum.rules stop) (hcells : Holds t (h - 1) (summands a b)) :
    ∃ u, Replaces t h (unary (a + b) ++ [false, false]) u ∧
      Runs δ stop ⟨t, h, "sum0"⟩ (2 * a + 2 * b + 8) ⟨u, h, "sumf"⟩ := by
  have hjoined := holds_joined hcells
  refine ⟨shortened (joined t h a) h (a + b), ?_, ?_⟩
  · obtain ⟨hholds, hothers⟩ := replaces_shortened hjoined
    refine ⟨hholds, fun j hj => ?_⟩
    rw [hothers j hj, joined, Function.update_of_ne]
    rw [List.length_append, length_unary] at hj
    simp only [List.length_cons, List.length_nil] at hj
    omega
  · have hback := sum_shortens hδ hjoined
    rw [Int.natCast_add, ← Int.add_assoc] at hback
    convert (sum_joins hδ hcells).trans hback using 1
    omega

/-- The library `sum` adds two numbers wherever they are on a tape, whatever else is there. A
machine that has its rules, in its first state and with the head on the first of two numbers that
one blank separates, comes to its final state after exactly `2 * a + 2 * b + 8` steps. Then the head
is back where it was, on the sum of the numbers; two blanks make up for what was there before, and
no other cell has changed. -/
theorem sum_adds (m : Machine) (c : Config) (a b : ℕ) (hrules : m.Links sum) (hc : m.Shows c)
    (hstate : c.state = sum.initial) (hcells : Holds c.tape (c.head - 1) (summands a b)) :
    ∃ u, Replaces c.tape c.head (unary (a + b) ++ [false, false]) u ∧
      c.after m.transitions (2 * a + 2 * b + 8) = ⟨u, c.head, sum.final⟩ ∧
      (∀ k, (m.after k).Shows (c.after m.transitions k)) ∧
      (m.after (2 * a + 2 * b + 8)).steps = m.steps + (2 * a + 2 * b + 8) ∧
      ∀ k < 2 * a + 2 * b + 8, (m.after k).current ≠ sum.final := by
  have hδ : m.transitions.Obeys sum.rules sum.final := Machine.obeys_of_links hrules (by decide)
  obtain ⟨-, hfirst, -⟩ := holds_summands.mp hcells
  have hin : m.tape.Inside := by
    apply Tape.inside_of_around
    rw [hc.tape, Int.add_zero]
    exact hfirst c.head (by omega) (by omega)
  have hshows := fun k => (Machine.shows_after hin hc k).2.1
  obtain ⟨u, hu, hruns⟩ := sum_runs hδ hcells
  have hstart : c = ⟨c.tape, c.head, "sum0"⟩ := by
    rw [show ("sum0" : String) = c.state from hstate.symm]
  rw [← hstart] at hruns
  obtain ⟨k, hk⟩ := Machine.follows_of_runs hruns hin hc rfl
  refine ⟨u, hu, hruns.after_eq, hshows, ?_, ?_⟩
  · rw [hk.walk.after_eq, hk.walk.steps_eq]
  · intro i hi
    rw [(hshows i).state]
    exact hruns.state_ne i hi

/-- Zero and zero, with a one two cells away on each side. -/
def twoZeros : Machine :=
  { Machine.load [] "sum0" [] sum.rules with
    tape := .within [false, true] true [false, true, false, true] }

theorem sum_adds_twoZeros :
    let c : Config := ⟨cellAt twoZeros.tape.cells, 2, "sum0"⟩
    twoZeros.Links sum ∧ twoZeros.Shows c ∧ c.state = sum.initial ∧
      Holds c.tape (c.head - 1) (summands 0 0) ∧
      (∃ u, Replaces c.tape c.head [true, false, false] u ∧
        c.after twoZeros.transitions 8 = ⟨u, 2, "sumf"⟩) ∧
      (twoZeros.after 8).tape.cells =
        [false, false, true, false, true, false, false, false, true, false, false] := by
  intro c
  have hrules : twoZeros.Links sum := by
    unfold Machine.Links
    decide
  have hc : twoZeros.Shows c := ⟨rfl, fun _ => rfl⟩
  have hcells : Holds c.tape (c.head - 1) (summands 0 0) := by
    unfold Holds
    decide
  obtain ⟨u, hu, hafter, -⟩ := sum_adds twoZeros c 0 0 hrules hc rfl hcells
  exact ⟨hrules, hc, rfl, hcells, ⟨u, hu, hafter⟩, by decide⟩

/-- One is added in the blank before the number, whatever is on the other side of that blank. -/
theorem inc_runs (hδ : δ.Obeys inc.rules stop) (hcells : Holds t (h - 1) [false, true]) :
    Runs δ stop ⟨t, h, "inc0"⟩ 2 ⟨Function.update t (h - 1) true, h - 1, "incf"⟩ := by
  obtain ⟨hblank, hone, -⟩ := by simpa only [holds_cons, Int.sub_add_cancel] using hcells
  have stepBack : Runs δ stop ⟨t, h, "inc0"⟩ 1 ⟨t, h - 1, "inc1"⟩ :=
    runs_keep hδ (r := ⟨"inc0", true, true, .left, "inc1"⟩) (by decide) rfl hone rfl
  have fill : Runs δ stop ⟨t, h - 1, "inc1"⟩ 1 ⟨Function.update t (h - 1) true, h - 1, "incf"⟩ :=
    runs_rule hδ (r := ⟨"inc1", false, true, .halt, "incf"⟩) (by decide) hblank rfl
      (Int.add_zero _).symm
  exact stepBack.trans fill

/-- What is behind the first one tells whether there is anything to take away. -/
theorem dec_runs_zero (hδ : δ.Obeys dec.rules stop) (hcells : Holds t h [true, false]) :
    Runs δ stop ⟨t, h, "dec0"⟩ 2 ⟨t, h, "decf"⟩ := by
  obtain ⟨hone, hblank, -⟩ := by simpa only [holds_cons] using hcells
  have look : Runs δ stop ⟨t, h, "dec0"⟩ 1 ⟨t, h + 1, "dec1"⟩ :=
    runs_keep hδ (r := ⟨"dec0", true, true, .right, "dec1"⟩) (by decide) rfl hone rfl
  have stepBack : Runs δ stop ⟨t, h + 1, "dec1"⟩ 1 ⟨t, h, "decf"⟩ :=
    runs_keep hδ (r := ⟨"dec1", false, false, .left, "decf"⟩) (by decide) rfl hblank
      (by simp only [Move.offset]; omega)
  exact look.trans stepBack

theorem dec_runs_succ (hδ : δ.Obeys dec.rules stop) (hcells : Holds t h [true, true]) :
    Runs δ stop ⟨t, h, "dec0"⟩ 3 ⟨Function.update t h false, h + 1, "decf"⟩ := by
  obtain ⟨hone, hnext, -⟩ := by simpa only [holds_cons] using hcells
  have look : Runs δ stop ⟨t, h, "dec0"⟩ 1 ⟨t, h + 1, "dec1"⟩ :=
    runs_keep hδ (r := ⟨"dec0", true, true, .right, "dec1"⟩) (by decide) rfl hone rfl
  have stepBack : Runs δ stop ⟨t, h + 1, "dec1"⟩ 1 ⟨t, h, "dec2"⟩ :=
    runs_keep hδ (r := ⟨"dec1", true, true, .left, "dec2"⟩) (by decide) rfl hnext
      (by simp only [Move.offset]; omega)
  have erase : Runs δ stop ⟨t, h, "dec2"⟩ 1 ⟨Function.update t h false, h + 1, "decf"⟩ :=
    runs_rule hδ (r := ⟨"dec2", true, false, .right, "decf"⟩) (by decide) hone rfl rfl
  exact (look.trans stepBack).trans erase

end TapeMachine.Catalog
