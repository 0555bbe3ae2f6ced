import Mathlib.Data.Finset.Card
import TapeMachine.Proofs.Halting
import TapeMachine.Proofs.Linking
import TapeMachine.Proofs.Runs

/-!
Libraries that cannot hang: their rules lead from each state to a later one, or stay in a state only
to pass over a one. A tape has finitely many ones, so a run comes to an end on every tape.
-/
namespace TapeMachine

namespace Textbook

variable {δ : Transitions} {stop state : String} {rank : String → ℕ} {t : Int → Bool} {h : Int}
  {move : Move} {c : Config} {n i N : ℕ}

/-- There are at most so many ones on a tape. -/
def OnesWithin (t : Int → Bool) (n : ℕ) : Prop :=
  ∃ places : Finset Int, places.card ≤ n ∧ ∀ i, t i = true → i ∈ places

theorem onesWithin_update (ht : OnesWithin t n) (h : Int) (b : Bool) :
    OnesWithin (Function.update t h b) (n + 1) := by
  classical
  obtain ⟨places, hcard, hones⟩ := ht
  refine ⟨insert h places, ?_, ?_⟩
  · have hinsert := Finset.card_insert_le h places
    omega
  · intro i hi
    by_cases hih : i = h
    · simp [hih]
    · rw [Function.update_of_ne hih] at hi
      exact Finset.mem_insert_of_mem (hones i hi)

theorem onesWithin_cellAt (cells : List Bool) : OnesWithin (cellAt cells) cells.length := by
  refine ⟨(Finset.range cells.length).image Nat.cast, ?_, ?_⟩
  · simpa using Finset.card_image_le (s := Finset.range cells.length) (f := (Nat.cast : ℕ → Int))
  · intro i hi
    by_cases hout : i < 0 ∨ cells.length ≤ i
    · rw [cellAt_outside hout] at hi
      cases hi
    · simp only [Finset.mem_image, Finset.mem_range]
      exact ⟨i.toNat, by omega, by omega⟩

/-- A head that moves on passes no more ones than there are. -/
theorem OnesWithin.le (ht : OnesWithin t n) (hmove : move ≠ .halt)
    (hones : ∀ j < i, t (h + (j : ℕ) * move.offset) = true) : i ≤ n := by
  obtain ⟨places, hcard, hplaces⟩ := ht
  have hmaps : ∀ j ∈ Finset.range i, h + (j : ℕ) * move.offset ∈ places := by
    intro j hj
    exact hplaces _ (hones j (Finset.mem_range.mp hj))
  have hinj : Set.InjOn (fun j : ℕ => h + j * move.offset) (Finset.range i) := by
    intro j _ k _ hjk
    cases move with
    | halt => exact (hmove rfl).elim
    | left | right =>
      simp only [Move.offset] at hjk
      omega
  have hle := Finset.card_le_card_of_injOn _ hmaps hinj
  rw [Finset.card_range] at hle
  omega

/-- So it comes to a blank. -/
theorem OnesWithin.exists_blank (ht : OnesWithin t n) (h : Int) (hmove : move ≠ .halt) :
    ∃ i ≤ n, t (h + i * move.offset) = false ∧ ∀ j < i, t (h + (j : ℕ) * move.offset) = true := by
  classical
  have hblank : ∃ i, t (h + (i : ℕ) * move.offset) = false := by
    by_contra hnone
    have hle : n + 1 ≤ n := by
      apply ht.le (h := h) hmove
      intro j _
      by_contra hj
      exact hnone ⟨j, by simpa using hj⟩
    omega
  have hbefore : ∀ j < Nat.find hblank, t (h + (j : ℕ) * move.offset) = true := by
    intro j hj
    simpa using Nat.find_min hblank hj
  exact ⟨Nat.find hblank, ht.le hmove hbefore, Nat.find_spec hblank, hbefore⟩

/-- A rule that stays in its state and passes over a one takes the head to a blank. -/
theorem exists_sweep (ht : OnesWithin t n) (h : Int) (hstop : state ≠ stop)
    (hrule : δ state true = some ⟨true, move, state⟩) (hmove : move ≠ .halt) :
    ∃ i ≤ n, ∃ g, Runs δ stop ⟨t, h, state⟩ i ⟨t, g, state⟩ ∧ t g = false := by
  obtain ⟨i, hi, hblank, hones⟩ := ht.exists_blank h hmove
  have hobeys : δ.Obeys [⟨state, true, true, move, state⟩] stop := by
    intro r hr
    obtain rfl := List.mem_singleton.mp hr
    exact ⟨hstop, hrule⟩
  exact ⟨i, hi, _, runs_along hobeys (List.mem_singleton_self _) rfl rfl hones rfl, hblank⟩

/-- Each rule leads to a state of a higher rank, or stays in its state and passes over a one. -/
def Transitions.Onward (δ : Transitions) (stop : String) (rank : String → ℕ) : Prop :=
  ∀ state b e, state ≠ stop → δ state b = some e → rank state < rank e.target ∨
    e.target = state ∧ b = true ∧ e.write = true ∧ e.move ≠ .halt

namespace Config

/-- A run has come to its end: it is in the state `stop`, or no rule applies. -/
def Ended (δ : Transitions) (stop : String) (c : Config) : Prop := c.state = stop ∨ c.next? δ = none

/-- A run does not stay in its state: it has ended, or the next step leads to a state of a higher
rank. -/
def Departs (δ : Transitions) (stop : String) (rank : String → ℕ) (c : Config) : Prop :=
  c.Ended δ stop ∨ c.state ≠ stop ∧ ∃ d, c.next? δ = some d ∧ rank c.state < rank d.state

theorem onesWithin_next {d : Config} (hc : OnesWithin c.tape n) (hnext : c.next? δ = some d) :
    OnesWithin d.tape (n + 1) := by
  obtain ⟨e, -, rfl⟩ := Option.map_eq_some_iff.mp hnext
  exact onesWithin_update hc c.head e.write

/-- Where a run stays in its state it passes over a one. -/
theorem departs_or_sweeps (hδ : δ.Onward stop rank) (c : Config) : c.Departs δ stop rank ∨
    c.state ≠ stop ∧ c.tape c.head = true ∧
      ∃ move, move ≠ .halt ∧ δ c.state true = some ⟨true, move, c.state⟩ := by
  by_cases hstop : c.state = stop
  · exact .inl (.inl (.inl hstop))
  cases he : δ c.state (c.tape c.head) with
  | none => exact .inl (.inl (.inr (by simp [next?, he])))
  | some e =>
    rcases hδ _ _ e hstop he with hlt | ⟨htarget, hread, hwrite, hmove⟩
    · exact .inl (.inr ⟨hstop, _, by rw [next?, he]; rfl, hlt⟩)
    · refine .inr ⟨hstop, hread, e.move, hmove, ?_⟩
      rw [← hread, he, ← htarget, hread, ← hwrite]

end Config

/-- A run passes over ones in its state, until it departs. -/
theorem exists_departure (hδ : δ.Onward stop rank) (hc : OnesWithin c.tape n) :
    ∃ i ≤ n, ∃ d, Runs δ stop c i d ∧ d.tape = c.tape ∧ d.state = c.state ∧
    d.Departs δ stop rank := by
  rcases c.departs_or_sweeps hδ with hdeparts | ⟨hstop, -, move, hmove, hrule⟩
  · exact ⟨0, Nat.zero_le n, c, .refl, rfl, rfl, hdeparts⟩
  · obtain ⟨i, hi, g, hruns, hblank⟩ := exists_sweep hc c.head hstop hrule hmove
    refine ⟨i, hi, _, hruns, rfl, rfl, ?_⟩
    rcases Config.departs_or_sweeps hδ ⟨c.tape, g, c.state⟩ with hdeparts | ⟨-, hone, -⟩
    · exact hdeparts
    · simp [hblank] at hone

/-- Every run ends, after a number of steps that the ranks and the ones bound. -/
theorem exists_end (hδ : δ.Onward stop rank) (hrank : ∀ state, rank state ≤ N)
    (hc : OnesWithin c.tape n) : ∃ i d, Runs δ stop c i d ∧ d.Ended δ stop ∧
      i ≤ (N - rank c.state + 1) * (n + (N - rank c.state) + 1) := by
  -- the induction is on the ranks that are left
  generalize hk : N - rank c.state = k
  induction k using Nat.strong_induction_on generalizing c n with
  | _ k ih =>
    have hsplit : (k + 1) * (n + k + 1) = k * (n + k + 1) + (n + k + 1) :=
      Nat.succ_mul k (n + k + 1)
    obtain ⟨i, hi, d, hruns, htape, hstate, hended | ⟨hstop, f, hnext, hlt⟩⟩ :=
      exists_departure hδ hc
    · exact ⟨i, d, hruns, hended, by omega⟩
    · have hless : N - rank f.state < k := by
        have hle := hrank f.state
        rw [hstate] at hlt
        omega
      have hones : OnesWithin f.tape (n + 1) := Config.onesWithin_next (htape ▸ hc) hnext
      obtain ⟨j, g, hrest, hended, hj⟩ := ih _ hless hones rfl
      have hone : Runs δ stop d 1 f := .step hstop hnext .refl
      refine ⟨i + (1 + j), g, hruns.trans (hone.trans hrest), hended, ?_⟩
      have hbound : (N - rank f.state + 1) * (n + 1 + (N - rank f.state) + 1) ≤ k * (n + k + 1) :=
        Nat.mul_le_mul (by omega) (by omega)
      omega

end Textbook

open Textbook

/-- The rules of a library lead from each of its states to a later one in the order in which it
declares them, or stay in a state and pass over a one; none leads on from its last state. -/
structure Library.Onward (L : Library) : Prop where
  final : ∀ r ∈ L.rules, r.source ≠ L.final
  forward : ∀ r ∈ L.rules, L.used.idxOf r.source < L.used.idxOf r.target ∨
    r.target = r.source ∧ r.read = true ∧ r.write = true ∧ r.move ≠ .halt

theorem Catalog.onward {L : Library} (h : L ∈ all) : L.Onward := by
  have hall : ∀ L ∈ all, (∀ r ∈ L.rules, r.source ≠ L.final) ∧
      ∀ r ∈ L.rules, L.used.idxOf r.source < L.used.idxOf r.target ∨
        r.target = r.source ∧ r.read = true ∧ r.write = true ∧ r.move ≠ .halt := by decide
  obtain ⟨hfinal, hforward⟩ := hall L h
  exact ⟨hfinal, hforward⟩

namespace Machine

variable {L : Library} {m k : Machine} {c d : Config} {n fuel : ℕ}

/-- A machine has the rules of a library and no others, and has yet to take the first step: it is in
the first state, the last one is its only final state, and the head is on any of the cells. -/
structure Begins (L : Library) (m : Machine) : Prop where
  table : m.table = Table.ofRules L.rules
  finals : m.finals = [L.final]
  current : m.current = L.initial
  previous : m.previous = none
  inside : m.tape.Inside

/-- Where a machine comes to an end it is finished in the last state of a library, or undefined. -/
def EndsIn (L : Library) (k : Machine) : Prop :=
  k.finished = .ok true ∧ k.current = L.final ∧ k.isUndefined = .ok false ∨
    k.finished = .ok false ∧ k.isUndefined = .ok true

theorem find?_of_begins (hm : m.Begins L) {state : String} {b : Bool} {r : Rule Bool}
    (hr : m.table.find? state b = some r) : r ∈ L.rules ∧ r.source = state ∧ r.read = b := by
  have hkey := Table.key_of_find? hr
  rw [hm.table, Table.find?_ofRules] at hr
  simp only [Rule.key, Prod.mk.injEq] at hkey
  exact ⟨Table.mem_of_last? hr, hkey⟩

theorem onward_of_begins (hL : L.Onward) (hm : m.Begins L) :
    m.transitions.Onward L.final L.used.idxOf := by
  intro state b e hstop he
  cases hr : m.table.find? state b with
  | none => simp [transitions, Transitions.ofTable, hr, hm.finals, hstop] at he
  | some r =>
    obtain ⟨hmem, rfl, rfl⟩ := find?_of_begins hm hr
    obtain rfl : e = ⟨r.write, r.move, r.target⟩ := by
      simpa [transitions, Transitions.ofTable, hr, eq_comm] using he
    exact hL.forward r hmem

/-- A machine that settles after a walk has gone on all the way. -/
theorem Walk.proceeds (h : Walk m n k) (hm : m.Readable) (hs : settle fuel m = (.ok true, k)) :
    Proceeds none m n k ∧ k.Rests none := by
  obtain ⟨taken, hp, hk⟩ := proceeds_of_settle hm hs
  have hn := h.steps_eq
  have htaken := hp.walk.steps_eq
  obtain rfl : taken = n := by omega
  exact ⟨hp, hk⟩

/-- A run that has ended takes a machine to where it settles, with one more step in its last
state. -/
theorem exists_rest (hL : L.Onward) (hm : m.Begins L) (hc : m.Shows c)
    (h : Runs m.transitions L.final c n d) (hended : d.Ended m.transitions L.final) :
    ∃ i ≤ n + 1, ∃ k, Proceeds none m i k ∧ k.Rests none ∧ k.EndsIn L := by
  have hreadable := readable_of_inside hm.inside
  have hprevious : m.previous ≠ some L.final := by simp [hm.previous]
  by_cases hd : d.state = L.final
  · have hnone : ∀ symbol, m.table.find? L.final symbol = none := by
      intro symbol
      cases hr : m.table.find? L.final symbol with
      | none => rfl
      | some r =>
        obtain ⟨hmem, hsource, -⟩ := find?_of_begins hm hr
        exact (hL.final r hmem hsource).elim
    obtain ⟨k, hwalk, hshown, hfinished, hdefined, hsettle⟩ :=
      settle_of_runs h hm.inside hc hm.finals hd hnone hprevious
    obtain ⟨hp, hk⟩ := hwalk.proceeds hreadable (hsettle 0)
    exact ⟨n + 1, le_rfl, k, hp, hk, .inl ⟨hfinished, hshown.state.trans hd, hdefined⟩⟩
  · obtain ⟨k, hk⟩ := follows_of_runs h hm.inside hc rfl
    have hsame :
        k.transitions = m.transitions := by rw [transitions, hk.table, hk.finals, transitions]
    have hstuck : k.step = .ok none := by
      have hnone := next?_of_shows hk.shown
      rw [hsame, hended.resolve_left hd, eq_comm, Option.map_eq_none_iff] at hnone
      rw [step_eq (Tape.symbol?_of_inside (hk.walk.inside hm.inside)), hnone]
      rfl
    have hsettle : settle (n + 1) m = (.ok true, k) := by
      rw [hk.settle (by simp [hm.finals]) 1]
      exact settle_of_rests (.stuck hstuck) 0
    obtain ⟨hp, hrests⟩ := hk.walk.proceeds hreadable hsettle
    exact ⟨n, by omega, k, hp, hrests, .inr ⟨finished_of_stuck hstuck, isUndefined_iff.mpr hstuck⟩⟩

end Machine

namespace Catalog

variable {L : Library} {m : Machine}

/-- No library of the catalog can hang. Alone on any tape, with the head on any cell of it, it
settles: the machine is finished in the last state of the library, or no rule applies. The steps
that this takes are bounded by the states of the library and the cells of the tape. -/
theorem library_settles (hL : L ∈ all) (hm : m.Begins L) :
    ∃ n k, (∀ fuel, m.perform (.settle fuel) =
        if n < fuel then (.ok (.settled (some (k.steps, k.tape.ones))), k)
        else (.ok (.settled none), m.after fuel)) ∧ k = m.after n ∧ k.EndsIn L ∧
      n ≤ (L.used.length + 1) * (m.tape.cells.length + L.used.length + 1) + 1 := by
  have honward := onward hL
  have hshown : m.Shows ⟨cellAt m.tape.cells, m.tape.head, m.current⟩ := ⟨rfl, fun _ => rfl⟩
  obtain ⟨i, d, hruns, hended, hi⟩ := exists_end (Machine.onward_of_begins honward hm)
    (fun _ => List.idxOf_le_length) (c := ⟨cellAt m.tape.cells, m.tape.head, m.current⟩)
    (onesWithin_cellAt m.tape.cells)
  obtain ⟨n, hn, k, hp, hrests, hk⟩ := Machine.exists_rest honward hm hshown hruns hended
  refine ⟨n, k, Machine.perform_settle hp hrests, hp.walk.after_eq.symm, hk, ?_⟩
  generalize L.used.idxOf m.current = first at hi
  have hbound : (L.used.length - first + 1) * (m.tape.cells.length + (L.used.length - first) + 1) ≤
      (L.used.length + 1) * (m.tape.cells.length + L.used.length + 1) :=
    Nat.mul_le_mul (by omega) (by omega)
  omega

/-- The head is on the second one of a number, where `prev` is not meant to begin. -/
def misplaced : Machine := (Machine.load [true, true] "prev0" ["prevf"] prev.rules).setHead 4

theorem library_settles_misplaced : prev ∈ all ∧ misplaced.Begins prev ∧
    ∃ n k, k = misplaced.after n ∧ k.EndsIn prev ∧ n ≤ 61 := by
  have hall : prev ∈ all := by decide
  have hbegins : misplaced.Begins prev := ⟨by decide, rfl, rfl, rfl, by decide⟩
  obtain ⟨n, k, -, hk, hends, hn⟩ := library_settles hall hbegins
  exact ⟨hall, hbegins, n, k, hk, hends, hn⟩

end Catalog

end TapeMachine
