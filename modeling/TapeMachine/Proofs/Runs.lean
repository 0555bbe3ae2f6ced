import TapeMachine.Library
import TapeMachine.Proofs.Finished
import TapeMachine.Proofs.Textbook

/-! Runs of the textbook machine by the rules of a library, and the walks of machines that show
them. -/
namespace TapeMachine

namespace Textbook

variable {δ : Transitions} {stop : String} {c d e next : Config} {n i : ℕ}

/-- A configuration goes on to another by so many steps, each with a rule that applies, and none of
them from the state `stop`. -/
inductive Runs (δ : Transitions) (stop : String) : Config → ℕ → Config → Prop
  | refl {c : Config} : Runs δ stop c 0 c
  | step {c next d : Config} {n : ℕ} :
      c.state ≠ stop → c.next? δ = some next → Runs δ stop next n d → Runs δ stop c (n + 1) d

namespace Config

theorem after_succ_left (h : c.next? δ = some next) (n : ℕ) :
    c.after δ (n + 1) = next.after δ n := by
  induction n with
  | zero => simp [after, h]
  | succ n ih => rw [after, ih, after]

end Config

namespace Runs

theorem trans (h : Runs δ stop c n d) (g : Runs δ stop d i e) : Runs δ stop c (n + i) e := by
  induction h with
  | refl => simpa using g
  | step hs hn _ ih =>
    rw [Nat.add_right_comm]
    exact .step hs hn (ih g)

theorem after_eq (h : Runs δ stop c n d) : c.after δ n = d := by
  induction h with
  | refl => rfl
  | step _ hn _ ih => rw [Config.after_succ_left hn, ih]

theorem state_ne (h : Runs δ stop c n d) : ∀ k < n, (c.after δ k).state ≠ stop := by
  induction h with
  | refl => nofun
  | step hs hn _ ih =>
    intro k hk
    cases k with
    | zero => exact hs
    | succ k =>
      rw [Config.after_succ_left hn]
      exact ih k (Nat.lt_of_succ_lt_succ hk)

end Runs

/-- These rules are among the transitions, and none of them is for the state `stop`. -/
def Transitions.Obeys (δ : Transitions) (rules : List (Rule Bool)) (stop : String) : Prop :=
  ∀ r ∈ rules, r.source ≠ stop ∧ δ r.source r.read = some ⟨r.write, r.move, r.target⟩

variable {rules : List (Rule Bool)} {r : Rule Bool} {t u : Int → Bool} {h g : Int}

theorem runs_rule (hδ : δ.Obeys rules stop) (hr : r ∈ rules) (hread : t h = r.read)
    (hu : u = Function.update t h r.write) (hg : g = h + r.move.offset) :
    Runs δ stop ⟨t, h, r.source⟩ 1 ⟨u, g, r.target⟩ := by
  obtain ⟨hstop, hrule⟩ := hδ r hr
  refine .step hstop ?_ .refl
  simp only [Config.next?, hread, hrule, Option.map_some, hu, hg]

/-- A rule that writes what it reads leaves the tape as it is. -/
theorem runs_keep (hδ : δ.Obeys rules stop) (hr : r ∈ rules) (hwrite : r.write = r.read)
    (hread : t h = r.read) (hg : g = h + r.move.offset) :
    Runs δ stop ⟨t, h, r.source⟩ 1 ⟨t, g, r.target⟩ := by
  refine runs_rule hδ hr hread ?_ hg
  rw [hwrite, ← hread, Function.update_eq_self]

/-- If it stays in its state, too, it takes the head past all such cells. -/
theorem runs_along (hδ : δ.Obeys rules stop) (hr : r ∈ rules) (hwrite : r.write = r.read)
    (hstays : r.target = r.source) (hcells : ∀ k : ℕ, k < n → t (h + k * r.move.offset) = r.read)
    (hg : g = h + n * r.move.offset) : Runs δ stop ⟨t, h, r.source⟩ n ⟨t, g, r.source⟩ := by
  induction n generalizing h with
  | zero =>
    obtain rfl : g = h := by simpa using hg
    exact .refl
  | succ n ih =>
    have hread : t h = r.read := by simpa using hcells 0 (Nat.succ_pos n)
    have hone : Runs δ stop ⟨t, h, r.source⟩ 1 ⟨t, h + r.move.offset, r.target⟩ :=
      runs_keep hδ hr hwrite hread rfl
    rw [hstays] at hone
    rw [Nat.add_comm]
    have hnext : ∀ k : ℕ, h + ((k + 1 : ℕ) : Int) * r.move.offset =
        h + r.move.offset + k * r.move.offset := by
      intro k
      rw [Int.natCast_succ, Int.add_mul, Int.one_mul, Int.add_assoc, Int.add_comm r.move.offset]
    refine hone.trans (ih ?_ ?_)
    · intro k hk
      rw [← hnext]
      exact hcells (k + 1) (Nat.succ_lt_succ hk)
    · rw [hg, hnext]

theorem runs_right (hδ : δ.Obeys rules stop) (hr : r ∈ rules) (hmove : r.move = .right)
    (hwrite : r.write = r.read) (hstays : r.target = r.source)
    (hcells : ∀ j, h ≤ j → j < h + n → t j = r.read) (hg : g = h + n) :
    Runs δ stop ⟨t, h, r.source⟩ n ⟨t, g, r.source⟩ := by
  refine runs_along hδ hr hwrite hstays ?_ (by simpa [hmove, Move.offset] using hg)
  intro k hk
  rw [hmove, Move.offset, Int.mul_one]
  exact hcells _ (by omega) (by omega)

theorem runs_left (hδ : δ.Obeys rules stop) (hr : r ∈ rules) (hmove : r.move = .left)
    (hwrite : r.write = r.read) (hstays : r.target = r.source)
    (hcells : ∀ j, h - n < j → j ≤ h → t j = r.read) (hg : g = h - n) :
    Runs δ stop ⟨t, h, r.source⟩ n ⟨t, g, r.source⟩ := by
  refine runs_along hδ hr hwrite hstays ?_ (by simp only [hmove, Move.offset]; omega)
  intro k hk
  simp only [hmove, Move.offset]
  exact hcells _ (by omega) (by omega)

/-- The tape has these cells from an index on. -/
def Holds (t : Int → Bool) (h : Int) (cells : List Bool) : Prop :=
  ∀ k, (hk : k < cells.length) → t (h + k) = cells[k]

/-- A tape is another one with these cells from an index on instead of its own. -/
structure Replaces (t : Int → Bool) (h : Int) (cells : List Bool) (u : Int → Bool) : Prop where
  holds : Holds u h cells
  others : ∀ j, j < h ∨ h + cells.length ≤ j → u j = t j

variable {cells more : List Bool} {b : Bool}

theorem holds_cons : Holds t h (b :: cells) ↔ t h = b ∧ Holds t (h + 1) cells := by
  constructor
  · intro hc
    have hzero : t (h + (0 : ℕ)) = b := hc 0 (Nat.succ_pos _)
    refine ⟨by simpa using hzero, fun k hk => ?_⟩
    have hk' := hc (k + 1) (by simpa using hk)
    rw [Int.natCast_succ, Int.add_comm (k : Int), ← Int.add_assoc] at hk'
    simpa using hk'
  · rintro ⟨h0, hc⟩ k hk
    cases k with
    | zero => simpa using h0
    | succ k =>
      rw [Int.natCast_succ, Int.add_comm (k : Int), ← Int.add_assoc]
      simpa using hc k (by simpa using hk)

theorem holds_append :
    Holds t h (cells ++ more) ↔ Holds t h cells ∧ Holds t (h + cells.length) more := by
  induction cells generalizing h with
  | nil => simp [Holds]
  | cons b cells ih =>
    rw [List.cons_append, holds_cons, holds_cons, ih, and_assoc, List.length_cons,
      Int.natCast_succ, Int.add_comm (cells.length : Int), Int.add_assoc]

theorem holds_replicate :
    Holds t h (List.replicate n b) ↔ ∀ j, h ≤ j → j < h + n → t j = b := by
  simp only [Holds, List.length_replicate, List.getElem_replicate]
  constructor
  · intro hc j hj hn
    have hk := hc (j - h).toNat (by omega)
    rwa [show h + ((j - h).toNat : Int) = j by omega] at hk
  · intro hc k hk
    exact hc _ (by omega) (by omega)

theorem holds_cellAt (cells : List Bool) : Holds (cellAt cells) 0 cells := by
  intro k hk
  rw [Int.zero_add, cellAt_natCast, List.getElem?_eq_getElem hk, Option.getD_some]

/-- Nothing is left of cells when others replace all of them. -/
theorem Replaces.eq_cellAt (hu : Replaces (cellAt more) 0 cells u)
    (hlen : more.length ≤ cells.length) :
    u = cellAt cells := by
  funext j
  by_cases hj : j < 0 ∨ (cells.length : Int) ≤ j
  · rw [hu.others j (by omega), cellAt_outside (by omega), cellAt_outside hj]
  · obtain ⟨k, rfl⟩ := Int.eq_ofNat_of_zero_le (by omega : 0 ≤ j)
    have hk : k < cells.length := by omega
    have hcell := (hu.holds k hk).trans (holds_cellAt cells k hk).symm
    rwa [Int.zero_add] at hcell

end Textbook

namespace Machine

open Textbook

variable {m k : Machine} {c d : Config} {δ : Transitions} {stop : String} {n : ℕ}

/-- The rules of a library are in the table of a machine. -/
def Links (m : Machine) (L : Library) : Prop :=
  ∀ r ∈ L.rules, m.table.find? r.source r.read = some r

theorem obeys_of_links {L : Library} (h : m.Links L) (hstop : ∀ r ∈ L.rules, r.source ≠ stop) :
    m.transitions.Obeys L.rules stop := by
  intro r hr
  refine ⟨hstop r hr, ?_⟩
  simp [transitions, Transitions.ofTable, h r hr]

/-- A machine is loaded with the head on the first of its cells. -/
theorem shows_load {cells : List Bool} (hne : cells ≠ []) (initial : String) (finals : List String)
    (rules : List (Rule Bool)) : (load cells initial finals rules).tape.Inside ∧
      (load cells initial finals rules).Shows ⟨cellAt cells, 0, initial⟩ := by
  have hpos : 0 < cells.length := List.length_pos_iff.mpr hne
  have hin : (Tape.place cells 0).Inside := by
    simp only [Tape.Inside, Tape.head_place, Tape.cells_place]
    omega
  refine ⟨(Tape.roomy_padded _).inside, rfl, fun d => ?_⟩
  calc (Tape.place cells 0).padded.around d
      = (Tape.place cells 0).around d := (Tape.padded_extends hin).around_eq d
    _ = cellAt cells (0 + d) := by rw [Tape.around, Tape.cells_place, Tape.head_place]

theorem finished_of_not_final (h : m.current ∉ m.finals) : m.finished = .ok false := by
  simp [finished, isFinal, h]

/-- A machine walks to one that shows where a run ends. -/
structure Follows (m : Machine) (stop : String) (d : Config) (n : ℕ) (k : Machine) : Prop where
  walk : Walk m n k
  shown : k.Shows d
  table : k.table = m.table
  finals : k.finals = m.finals
  previous : m.previous ≠ some stop → k.previous ≠ some stop
  settle : (∀ state ∈ m.finals, state = stop) → ∀ fuel, m.settle (n + fuel) = k.settle fuel

theorem follows_of_runs (h : Runs δ stop c n d) (hin : m.tape.Inside) (hc : m.Shows c)
    (hδ : m.transitions = δ) : ∃ k, m.Follows stop d n k := by
  induction h generalizing m with
  | refl => exact ⟨m, .refl, hc, rfl, rfl, id, fun _ fuel => by rw [Nat.zero_add]⟩
  | @step c next d n hs hn _ ih =>
    obtain ⟨l, hl, hshown, hroomy, hprevious, htable, hfinals⟩ :=
      (stepsAs_of_shows hin hc).moves next (by rw [hδ, hn])
    have hstep : m.step = .ok (some l) := step_of_perform hl
    have hδ' : l.transitions = δ := by rwa [transitions, htable, hfinals]
    obtain ⟨k, hk⟩ := ih hroomy.inside hshown hδ'
    refine ⟨k, .step hstep hk.walk, hk.shown, hk.table.trans htable,
      hk.finals.trans hfinals, ?_, ?_⟩
    · intro _
      apply hk.previous
      rw [hprevious, hc.state]
      exact fun hstop => hs (Option.some.inj hstop)
    · -- the run keeps away from `stop`, so nothing on the way is finished
      intro hstop fuel
      have hunfinished : m.finished = .ok false :=
        finished_of_not_final fun hf => hs (hc.state ▸ hstop _ hf)
      rw [Nat.add_right_comm, settle, hunfinished, hstep]
      exact hk.settle (by rwa [hfinals]) fuel

theorem Shows.symbol? (hc : m.Shows c) (hin : m.tape.Inside) :
    m.tape.symbol? = some (c.tape c.head) := by
  rw [Tape.symbol?_of_inside hin, hc.tape, Int.add_zero]

theorem ruleFor_of_rest {state : String} {b : Bool} (hfinal : state ∈ m.finals)
    (hnone : m.table.find? state b = none) : m.ruleFor state b = some (.rest state b) := by
  simp [ruleFor, hnone, isFinal, hfinal]

/-- In a final state that it has entered from itself a machine without a rule is finished. -/
theorem finished_of_rest (hin : m.tape.Inside) (hc : m.Shows c) (hfinal : c.state ∈ m.finals)
    (hnone : m.table.find? c.state (c.tape c.head) = none) (hprevious : m.previous = some c.state) :
    m.finished = .ok true ∧ m.isUndefined = .ok false := by
  have hrule : m.currentRule = .ok (some (.rest c.state (c.tape c.head))) := by
    rw [currentRule_eq (hc.symbol? hin), hc.state, ruleFor_of_rest hfinal hnone]
  have hrest : m.AtRest :=
    ⟨by simp [isFinal, hc.state, hfinal], _, hrule, Rule.isIdle_rest _ _⟩
  exact ⟨finished_iff.mpr ⟨hrest, hc.state ▸ hprevious⟩, isUndefined_of_atRest hrest⟩

/-- When it has just come there it takes one more step, which changes nothing that it shows. -/
theorem settle_of_entered (hin : m.tape.Inside) (hc : m.Shows c) (hfinal : c.state ∈ m.finals)
    (hnone : m.table.find? c.state (c.tape c.head) = none) (hprevious : m.previous ≠ some c.state) :
    ∃ k, Walk m 1 k ∧ k.Shows c ∧ k.finished = .ok true ∧ k.isUndefined = .ok false ∧
      ∀ fuel, m.settle (fuel + 2) = (.ok true, k) := by
  have hnext : c.next? m.transitions = some c := by
    simp [Config.next?, transitions_eq, ruleFor_of_rest hfinal hnone, Rule.rest, Move.offset]
  obtain ⟨k, hk, hshown, hroomy, hkprevious, htable, hfinals⟩ :=
    (stepsAs_of_shows hin hc).moves c hnext
  have hstep : m.step = .ok (some k) := step_of_perform hk
  obtain ⟨hfinished, hdefined⟩ : k.finished = .ok true ∧ k.isUndefined = .ok false :=
    finished_of_rest hroomy.inside hshown (hfinals ▸ hfinal) (htable ▸ hnone)
    (hc.state ▸ hkprevious)
  have hunfinished : m.finished = .ok false := by simp [finished, hc.state, hprevious]
  refine ⟨k, .step hstep .refl, hshown, hfinished, hdefined, fun fuel => ?_⟩
  rw [settle, hunfinished, hstep]
  simp [settle, hfinished]

/-- A machine settles by a run to its only final state, if it has no rules there. -/
theorem settle_of_runs (h : Runs m.transitions stop c n d) (hin : m.tape.Inside) (hc : m.Shows c)
    (hfinals : m.finals = [stop]) (hd : d.state = stop)
    (hnone : ∀ symbol, m.table.find? stop symbol = none) (hprevious : m.previous ≠ some stop) :
    ∃ k, Walk m (n + 1) k ∧ k.Shows d ∧ k.finished = .ok true ∧ k.isUndefined = .ok false ∧
      ∀ fuel, m.settle (n + 2 + fuel) = (.ok true, k) := by
  subst hd
  obtain ⟨l, hl⟩ := follows_of_runs h hin hc rfl
  have hfinal : d.state ∈ l.finals := by
    rw [hl.finals, hfinals]
    exact List.mem_singleton_self d.state
  have hrests : l.table.find? d.state (d.tape d.head) = none := by rw [hl.table, hnone]
  obtain ⟨k, hwalk, hshown, hfinished, hdefined, hsettle⟩ :=
    settle_of_entered (hl.walk.inside hin) hl.shown hfinal hrests (hl.previous hprevious)
  refine ⟨k, hl.walk.trans hwalk, hshown, hfinished, hdefined, fun fuel => ?_⟩
  have honly : ∀ state ∈ m.finals, state = d.state := by simp [hfinals]
  have hfuel : n + 2 + fuel = n + (fuel + 2) := by omega
  rw [hfuel, hl.settle honly, hsettle]

end Machine

end TapeMachine
