import Mathlib.Logic.Function.Basic
import TapeMachine.Proofs.Commands

/-! The textbook machine on a tape without ends, and the machine on a list of cells that refines
it. -/
namespace TapeMachine.Textbook

/-- What a rule asks for: the symbol to write, the move, and the state that is entered. -/
structure Effect where
  write : Bool
  move : Move
  target : String

/-- What is asked for in a state that reads a symbol; none where no rule applies. -/
abbrev Transitions := String → Bool → Option Effect

/-- The transitions of a rule table; a final state rests where the table has no rule for it. -/
def Transitions.ofTable (table : Table) (finals : List String) : Transitions :=
  fun state symbol =>
    match table.find? state symbol with
    | some r => some ⟨r.write, r.move, r.target⟩
    | none => if state ∈ finals then some ⟨symbol, .halt, state⟩ else none

/-- A state, a head, and a tape that goes on forever on both sides. -/
structure Config where
  tape : Int → Bool
  head : Int
  state : String

namespace Config

/-- The configuration after one step; none where no rule applies. -/
def next? (δ : Transitions) (c : Config) : Option Config :=
  (δ c.state (c.tape c.head)).map fun e =>
    ⟨Function.update c.tape c.head e.write, c.head + e.move.offset, e.target⟩

/-- The configuration after so many steps; where no rule applies it stays as it is. -/
def after (δ : Transitions) (c : Config) : ℕ → Config
  | 0 => c
  | n + 1 => let d := c.after δ n; (d.next? δ).getD d

end Config

end Textbook

namespace Machine

open Textbook

variable {m : Machine} {c : Config}

def transitions (m : Machine) : Transitions := .ofTable m.table m.finals

/-- A machine shows a configuration: the same state, and around the head the same symbols. -/
structure Shows (m : Machine) (c : Config) : Prop where
  state : m.current = c.state
  tape : ∀ d, m.tape.around d = c.tape (c.head + d)

theorem transitions_eq (m : Machine) (state : String) (symbol : Bool) :
    m.transitions state symbol =
      (m.ruleFor state symbol).map fun r => ⟨r.write, r.move, r.target⟩ := by
  simp only [transitions, Transitions.ofTable, ruleFor, isFinal, List.contains_iff_mem]
  cases m.table.find? state symbol with
  | some r => rfl
  | none =>
    by_cases hs : state ∈ m.finals
    · simp [hs, Rule.rest]
    · simp [hs]

theorem shows_apply (hin : m.tape.Inside) (hc : m.Shows c) (r : Rule Bool) :
    (m.apply r).Shows
      ⟨Function.update c.tape c.head r.write, c.head + r.move.offset, r.target⟩ := by
  refine ⟨rfl, fun d => ?_⟩
  change (((m.tape.write r.write).shift r.move).padded).around d =
    Function.update c.tape c.head r.write (c.head + r.move.offset + d)
  rw [Tape.around_step hin, hc.tape, Function.update_apply]
  congr 1
  · simp only [eq_iff_iff]
    omega
  · congr 1
    omega

theorem next?_of_shows (hc : m.Shows c) :
    c.next? m.transitions = (m.ruleFor m.current (m.tape.around 0)).map fun r =>
      ⟨Function.update c.tape c.head r.write, c.head + r.move.offset, r.target⟩ := by
  have h0 : c.tape c.head = m.tape.around 0 := by simpa using (hc.tape 0).symm
  rw [Config.next?, ← hc.state, h0, transitions_eq, Option.map_map]
  rfl

/-- A step of a machine is the step of a configuration that it shows: it succeeds where the
configuration has a successor, which is then shown, and else it changes nothing. -/
structure StepsAs (m : Machine) (δ : Transitions) (c : Config) : Prop where
  moves : ∀ d, c.next? δ = some d → ∃ next, m.perform .step = (.ok (.flag true), next) ∧
    next.Shows d ∧ next.tape.Roomy ∧ next.previous = some m.current ∧
    next.table = m.table ∧ next.finals = m.finals
  rests : c.next? δ = none → m.perform .step = (.ok (.flag false), m)

theorem stepsAs_of_shows (hin : m.tape.Inside) (hc : m.Shows c) : m.StepsAs m.transitions c := by
  have hnext := next?_of_shows hc
  have hb := Tape.symbol?_of_inside hin
  cases hr : m.ruleFor m.current (m.tape.around 0) with
  | none =>
    rw [hr, Option.map_none] at hnext
    refine ⟨?_, fun _ => perform_step_none hb hr⟩
    intro d hd
    rw [hnext] at hd
    cases hd
  | some r =>
    rw [hr, Option.map_some] at hnext
    refine ⟨?_, ?_⟩
    · intro d hd
      rw [hnext] at hd
      cases hd
      exact ⟨m.apply r, perform_step hb hr, shows_apply hin hc r, roomy_apply m r, rfl, rfl, rfl⟩
    · intro hd
      rw [hnext] at hd
      cases hd

theorem shows_after (hin : m.tape.Inside) (hc : m.Shows c) (n : ℕ) :
    (m.after n).tape.Inside ∧ (m.after n).Shows (c.after m.transitions n) ∧
      (m.after n).transitions = m.transitions := by
  induction n with
  | zero => exact ⟨hin, hc, rfl⟩
  | succ n ih =>
    obtain ⟨hi, hs, ht⟩ := ih
    have h := stepsAs_of_shows hi hs
    rw [ht] at h
    rw [after_succ, Config.after]
    cases hd : (c.after m.transitions n).next? m.transitions with
    | none =>
      rw [h.rests hd]
      exact ⟨hi, hs, ht⟩
    | some d =>
      obtain ⟨next, hperf, hshow, hroomy, -, htable, hfinals⟩ := h.moves d hd
      rw [hperf]
      exact ⟨hroomy.inside, hshow, by rw [transitions, htable, hfinals]; exact ht⟩

/-- A machine on a list of cells refines the textbook machine with the same rules. Wherever its head
stands on the cells, it shows after any number of steps what the textbook machine has come to, and
its next step is the one of the textbook machine. -/
theorem step_refines_textbook (m : Machine) (c : Config) (hin : m.tape.Inside) (hc : m.Shows c)
    (n : ℕ) :
    (m.after n).tape.Inside ∧ (m.after n).Shows (c.after m.transitions n) ∧
      (m.after n).StepsAs m.transitions (c.after m.transitions n) := by
  obtain ⟨hi, hs, ht⟩ := shows_after hin hc n
  have h := stepsAs_of_shows hi hs
  rw [ht] at h
  exact ⟨hi, hs, h⟩

/-- One cell, so the head is on the first and the last of the list; the first step leaves it on the
left, the second one on the right. -/
def oneCell : Machine :=
  { load [] "a" ["c"] [⟨"a", true, true, .left, "b"⟩, ⟨"b", false, true, .right, "c"⟩] with
    tape := .within [] true [] }

theorem step_refines_textbook_oneCell :
    let c : Config := ⟨fun i => i = 7, 7, "a"⟩
    oneCell.tape.Inside ∧ oneCell.Shows c ∧
      (oneCell.after 2).Shows (c.after oneCell.transitions 2) ∧
      (oneCell.after 2).tape.cells = [false, false, false, true, true, false, false, false] := by
  intro c
  have hin : oneCell.tape.Inside := by decide
  have hc : oneCell.Shows c := by
    refine ⟨rfl, fun d => ?_⟩
    have hd : oneCell.tape.around d = cellAt [true] d := by
      rw [Tape.around]
      exact congrArg (cellAt [true]) (Int.zero_add d)
    rw [hd, cellAt]
    grind
  exact ⟨hin, hc, (step_refines_textbook oneCell c hin hc 2).2.1, by decide⟩

end Machine

end TapeMachine
