import TapeMachine.Proofs.Arithmetic
import TapeMachine.Proofs.BuildOutcome
import TapeMachine.Proofs.Numbers

/-! From text to answer: a program that adds two numbers and takes one away from the sum. -/
namespace TapeMachine

open Textbook

namespace Lexeme

/-- Lexemes are laid out by a text that reads as them when no others may come. -/
theorem layout_of_row {ls : List Lexeme} {cs : List Char}
    (hplain : (Form.row (ls.map Lexeme.terminal)).Plain)
    (h : (readFrom (.row (ls.map Lexeme.terminal)) .start .start cs).map (·.map Token.lexeme) =
      .ok ls) :
    Layout false ls cs := by
  obtain ⟨ts, hts, rfl⟩ := exists_of_map_eq_ok h
  obtain ⟨-, hl, -⟩ := readFrom_sound (Form.late_of_plain hplain) hts
  rwa [Form.opening_of_plain hplain] at hl

theorem layout_bits {ls : List Lexeme} {cs : List Char} (h : Layout false ls cs)
    (bits : List Bool) :
    Layout false (bits.map ofBit ++ ls) (bits.map digit ++ cs) := by
  induction bits with
  | nil => exact h
  | cons b bits ih =>
    have htext : (ofBit b).text.toList = [digit b] := by cases b <;> rfl
    have hcs : Layout false (ofBit b :: (bits.map ofBit ++ ls))
        ((ofBit b).text.toList ++ (bits.map digit ++ cs)) := .lexeme nofun ih
    rwa [htext] at hcs

end Lexeme

namespace SumThenDec

open Lexeme Catalog

variable {bits : List Bool}

/-- What comes after the cells in the text. -/
def closing : String :=
  "\x7d; I = \x7bq0\x7d; F = \x7bdecf\x7d; compose = \x7bsum, dec\x7d; " ++
    "(q0, 1, 1, H, sum0); (sumf, 1, 1, H, dec0);"

/-- The text of the program on some cells. -/
def text (bits : List Bool) : String := "\x7b" ++ String.ofList (bits.map digit) ++ closing

/-- What the text says. -/
def sentence (bits : List Bool) : Sentence .program :=
  .program none bits ⟨"q0", by decide⟩ (⟨"decf", by decide⟩, [])
    (some (⟨"sum", by decide⟩, [⟨"dec", by decide⟩]))
    [⟨⟨"q0", by decide⟩, true, true, ⟨"H", by decide⟩, ⟨"sum0", by decide⟩⟩,
      ⟨⟨"sumf", by decide⟩, true, true, ⟨"H", by decide⟩, ⟨"dec0", by decide⟩⟩]

theorem layout_closing : Layout false (sentence []).lexemes.tail closing.toList :=
  layout_of_row (by decide) (by decide +kernel)

theorem laysOut (bits : List Bool) : Reading.LaysOut (sentence bits) (text bits) := by
  have hlexemes : (sentence bits).lexemes =
      mark .leftBrace :: (bits.map ofBit ++ (sentence []).lexemes.tail) := by
    simp [sentence, Sentence.lexemes_program, Phrase.lexemes, Phrase.body, Phrase.close]
  have htext : (text bits).toList =
      (mark .leftBrace).text.toList ++ (bits.map digit ++ closing.toList) := by
    simp only [text, String.toList_append, String.toList_ofList, List.append_assoc]
    rfl
  rw [Reading.LaysOut, hlexemes, htext]
  refine .lexeme ?_ (layout_bits layout_closing bits)
  intro hbrace
  cases hbrace

/-- The rules of both libraries and of the program. -/
def rules : List (Rule Bool) :=
  sum.rules ++ dec.rules ++ [⟨"q0", true, true, .halt, "sum0"⟩, ⟨"sumf", true, true, .halt, "dec0"⟩]

theorem build_text (hbits : true ∈ bits) : ∃ p, Program.build Catalog.all (text bits) = .ok p ∧
    p.warnings = [] ∧ p.machine = .load bits "q0" ["decf"] rules := by
  have hreal : ∃ p, Program.build Catalog.all (text bits) = .ok p ∧
      p.Realizes Catalog.all (text bits) (sentence bits) := by
    apply Program.build_of_program (laysOut bits) hbits
    have hnames : ∀ n ∈ ["sum", "dec"], n ∈ Catalog.all.names := by decide
    simpa [Sentence.libraryNames] using hnames
  obtain ⟨p, hp, -, -, hcomposed, hmachine, hwarnings⟩ := hreal
  have hlibraries : p.composed = [sum, dec] := by
    have hsome : p.composed.map some = [sum, dec].map some := by
      rw [hcomposed]
      decide
    exact List.map_injective_iff.mpr (fun _ _ => Option.some.inj) hsome
  rw [hlibraries] at hmachine hwarnings
  refine ⟨p, hp, ?_, hmachine⟩
  exact List.map_eq_nil_iff.mp (hwarnings.trans (by decide))

/-- Two numbers with one blank between them. -/
def cells (a b : ℕ) : List Bool := unary a ++ false :: unary b

theorem holds_cells (a b : ℕ) : Holds (cellAt (cells a b)) (0 - 1) (summands a b) := by
  have hcells : summands a b = false :: (cells a b ++ [false]) := by
    simp [summands, enclosed, cells]
  rw [hcells, holds_cons, holds_append, holds_cons, Int.sub_add_cancel]
  refine ⟨cellAt_outside (by omega), holds_cellAt _, cellAt_outside (by omega), by simp [Holds]⟩

/-- On a tape with nothing but a number `dec` leaves nothing but the number less one. -/
theorem dec_alone {δ : Transitions} {stop : String} (hδ : δ.Obeys dec.rules stop) (s : ℕ) :
    ∃ n v h, Runs δ stop ⟨cellAt (unary s), 0, "dec0"⟩ n ⟨v, h, "decf"⟩ ∧
      ∀ i, v (h + i) = cellAt (unary (s - 1)) i := by
  cases s with
  | zero =>
    have hcells : Holds (cellAt (unary 0)) 0 [true, false] := by
      unfold Holds
      decide
    exact ⟨2, cellAt (unary 0), 0, dec_runs_zero hδ hcells, fun i => by rw [Int.zero_add]⟩
  | succ s =>
    have hcells : Holds (cellAt (unary (s + 1))) 0 [true, true] := by
      have hones := holds_unary.mp (holds_cellAt (unary (s + 1)))
      rw [holds_cons, holds_cons]
      exact ⟨hones 0 (by omega) (by omega), hones (0 + 1) (by omega) (by omega), by simp [Holds]⟩
    refine ⟨3, _, _, dec_runs_succ hδ hcells, fun i => ?_⟩
    by_cases hi : 0 ≤ i
    · obtain ⟨k, rfl⟩ := Int.eq_ofNat_of_zero_le hi
      have hnext : (0 : Int) + 1 + k = (k + 1 : ℕ) := by omega
      rw [Function.update_of_ne (by omega), hnext, cellAt_natCast, cellAt_natCast]
      rfl
    · rw [cellAt_outside (by omega), Function.update_apply]
      split
      · rfl
      · exact cellAt_outside (by omega)

/-- What the program comes to: the sum less one, and the head on it. -/
theorem runs_to_decf {δ : Transitions} (hδ : δ.Obeys rules "decf") (a b : ℕ) : ∃ n v h,
    Runs δ "decf" ⟨cellAt (cells a b), 0, "q0"⟩ n ⟨v, h, "decf"⟩ ∧
      ∀ i, v (h + i) = cellAt (unary (a + b - 1)) i := by
  have hsum : δ.Obeys sum.rules "decf" := fun r hr => hδ r (by simp [rules, hr])
  have hdec : δ.Obeys dec.rules "decf" := fun r hr => hδ r (by simp [rules, hr])
  have hcells := holds_cells a b
  obtain ⟨-, hfirst, -⟩ := holds_summands.mp hcells
  have toSum : Runs δ "decf" ⟨cellAt (cells a b), 0, "q0"⟩ 1 ⟨cellAt (cells a b), 0, "sum0"⟩ :=
    runs_keep hδ (r := ⟨"q0", true, true, .halt, "sum0"⟩) (by decide) rfl
      (hfirst 0 (by omega) (by omega)) rfl
  obtain ⟨u, hu, throughSum⟩ := sum_runs hsum hcells
  obtain rfl : u = cellAt (unary (a + b) ++ [false, false]) := by
    refine hu.eq_cellAt ?_
    simp only [cells, List.length_append, List.length_cons, length_unary, List.length_nil]
    omega
  have hblanks : cellAt (unary (a + b) ++ [false, false]) = cellAt (unary (a + b)) :=
    funext (cellAt_append_replicate (unary (a + b)) 2)
  rw [hblanks] at throughSum
  have toDec :
      Runs δ "decf" ⟨cellAt (unary (a + b)), 0, "sumf"⟩ 1 ⟨cellAt (unary (a + b)), 0, "dec0"⟩ :=
    runs_keep hδ (r := ⟨"sumf", true, true, .halt, "dec0"⟩) (by decide) rfl
      (holds_unary.mp (holds_cellAt _) 0 (by omega) (by omega)) rfl
  obtain ⟨n, v, h, throughDec, hv⟩ := dec_alone hdec (a + b)
  exact ⟨_, v, h, ((toSum.trans throughSum).trans toDec).trans throughDec, hv⟩

theorem obeys_rules (bits : List Bool) :
    (Machine.load bits "q0" ["decf"] rules).transitions.Obeys rules "decf" := by
  have hrules : ∀ r ∈ rules,
      r.source ≠ "decf" ∧ (Table.ofRules rules).find? r.source r.read = some r := by
    decide
  intro r hr
  obtain ⟨hstop, hfind⟩ := hrules r hr
  exact ⟨hstop, by simp [Machine.transitions, Transitions.ofTable, Machine.load, hfind]⟩

/-- The program comes to its answer from any two numbers. Its text builds without remarks, and what
it builds settles after enough steps: it is finished, the tape holds the sum less one, and the
answer tells the steps that were taken and the ones on the tape, as the outcome does. -/
theorem text_settles (a b : ℕ) :
    ∃ p, Program.build Catalog.all (text (cells a b)) = .ok p ∧ p.warnings = [] ∧ ∃ fuel k,
      (∀ more, p.machine.perform (.settle (fuel + more)) =
        (.ok (.settled (some (k.steps, k.tape.ones))), k)) ∧
      p.machine.after k.steps = k ∧ k.finished = .ok true ∧ k.tape.values = [a + b - 1] ∧
      k.tape.ones = a + b - 1 + 1 ∧ k.outcome = .ok (.defined k.steps k.tape.ones) := by
  have hbits : true ∈ cells a b := by simp [cells, unary]
  obtain ⟨p, hp, hwarnings, hmachine⟩ := build_text hbits
  refine ⟨p, hp, hwarnings, ?_⟩
  rw [hmachine]
  obtain ⟨hin, hstart⟩ := Machine.shows_load (List.ne_nil_of_mem hbits) "q0" ["decf"] rules
  obtain ⟨n, v, h, hruns, hv⟩ := runs_to_decf (obeys_rules (cells a b)) a b
  have hnone : ∀ symbol, (Table.ofRules rules).find? "decf" symbol = none := by decide
  obtain ⟨k, hwalk, hshown, hfinished, hdefined, hsettle⟩ :=
    Machine.settle_of_runs hruns hin hstart rfl rfl hnone (Option.some_ne_none "decf").symm
  have haround : ∀ d, k.tape.around d = cellAt (unary (a + b - 1)) d :=
    fun d => (hshown.tape d).trans (hv d)
  obtain ⟨hvalues, hones⟩ := Tape.values_of_around haround
  refine ⟨n + 2, k, ?_, ?_, hfinished, ?_, ?_, ?_⟩
  · intro more
    rw [Machine.perform, hsettle]
    rfl
  · have hsteps : k.steps = n + 1 := hwalk.steps_eq.trans (Nat.zero_add _)
    rw [hsteps]
    exact hwalk.after_eq
  · rw [hvalues, numbers_unary]
  · rw [hones, unary, List.count_replicate_self]
  · rw [Machine.outcome, hdefined]
    rfl

end SumThenDec

end TapeMachine
