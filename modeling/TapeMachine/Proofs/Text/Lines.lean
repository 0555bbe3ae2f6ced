import Mathlib.Data.List.Basic
import TapeMachine.Source.Position
import TapeMachine.Text.Lines

/-! Lines of a text and places in it: every character of a text stands on one of its lines. -/
namespace TapeMachine

namespace Text

theorem length_linesFrom_pos {line cs : List Char} (h : cs ≠ [] ∨ line ≠ []) :
    0 < (linesFrom line cs).length := by
  fun_induction linesFrom line cs with
  | case1 line hl => simp_all
  | case2 | case3 | case4 => simp
  | case5 line c cs _ _ ih => exact ih (.inr (List.cons_ne_nil c line))

/-- Every line feed ends a line, and what comes after the last one is on a line of its own. -/
theorem count_lt_length_linesFrom {before rest : List Char} (hrest : rest ≠ []) (line : List Char) :
    before.count '\n' < (linesFrom line (before ++ rest)).length := by
  generalize htext : before ++ rest = text
  fun_induction linesFrom line text generalizing before with
  | case1 | case2 => exact (hrest (List.append_eq_nil_iff.mp htext).2).elim
  | case3 line cs ih =>
    rw [List.length_cons]
    cases before with
    | nil => exact Nat.succ_pos _
    | cons b before =>
      obtain ⟨rfl, htail⟩ := List.cons.inj htext
      cases before with
      | nil => exact Nat.succ_pos _
      | cons b before =>
        obtain ⟨rfl, hcs⟩ := List.cons.inj htail
        have := ih hcs
        simp only [List.count_cons_self, List.count_cons_of_ne (by decide : '\r' ≠ '\n')]
        omega
  | case4 line c cs _ _ ih =>
    rw [List.length_cons]
    cases before with
    | nil => exact Nat.succ_pos _
    | cons b before =>
      have := ih (List.cons.inj htext).2
      rw [List.count_cons]
      split <;> omega
  | case5 line c cs _ hc ih =>
    cases before with
    | nil => exact length_linesFrom_pos (.inr (List.cons_ne_nil c line))
    | cons b before =>
      obtain ⟨rfl, htail⟩ := List.cons.inj htext
      have hb : b ≠ '\n' := by
        rintro rfl
        exact hc rfl
      rw [List.count_cons_of_ne hb]
      exact ih htail

/-- A text has a line with this number. -/
def IsLine (s : String) (number : Int) (code : String) : Prop :=
  0 < number ∧ (lines s)[number.toNat - 1]? = some code

theorem isLine_line {s : String} {number : Int} (h0 : 0 < number)
    (h : number ≤ (lines s).length) : IsLine s number (line s number.toNat) := by
  have hlt : number.toNat - 1 < (lines s).length := by omega
  refine ⟨h0, ?_⟩
  rw [line, if_neg (by omega), List.getElem?_eq_getElem hlt]
  rfl

theorem eq_line_of_isLine {s : String} {number : Int} {code : String} (h : IsLine s number code) :
    code = line s number.toNat := by
  obtain ⟨h0, hcode⟩ := h
  rw [line, if_neg (by omega), hcode]
  rfl

end Text

/-- The line of a place is counted by the line feeds before it. -/
theorem Position.line_after (p : Position) (cs : List Char) :
    (p.after cs).line = p.line + cs.count '\n' := by
  induction cs generalizing p with
  | nil => simp
  | cons c cs ih =>
    rw [after_cons, ih, advance]
    split
    · next hc =>
      rw [hc, List.count_cons_self]
      push_cast
      omega
    · next hc => rw [List.count_cons_of_ne hc]

theorem Position.after_of_line {cs : List Char} (h : '\n' ∉ cs) (p : Position) :
    p.after cs = ⟨p.line, p.column + cs.length⟩ := by
  induction cs generalizing p with
  | nil => simp
  | cons c cs ih =>
    rw [List.mem_cons, not_or] at h
    rw [after_cons, ih h.2, advance, if_neg (Ne.symm h.1), List.length_cons]
    congr 1
    push_cast
    omega

/-- Where something stands in a text there is a line to show. -/
theorem Text.exists_line {s : String} {before rest : List Char} (h : s.toList = before ++ rest)
    (hrest : rest ≠ []) : Text.IsLine s (Position.start.after before).line
      (Text.line s (Position.start.after before).line.toNat) := by
  have hcount : before.count '\n' < (linesFrom [] s.toList).length := by
    rw [h]
    exact count_lt_length_linesFrom hrest []
  have hline : (Position.start.after before).line = 1 + before.count '\n' :=
    Position.line_after .start before
  apply isLine_line
  · omega
  · rw [lines, List.length_map]
    omega

end TapeMachine
