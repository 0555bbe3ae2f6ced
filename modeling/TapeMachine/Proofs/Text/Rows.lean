import Mathlib.Data.List.DropRight
import TapeMachine.Proofs.Source.Layout
import TapeMachine.Proofs.Text.LineEnds
import TapeMachine.Proofs.Text.Lines

/-!
Rows of a text: what stands between its line feeds. Places are counted by rows, while the lines that
diagnostics show end at other breaks as well; the two agree as long as no other break comes.
-/
namespace TapeMachine

namespace Text

variable {cs before behind row body : List Char}

def rows (cs : List Char) : List (List Char) := cs.splitOn '\n'

/-- The part of a row that stands before a place. -/
def rowBefore (before : List Char) : List Char := before.rtakeWhile (· != '\n')

/-- The part of a row that comes from a place on. -/
def rowBehind (behind : List Char) : List Char := behind.takeWhile (· != '\n')

theorem rows_append_feed (before behind : List Char) :
    rows (before ++ '\n' :: behind) = rows before ++ rows behind :=
  List.splitOn_append_cons_self before behind

theorem rows_cons (c : Char) (cs : List Char) : rows (c :: cs) =
    if c = '\n' then [] :: rows cs else (rows cs).modifyHead (c :: ·) := by
  simpa [rows] using List.splitOn_cons_eq_if_modifyHead (a := '\n') c cs

theorem length_rows (cs : List Char) : (rows cs).length = cs.count '\n' + 1 := by
  induction cs with
  | nil => rfl
  | cons c cs ih =>
    rw [rows_cons]
    split
    · next hc => rw [hc, List.count_cons_self, List.length_cons, ih]
    · next hc => rw [List.length_modifyHead, ih, List.count_cons_of_ne hc]

theorem head?_rows (cs : List Char) : (rows cs).head? = some (rowBehind cs) := by
  induction cs with
  | nil => rfl
  | cons c cs ih =>
    rw [rows_cons]
    split
    · next hc =>
      rw [hc]
      rfl
    · next hc =>
      rw [List.head?_modifyHead, ih]
      simp [rowBehind, hc]

/-- How many characters rows take, each with a line feed behind it. -/
def extent : List (List Char) → ℕ
  | [] => 0
  | row :: rows => row.length + 1 + extent rows

/-- The rows and the line feeds between them make up the text. -/
theorem extent_rows (cs : List Char) : extent (rows cs) = cs.length + 1 := by
  induction cs with
  | nil => rfl
  | cons c cs ih =>
    rw [rows_cons]
    split
    · rw [extent, ih, List.length_cons, List.length_nil]
      omega
    · obtain ⟨first, others, hrows⟩ : ∃ first others, rows cs = first :: others :=
        List.exists_cons_of_ne_nil (List.splitOn_ne_nil '\n' cs)
      rw [hrows] at ih ⊢
      rw [List.modifyHead_cons, extent, List.length_cons, List.length_cons]
      rw [extent] at ih
      omega

theorem not_mem_rowBefore (before : List Char) : '\n' ∉ rowBefore before := by
  rw [rowBefore, List.rtakeWhile, List.mem_reverse]
  exact not_mem_takeWhile _

/-- A place is on the first row, or on the one behind the last line feed before it. -/
theorem rowBefore_cases (before : List Char) :
    rowBefore before = before ∨ ∃ above, before = above ++ '\n' :: rowBefore before := by
  have hsplit : before.rdropWhile (· != '\n') ++ rowBefore before = before :=
    List.rdropWhile_append_rtakeWhile
  rcases List.eq_nil_or_concat (before.rdropWhile (· != '\n')) with hnil | ⟨above, c, hc⟩
  · rw [hnil, List.nil_append] at hsplit
    exact .inl hsplit
  · have hlast := List.rdropWhile_last_not (· != '\n') before (by simp [hc])
    obtain rfl : c = '\n' := by simpa [hc] using hlast
    rw [hc] at hsplit
    exact .inr ⟨above, by simpa using hsplit.symm⟩

/-- The rows above a place are as many as the line feeds before it, and do not depend on what comes
from there on. -/
theorem exists_rows_above (before : List Char) : ∃ above : List (List Char),
    above.length = before.count '\n' ∧
      extent above + (rowBefore before).length = before.length ∧
      ∀ behind, rows (before ++ behind) = above ++ rows (rowBefore before ++ behind) := by
  have hnone := List.count_eq_zero.mpr (not_mem_rowBefore before)
  rcases rowBefore_cases before with hrow | ⟨above, habove⟩
  · rw [hrow] at hnone ⊢
    exact ⟨[], hnone.symm, by simp [extent], fun behind => rfl⟩
  · refine ⟨rows above, ?_, ?_, fun behind => ?_⟩
    · conv_rhs => rw [habove, List.count_append, List.count_cons_self, hnone]
      rw [length_rows]
    · conv_rhs => rw [habove, List.length_append, List.length_cons]
      rw [extent_rows]
      omega
    · conv_lhs => rw [habove, List.append_assoc, List.cons_append, rows_append_feed]

/-- A place is on the row whose number is that of the line feeds before it. -/
theorem getElem?_rows (before behind : List Char) : (rows (before ++ behind))[before.count '\n']? =
    some (rowBefore before ++ rowBehind behind) := by
  obtain ⟨above, hlength, -, hrows⟩ := exists_rows_above before
  have hline : ∀ c ∈ rowBefore before, (c != '\n') = true := by
    rintro c hc
    exact bne_iff_ne.mpr fun h => not_mem_rowBefore before (h ▸ hc)
  rw [hrows, ← hlength, List.getElem?_append_right le_rfl, Nat.sub_self, ← List.head?_eq_getElem?,
    head?_rows, rowBehind, List.takeWhile_append_of_pos hline, rowBehind]

/-- A row without the carriage return at its end. -/
def withoutReturn (row : List Char) : List Char :=
  if row.getLast? = some '\r' then row.dropLast else row

/-- Nothing in a row breaks a line. -/
def BreakFree (row : List Char) : Prop := row.any isLineBreak = false

instance (row : List Char) : Decidable (BreakFree row) := inferInstanceAs (Decidable (_ = _))

theorem breakFree_cons {c : Char} : BreakFree (c :: cs) ↔ isLineBreak c = false ∧ BreakFree cs := by
  simp [BreakFree]

theorem withoutReturn_cases (row : List Char) :
    withoutReturn row = row ∨ row = withoutReturn row ++ ['\r'] := by
  unfold withoutReturn
  split
  · next h =>
    obtain ⟨body, rfl⟩ := List.getLast?_eq_some_iff.mp h
    exact .inr (by simp)
  · exact .inl rfl

theorem linesFrom_append (h : BreakFree row) (line cs : List Char) :
    linesFrom line (row ++ cs) = linesFrom (row.reverse ++ line) cs := by
  induction row generalizing line with
  | nil => rfl
  | cons c row ih =>
    obtain ⟨hc, hrow⟩ := breakFree_cons.mp h
    have hreturn : c ≠ '\r' := by
      rintro rfl
      cases hc
    rw [List.cons_append, linesFrom_cons hreturn, hc, if_neg Bool.false_ne_true, ih hrow]
    simp

/-- The first row is the first line, and the last line unless it is empty. -/
theorem linesFrom_row (h : BreakFree (withoutReturn row)) (cs : List Char) :
    linesFrom [] (row ++ '\n' :: cs) = withoutReturn row :: linesFrom [] cs ∧
      (linesFrom [] row)[0]?.getD [] = withoutReturn row := by
  rcases withoutReturn_cases row with hrow | hrow
  · rw [hrow] at h ⊢
    constructor
    · rw [linesFrom_append h, linesFrom_cons (by decide)]
      simp [isLineBreak]
    · rw [← List.append_nil row, linesFrom_append h, linesFrom]
      cases row <;> simp
  · generalize withoutReturn row = body at h hrow
    subst hrow
    constructor
    · rw [List.append_assoc, List.singleton_append, linesFrom_append h, linesFrom]
      simp
    · rw [linesFrom_append h, linesFrom]
      · simp [isLineBreak, linesFrom]
      · simp

theorem rows_cases (cs : List Char) :
    rows cs = [cs] ∨ ∃ first rest, cs = first ++ '\n' :: rest ∧ rows cs = first :: rows rest := by
  by_cases hfeed : '\n' ∈ cs
  · obtain ⟨first, rest, rfl, hfirst⟩ := List.eq_append_cons_of_mem hfeed
    exact .inr ⟨first, rest, rfl, List.splitOn_append_cons_self_of_not_mem hfirst rest⟩
  · exact .inl (List.splitOn_eq_singleton hfeed)

/-- Lines are rows as far as no row has a break within it. -/
theorem getElem?_linesFrom {number : ℕ} (hrow : (rows cs)[number]? = some row)
    (h : ∀ r ∈ (rows cs).take (number + 1), BreakFree (withoutReturn r)) :
    (linesFrom [] cs)[number]?.getD [] = withoutReturn row := by
  induction number generalizing cs with
  | zero =>
    rcases rows_cases cs with hrows | ⟨first, rest, rfl, hrows⟩ <;> rw [hrows] at hrow h <;>
      obtain rfl := Option.some.inj hrow
    · exact (linesFrom_row (h _ List.mem_cons_self) []).2
    · rw [(linesFrom_row (h _ List.mem_cons_self) rest).1]
      rfl
  | succ number ih =>
    rcases rows_cases cs with hrows | ⟨first, rest, rfl, hrows⟩ <;> rw [hrows] at hrow h
    · cases hrow
    · obtain ⟨hfirst, hrest⟩ := List.forall_mem_cons.mp h
      rw [(linesFrom_row hfirst rest).1]
      exact ih hrow hrest

theorem line_eq_row {s : String} {number : ℕ} (hrow : (rows s.toList)[number]? = some row)
    (h : ∀ r ∈ (rows s.toList).take (number + 1), BreakFree (withoutReturn r)) :
    line s (number + 1) = String.ofList (withoutReturn row) := by
  rw [line, if_neg (Nat.succ_ne_zero number), Nat.add_sub_cancel, lines, List.getElem?_map,
    ← getElem?_linesFrom hrow h]
  cases (linesFrom [] s.toList)[number]? <;> rfl

theorem rowBehind_of_line (h : '\n' ∉ cs) : rowBehind cs = cs :=
  List.takeWhile_eq_self_iff.mpr fun _ hc => bne_iff_ne.mpr fun hfeed => h (hfeed ▸ hc)

theorem rowBehind_append (piece behind : List Char) : rowBehind (piece ++ behind) =
    if '\n' ∈ piece then rowBehind piece else piece ++ rowBehind behind := by
  split
  · next hfeed =>
    obtain ⟨first, rest, rfl, hfirst⟩ := List.eq_append_cons_of_mem hfeed
    have hline : EndsLine ('\n' :: (rest ++ behind)) := .inr rfl
    rw [List.append_assoc, List.cons_append, rowBehind, rowBehind, hline.takeWhile hfirst,
      EndsLine.takeWhile hfirst (.inr rfl)]
  · next hline =>
    exact List.takeWhile_append_of_pos fun c hc => bne_iff_ne.mpr fun h => hline (h ▸ hc)

/-- Lines end at line feeds only. -/
def BrokenByFeeds (cs : List Char) : Prop := cs.all (fun c => !isLineBreak c || c == '\n') = true

instance (cs : List Char) : Decidable (BrokenByFeeds cs) := inferInstanceAs (Decidable (_ = _))

theorem breakFree_of_feeds (h : BrokenByFeeds cs) (hrow : row ∈ rows cs) : BreakFree row := by
  induction cs generalizing row with
  | nil =>
    obtain rfl := List.mem_singleton.mp hrow
    rfl
  | cons c cs ih =>
    obtain ⟨hc, hcs⟩ := Bool.and_eq_true_iff.mp (List.all_cons.symm.trans h)
    rw [rows_cons] at hrow
    split at hrow
    · rcases List.mem_cons.mp hrow with rfl | hrow
      · rfl
      · exact ih hcs hrow
    · next hfeed =>
      have hfree : isLineBreak c = false := by simpa [hfeed] using hc
      obtain ⟨first, others, hrows⟩ : ∃ first others, rows cs = first :: others :=
        List.exists_cons_of_ne_nil (List.splitOn_ne_nil '\n' cs)
      rw [hrows] at ih hrow
      rcases List.mem_cons.mp hrow with rfl | hrow
      · exact breakFree_cons.mpr ⟨hfree, ih hcs List.mem_cons_self⟩
      · exact ih hcs (List.mem_cons_of_mem first hrow)

theorem withoutReturn_of_breakFree (h : BreakFree row) : withoutReturn row = row := by
  rcases withoutReturn_cases row with hrow | hrow
  · exact hrow
  · rw [hrow] at h
    simp [BreakFree, isLineBreak] at h

end Text

namespace Position

open Text

theorem column_after (before : List Char) :
    (start.after before).column = (rowBefore before).length + 1 := by
  have hline := not_mem_rowBefore before
  rcases rowBefore_cases before with hrow | ⟨above, habove⟩
  · rw [hrow] at hline ⊢
    rw [after_of_line hline, start]
    exact Int.add_comm _ _
  · have hafter : start.after before =
        (Position.mk ((start.after above).line + 1) 1).after (rowBefore before) := by
      conv_lhs => rw [habove, after_append, after_cons]
      rfl
    rw [hafter, after_of_line hline]
    exact Int.add_comm _ _

/-- How many characters of a text stand before a place that is given by its row and column. -/
def offset (p : Position) (rows : List (List Char)) : ℕ :=
  extent (rows.take (p.line - 1).toNat) + (p.column - 1).toNat

theorem offset_after (before behind : List Char) :
    (start.after before).offset (rows (before ++ behind)) = before.length := by
  obtain ⟨above, hlength, hsum, hrows⟩ := exists_rows_above before
  have hline : ((start.after before).line - 1).toNat = above.length := by
    rw [line_after, hlength]
    change (1 + (before.count '\n' : ℤ) - 1).toNat = _
    omega
  have hcolumn : ((start.after before).column - 1).toNat = (rowBefore before).length := by
    rw [column_after]
    omega
  rw [offset, hline, hcolumn, hrows, List.take_left' rfl, hsum]

end Position

namespace Text

/-- The line of a place is its row as long as no row up to there has a break within it. -/
theorem line_of_place {s : String} {before behind : List Char} (h : s.toList = before ++ behind)
    (hrows : ∀ row ∈ (rows s.toList).take (Position.start.after before).line.toNat,
      BreakFree (withoutReturn row)) : line s (Position.start.after before).line.toNat =
        String.ofList (withoutReturn (rowBefore before ++ rowBehind behind)) := by
  have hline : (Position.start.after before).line.toNat = before.count '\n' + 1 := by
    rw [Position.line_after]
    change (1 + (before.count '\n' : ℤ)).toNat = _
    omega
  rw [hline] at hrows ⊢
  exact line_eq_row (h ▸ getElem?_rows before behind) hrows

end Text

end TapeMachine
