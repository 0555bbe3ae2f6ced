import TapeMachine.Proofs.Text.Description

/-!
Texts whose lines end with a carriage return and a line feed: they have the lines that the texts
with line feeds alone have, and their descriptions say the same.
-/
namespace TapeMachine

namespace Text

/-- A text with a carriage return put before every line feed. -/
def returned (cs : List Char) : List Char :=
  cs.flatMap fun c => if c = '\n' then ['\r', '\n'] else [c]

/-- A text that ends its lines with a carriage return and a line feed. -/
def withReturns (s : String) : String := String.ofList (returned s.toList)

variable {c : Char} {cs ds : List Char}

theorem returned_append (cs ds : List Char) : returned (cs ++ ds) = returned cs ++ returned ds :=
  List.flatMap_append

theorem returned_feed (cs : List Char) : returned ('\n' :: cs) = '\r' :: '\n' :: returned cs := rfl

theorem returned_cons (h : c ≠ '\n') (cs : List Char) : returned (c :: cs) = c :: returned cs := by
  simp [returned, h]

theorem returned_of_line (h : '\n' ∉ cs) : returned cs = cs := by
  induction cs with
  | nil => rfl
  | cons c cs ih =>
    rw [List.mem_cons, not_or] at h
    rw [returned_cons (Ne.symm h.1), ih h.2]

theorem isEmpty_returned (cs : List Char) : (returned cs).isEmpty = cs.isEmpty := by
  cases cs with
  | nil => rfl
  | cons c cs =>
    by_cases hc : c = '\n'
    · rw [hc, returned_feed]
      rfl
    · rw [returned_cons hc]
      rfl

theorem unifyBreaks_of_not_mem (h : '\r' ∉ cs) : unifyBreaks cs = cs := by
  induction cs with
  | nil => rfl
  | cons c cs ih =>
    rw [List.mem_cons, not_or] at h
    rw [unifyBreaks, ih h.2]
    · rintro rest rfl
      exact (h.1 rfl).elim
    · rintro rfl
      exact (h.1 rfl).elim

theorem linesFrom_cons {line : List Char} (h : c ≠ '\r') : linesFrom line (c :: cs) =
    if isLineBreak c then line.reverse :: linesFrom [] cs else linesFrom (c :: line) cs := by
  rw [linesFrom]
  intro rest hc
  exact (h hc).elim

theorem linesFrom_returned (line : List Char) (h : '\r' ∉ cs) :
    linesFrom line (returned cs) = linesFrom line cs := by
  induction cs generalizing line with
  | nil => rfl
  | cons c cs ih =>
    rw [List.mem_cons, not_or] at h
    rw [linesFrom_cons (Ne.symm h.1)]
    by_cases hc : c = '\n'
    · subst hc
      rw [returned_feed, linesFrom, ih [] h.2]
      rfl
    · rw [returned_cons hc, linesFrom_cons (Ne.symm h.1), ih [] h.2, ih (c :: line) h.2]

/-- Both texts have the same lines. -/
theorem line_withReturns {s : String} (h : '\r' ∉ s.toList) (number : Nat) :
    line (withReturns s) number = line s number := by
  rw [line, line, lines, lines, withReturns, String.toList_ofList, linesFrom_returned [] h]

theorem trim_concat (hc : isBlank c = true) (cs : List Char) : trim (cs ++ [c]) = trim cs := by
  unfold trim
  by_cases hall : ∀ b ∈ cs, isBlank b = true
  · have hcs : ∀ b ∈ cs ++ [c], isBlank b = true := by
      intro b hb
      rcases List.mem_append.mp hb with hb | hb
      · exact hall b hb
      · rw [List.mem_singleton.mp hb, hc]
    rw [List.dropWhile_eq_nil_iff.mpr hcs, List.dropWhile_eq_nil_iff.mpr hall]
  · have hne : cs.dropWhile isBlank ≠ [] := fun hnil => hall (List.dropWhile_eq_nil_iff.mp hnil)
    have hdrop : (cs ++ [c]).dropWhile isBlank = cs.dropWhile isBlank ++ [c] := by
      rw [List.dropWhile_append, if_neg (by simpa using hne)]
    rw [hdrop, List.reverse_concat, List.dropWhile_cons_of_pos hc]

end Text

theorem dropSlashes_concat {c : Char} (hc : c ≠ '/') (cs : List Char) :
    dropSlashes (cs ++ [c]) = dropSlashes cs ++ [c] := by
  fun_induction dropSlashes cs with
  | case1 cs ih => exact ih
  | case2 d cs hd ih =>
    have hmore : ∀ rest, d = '/' → cs ++ [c] = '/' :: '/' :: rest → False := by
      intro rest hslash hcs
      rcases cs with _ | ⟨a, _ | ⟨b, cs⟩⟩
      · simp [hc] at hcs
      · simp [hc] at hcs
      · cases hcs
        exact hd cs hslash rfl
    rw [List.cons_append, dropSlashes, ih]
    · rfl
    · exact hmore
  | case3 =>
    rw [List.nil_append, dropSlashes]
    · rfl
    · intro rest hslash
      exact (hc hslash).elim

/-- A carriage return at the end of a description is trimmed off. -/
theorem descriptionText_return (token : String) :
    descriptionText (token ++ "\r") = descriptionText token := by
  have htoken : (token ++ "\r").toList = token.toList ++ ['\r'] := String.toList_append
  rw [descriptionText, htoken, dropSlashes_concat (by decide), Text.trim_concat (by decide),
    descriptionText]

end TapeMachine
