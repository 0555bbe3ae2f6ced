import Mathlib.Data.List.DropRight
import TapeMachine.Proofs.Build

/-! What a description says: nothing is left to trim off or to drop, so it can be written down
again. -/
namespace TapeMachine

variable {cs : List Char} {token text : String}

namespace Text

theorem trim_infix (cs : List Char) : trim cs <:+: cs :=
  (List.rdropWhile_prefix isBlank _).isInfix.trans (List.dropWhile_suffix isBlank).isInfix

theorem dropWhile_trim (cs : List Char) : (trim cs).dropWhile isBlank = trim cs := by
  have hbegins : trim cs <+: cs.dropWhile isBlank := List.rdropWhile_prefix isBlank _
  rw [List.dropWhile_eq_self_iff]
  intro hpos
  have hfirst := List.dropWhile_get_zero_not isBlank cs (hpos.trans_le hbegins.length_le)
  rwa [hbegins.getElem hpos]

theorem trim_trim (cs : List Char) : trim (trim cs) = trim cs := calc
  trim (trim cs) = ((trim cs).dropWhile isBlank).rdropWhile isBlank := rfl
  _ = (trim cs).rdropWhile isBlank := by rw [dropWhile_trim]
  _ = trim cs := List.rdropWhile_idempotent isBlank _

theorem trim_of_ends (hfirst : ∀ c ∈ cs.head?, isBlank c = false)
    (hlast : ∀ c ∈ cs.getLast?, isBlank c = false) : trim cs = cs := by
  have hdrop : ∀ {ds : List Char}, (∀ c ∈ ds.head?, isBlank c = false) →
      ds.dropWhile isBlank = ds := by
    intro ds hds
    cases ds with
    | nil => rfl
    | cons d ds => simp [hds d rfl]
  rw [trim, hdrop hfirst, hdrop (by rwa [List.head?_reverse]), List.reverse_reverse]

theorem trim_cons {c : Char} (hc : isBlank c = true) (cs : List Char) :
    trim (c :: cs) = trim cs := by
  simp [trim, hc]

end Text

/-- There are no three slashes in a row. -/
def Slashless (cs : List Char) : Prop := ¬ ['/', '/', '/'] <:+: cs

theorem dropSlashes_of_slashless (h : Slashless cs) : dropSlashes cs = cs := by
  fun_induction dropSlashes cs with
  | case1 cs => exact (h (List.prefix_append ['/', '/', '/'] cs).isInfix).elim
  | case2 c cs _ ih =>
    have hcs : Slashless cs := fun hm => h (hm.trans (List.suffix_cons c cs).isInfix)
    rw [ih hcs]
  | case3 => rfl

theorem dropSlashes_sublist (cs : List Char) : (dropSlashes cs).Sublist cs := by
  fun_induction dropSlashes cs with
  | case1 cs ih => exact ih.trans (List.sublist_append_right ['/', '/', '/'] cs)
  | case2 c cs _ ih => exact ih.cons_cons c
  | case3 => exact .slnil

/-- The slashes that a text begins with once some were dropped were there before. -/
theorem slashes_of_dropSlashes {n : ℕ} (h : List.replicate n '/' <+: dropSlashes cs) :
    List.replicate n '/' <+: cs := by
  fun_induction dropSlashes cs generalizing n with
  | case1 cs ih =>
    have hmore : List.replicate n '/' <+: List.replicate (n + 3) '/' := by
      rw [List.replicate_add]
      exact List.prefix_append _ _
    have hall : List.replicate (n + 3) '/' <+: '/' :: '/' :: '/' :: cs := by
      simpa [List.replicate_succ] using ih h
    exact hmore.trans hall
  | case2 c cs _ ih =>
    cases n with
    | zero => exact List.nil_prefix
    | succ n =>
      rw [List.replicate_succ, List.cons_prefix_cons] at h ⊢
      exact ⟨h.1, ih h.2⟩
  | case3 => exact h

theorem slashless_dropSlashes (cs : List Char) : Slashless (dropSlashes cs) := by
  fun_induction dropSlashes cs with
  | case1 cs ih => exact ih
  | case2 c cs hc ih =>
    intro hm
    rcases List.infix_cons_iff.mp hm with hbegins | hwithin
    · obtain ⟨rfl, hslashes⟩ := List.cons_prefix_cons.mp hbegins
      obtain ⟨rest, rfl⟩ := slashes_of_dropSlashes (n := 2) hslashes
      exact hc rest rfl rfl
    · exact ih hwithin
  | case3 => simp [Slashless]

/-- The line of a text that describes a program. -/
def descriptionLine (text : String) : String := "/// " ++ text

theorem described?_eq_some (h : described? token = some text) :
    text = descriptionText token ∧ text.isEmpty = false := by
  rw [described?] at h
  split at h
  · cases h
  · next hne =>
    cases h
    exact ⟨rfl, by simpa using hne⟩

theorem descriptionText_descriptionLine (token : String) :
    descriptionText (descriptionLine (descriptionText token)) = descriptionText token := by
  have hslashless : Slashless (Text.trim (dropSlashes token.toList)) := fun hm =>
    slashless_dropSlashes _ (hm.trans (Text.trim_infix _))
  have htoken : (descriptionLine (descriptionText token)).toList =
      '/' :: '/' :: '/' :: ' ' :: Text.trim (dropSlashes token.toList) := by
    simp [descriptionLine, descriptionText]
  rw [descriptionText, htoken, dropSlashes, dropSlashes, dropSlashes_of_slashless hslashless,
    Text.trim_cons (by decide), Text.trim_trim, descriptionText]
  intro rest hspace
  cases hspace

/-- What a description says is said again by the line made of it. -/
theorem described?_descriptionLine (h : described? token = some text) :
    described? (descriptionLine text) = some text := by
  obtain ⟨rfl, hne⟩ := described?_eq_some h
  rw [described?, descriptionText_descriptionLine, hne]
  rfl

theorem isDescription_descriptionLine (htoken : IsDescription token)
    (h : described? token = some text) : IsDescription (descriptionLine text) := by
  obtain ⟨rfl, -⟩ := described?_eq_some h
  obtain ⟨body, hbody, hline⟩ := htoken
  refine ⟨' ' :: (descriptionText token).toList, by simp [descriptionLine], ?_⟩
  intro hm
  rw [descriptionText, String.toList_ofList, List.mem_cons] at hm
  have hm := (Text.trim_infix _).subset (hm.resolve_left (by decide))
  have hm := (dropSlashes_sublist _).subset hm
  rw [hbody] at hm
  simp [hline] at hm

end TapeMachine
