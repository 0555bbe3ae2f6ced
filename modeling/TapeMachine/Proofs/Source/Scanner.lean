import TapeMachine.Proofs.Source.Layout

/-!
Reading a text within a form, and the layouts of the rows that the form yields. Two things are asked
of a form: the terminals that may come at a place begin with different characters, and after a name
none of them begins like one.
-/
namespace TapeMachine

open Terminal

namespace Form

variable {f g : Form} {t : Terminal} {k w : List Terminal}

/-- The terminals that may come first, with those that may come after the form. -/
def firsts : Form → List Terminal → List Terminal
  | done, k => k
  | one t _, _ => [t]
  | opt t _ rest, k => t :: firsts rest k
  | many t _ rest, k => t :: firsts rest k
  | barred t, _ => [t]

/-- At each place of a form the next terminal is told by its first character. -/
def Clear : Form → List Terminal → Prop
  | done, _ => True
  | one t rest, k => (t = name → ∀ u ∈ firsts rest k, u.isSign = true) ∧ Clear rest k
  | opt t body rest, k => t ≠ name ∧ (∀ u ∈ firsts rest k, t.apart u = true) ∧
      Clear body (firsts rest k) ∧ Clear rest k
  | many t body rest, k => t ≠ name ∧ (∀ u ∈ firsts rest k, t.apart u = true) ∧
      Clear body (t :: firsts rest k) ∧ Clear rest k
  | barred _, _ => True

instance decidableClear : ∀ (f : Form) (k : List Terminal), Decidable (f.Clear k)
  | done, _ | barred _, _ => inferInstanceAs (Decidable True)
  | one _ rest, k =>
    have := decidableClear rest k
    inferInstanceAs (Decidable (_ ∧ _))
  | opt _ body rest, k =>
    have := decidableClear body (firsts rest k)
    have := decidableClear rest k
    inferInstanceAs (Decidable (_ ∧ _ ∧ _ ∧ _))
  | many t body rest, k =>
    have := decidableClear body (t :: firsts rest k)
    have := decidableClear rest k
    inferInstanceAs (Decidable (_ ∧ _ ∧ _ ∧ _))

theorem firsts_nil (f : Form) : f.firsts [] = f.admitted := by
  induction f <;> simp_all [firsts, admitted]

theorem firsts_append (f g : Form) (k : List Terminal) :
    (append f g).firsts k = f.firsts (g.firsts k) := by
  induction f <;> simp_all [firsts, append]

theorem clear_append (hf : f.Clear (g.firsts k)) (hg : g.Clear k) : (append f g).Clear k := by
  induction f with
  | done => exact hg
  | one t rest ih =>
    simp only [append, Clear, firsts_append]
    exact ⟨hf.1, ih hf.2⟩
  | opt t body rest _ ih | many t body rest _ ih =>
    simp only [append, Clear, firsts_append]
    exact ⟨hf.1, hf.2.1, hf.2.2.1, ih hf.2.2.2⟩
  | barred => trivial

theorem clear_next (hf : f.Clear k) (hn : f.next t = some g) : g.Clear k := by
  induction f with
  | done | barred => cases hn
  | one u rest =>
    simp only [next, Option.ite_none_right_eq_some, Option.some.injEq] at hn
    exact hn.2 ▸ hf.2
  | opt u body rest _ ih =>
    rw [next] at hn
    split at hn
    · cases hn
      exact clear_append hf.2.2.1 hf.2.2.2
    · exact ih hf.2.2.2 hn
  | many u body rest _ ih =>
    rw [next] at hn
    split at hn
    · cases hn
      exact clear_append hf.2.2.1 hf
    · exact ih hf.2.2.2 hn

/-- After a name comes something that begins with no character of a name. -/
theorem isSign_of_next_name (hf : f.Clear k) (hn : f.next name = some g) :
    ∀ u ∈ g.firsts k, u.isSign = true := by
  induction f with
  | done | barred => cases hn
  | one u rest =>
    simp only [next, Option.ite_none_right_eq_some, Option.some.injEq] at hn
    exact hn.2 ▸ hf.1 hn.1.symm
  | opt u body rest _ ih | many u body rest _ ih =>
    rw [next, if_neg hf.1.symm] at hn
    exact ih hf.2.2.2 hn

/-- At most one of the terminals that may come begins with a character. -/
theorem eq_of_opens {u : Terminal} {c : Char} (hf : f.Clear []) (ht : t ∈ f.admitted)
    (hu : u ∈ f.admitted) (htc : t.opens c = true) (huc : u.opens c = true) : t = u := by
  induction f with
  | done => cases ht
  | one | barred => exact (List.mem_singleton.mp ht).trans (List.mem_singleton.mp hu).symm
  | opt v body rest _ ih | many v body rest _ ih =>
    have hap : ∀ x ∈ rest.admitted, v.opens c = true → x.opens c = false := by
      intro x hx
      exact opens_of_apart (hf.2.1 x (by rwa [firsts_nil]))
    rcases List.mem_cons.mp ht with rfl | ht' <;> rcases List.mem_cons.mp hu with rfl | hu'
    · rfl
    · simp [hap u hu' htc] at huc
    · simp [hap t ht' huc] at htc
    · exact ih hf.2.2.2 ht' hu'

theorem mem_admitted_of_yields (h : f.Yields (t :: w)) : t ∈ f.admitted := by
  induction f with
  | done | barred => cases h
  | one => cases h; exact List.mem_singleton_self _
  | opt u body rest _ ih =>
    cases h with
    | optSkip h => exact List.mem_cons_of_mem _ (ih h)
    | optTake h => exact List.mem_cons_self
  | many u body rest _ ih =>
    cases h with
    | manySkip h => exact List.mem_cons_of_mem _ (ih h)
    | manyTake h => exact List.mem_cons_self

theorem ne_of_apart {u : Terminal} (h : t.apart u = true) : t ≠ u := by
  rintro rfl
  revert h
  cases t <;> decide

/-- A clear form is read without looking ahead: the next terminal says how it goes on. -/
theorem next_of_yields (hf : f.Clear []) (h : f.Yields (t :: w)) :
    ∃ g, f.next t = some g ∧ g.Yields w := by
  induction f with
  | done | barred => cases h
  | one u rest =>
    cases h with
    | one h => exact ⟨rest, if_pos rfl, h⟩
  | opt u body rest _ ih =>
    cases h with
    | optTake h => exact ⟨_, if_pos rfl, h⟩
    | optSkip h =>
      have hu := ne_of_apart (hf.2.1 t (by rw [firsts_nil]; exact mem_admitted_of_yields h))
      obtain ⟨g, hg, hw⟩ := ih hf.2.2.2 h
      exact ⟨g, by rw [next, if_neg hu.symm, hg], hw⟩
  | many u body rest _ ih =>
    cases h with
    | manyTake h => exact ⟨_, if_pos rfl, h⟩
    | manySkip h =>
      have hu := ne_of_apart (hf.2.1 t (by rw [firsts_nil]; exact mem_admitted_of_yields h))
      obtain ⟨g, hg, hw⟩ := ih hf.2.2.2 h
      exact ⟨g, by rw [next, if_neg hu.symm, hg], hw⟩

/-- No description comes anywhere in a form. -/
def Plain : Form → Prop
  | done => True
  | one t rest => t ≠ description ∧ Plain rest
  | opt t body rest => t ≠ description ∧ Plain body ∧ Plain rest
  | many t body rest => t ≠ description ∧ Plain body ∧ Plain rest
  | barred t => t ≠ description

instance decidablePlain : ∀ f : Form, Decidable f.Plain
  | done => inferInstanceAs (Decidable True)
  | one _ rest =>
    have := decidablePlain rest
    inferInstanceAs (Decidable (_ ∧ _))
  | opt _ body rest | many _ body rest =>
    have := decidablePlain body
    have := decidablePlain rest
    inferInstanceAs (Decidable (_ ∧ _ ∧ _))
  | barred _ => inferInstanceAs (Decidable (_ ≠ _))

/-- A description comes first in a form or nowhere. -/
def Late (f : Form) : Prop := ∀ t g, f.next t = some g → g.Plain

/-- A description may come next. -/
def opening (f : Form) : Bool := f.admitted.contains description

theorem plain_append (hf : f.Plain) (hg : g.Plain) : (append f g).Plain := by
  induction f with
  | done => exact hg
  | one t rest ih => exact ⟨hf.1, ih hf.2⟩
  | opt t body rest _ ih | many t body rest _ ih => exact ⟨hf.1, hf.2.1, ih hf.2.2⟩
  | barred => exact hf

theorem late_of_plain (hf : f.Plain) : f.Late := by
  intro t g hn
  induction f with
  | done | barred => cases hn
  | one u rest =>
    simp only [next, Option.ite_none_right_eq_some, Option.some.injEq] at hn
    exact hn.2 ▸ hf.2
  | opt u body rest _ ih =>
    rw [next] at hn
    split at hn
    · cases hn
      exact plain_append hf.2.1 hf.2.2
    · exact ih hf.2.2 hn
  | many u body rest _ ih =>
    rw [next] at hn
    split at hn
    · cases hn
      exact plain_append hf.2.1 hf
    · exact ih hf.2.2 hn

theorem opening_of_plain (hf : f.Plain) : f.opening = false := by
  simp only [opening, List.contains_eq_mem, decide_eq_false_iff_not]
  induction f with
  | done => exact List.not_mem_nil
  | one | barred => simp_all [admitted, Plain, eq_comm]
  | opt t body rest _ ih | many t body rest _ ih =>
    rw [admitted, List.mem_cons, not_or]
    exact ⟨hf.1.symm, ih hf.2.2⟩

variable {cs v : List Char}

theorem scan?_eq_some (h : f.scan? cs = some (t, v)) : t ∈ f.admitted ∧ t.lexeme? cs = some v := by
  obtain ⟨u, hu, hs⟩ := List.exists_of_findSome?_eq_some h
  obtain ⟨x, hx, he⟩ := Option.map_eq_some_iff.mp hs
  cases he
  exact ⟨hu, hx⟩

theorem scan?_eq_none_iff : f.scan? cs = none ↔ ∀ t ∈ f.admitted, t.lexeme? cs = none := by
  simp [scan?, List.findSome?_eq_none_iff]

/-- In a clear form the one terminal that fits is found. -/
theorem scan?_of_lexeme? (hf : f.Clear []) (ht : t ∈ f.admitted) (hv : t.lexeme? cs = some v) :
    f.scan? cs = some (t, v) := by
  obtain ⟨c, rest, rfl, hc⟩ := opens_of_lexeme? hv
  cases hs : f.scan? (c :: rest) with
  | none =>
    rw [scan?_eq_none_iff.mp hs t ht] at hv
    cases hv
  | some r =>
    obtain ⟨hu, hw⟩ := scan?_eq_some hs
    obtain ⟨d, _, hd, hdo⟩ := opens_of_lexeme? hw
    cases hd
    obtain rfl := eq_of_opens hf ht hu hc hdo
    rw [hv] at hw
    cases hw
    rfl

theorem scan?_blank {c : Char} (hc : isGap c = true) (cs : List Char) :
    f.scan? (c :: cs) = none := by
  rw [scan?_eq_none_iff]
  intro t _
  by_contra hne
  obtain ⟨v, hv⟩ := Option.ne_none_iff_exists'.mp hne
  obtain ⟨d, _, hd, hdo⟩ := opens_of_lexeme? hv
  cases hd
  rw [opens_of_isGap hc t] at hdo
  cases hdo

/-- Where a description may come, three slashes are read as one, and only two begin a comment. -/
theorem scan?_slashes (h : f.opening = true → cs.head? ≠ some '/') :
    f.scan? ('/' :: '/' :: cs) = none := by
  rw [scan?_eq_none_iff]
  intro t ht
  by_contra hne
  obtain ⟨v, hv⟩ := Option.ne_none_iff_exists'.mp hne
  obtain ⟨d, _, hd, hdo⟩ := opens_of_lexeme? hv
  cases hd
  by_cases htd : t = description
  · subst htd
    have hhead := h (by simpa [opening] using ht)
    simp only [lexeme?] at hv
    split at hv
    · next hpre =>
      obtain ⟨rest, hrest⟩ := List.isPrefixOf_iff_prefix.mp hpre
      cases hrest
      exact hhead rfl
    · cases hv
  · rw [opens_slash htd] at hdo
    cases hdo

end Form

theorem gap?_cases {cs gap : List Char} (h : gap? cs = some gap) :
    (∃ c rest, cs = c :: rest ∧ isGap c = true ∧ gap = [c]) ∨
      ∃ rest, cs = '/' :: '/' :: rest ∧ gap = '/' :: '/' :: rest.takeWhile (· != '\n') := by
  unfold gap? at h
  split at h
  · next hpre =>
    cases h
    obtain ⟨rest, rfl⟩ := List.isPrefixOf_iff_prefix.mp hpre
    exact .inr ⟨rest, rfl, by simp [List.takeWhile]⟩
  · cases cs with
    | nil => cases h
    | cons c rest =>
      simp only [Option.ite_none_right_eq_some, Option.some.injEq] at h
      exact .inl ⟨c, rest, rfl, h.1, h.2.symm⟩

theorem gap?_blank {c : Char} (hc : isGap c = true) (cs : List Char) :
    gap? (c :: cs) = some [c] := by
  have hs := (isNameChar_of_isGap hc).2
  simp [gap?, hc, hs.symm]

theorem gap?_comment {body cs : List Char} (hb : '\n' ∉ body) (hcs : EndsLine cs) :
    gap? ('/' :: '/' :: (body ++ cs)) = some ('/' :: '/' :: body) := by
  simp [gap?, List.takeWhile, hcs.takeWhile hb]

variable {f g : Form} {last p : Position} {cs w gap : List Char} {ts : List Token}
  {ls : List Lexeme} {t : Terminal} {o : Bool}

theorem readFrom_scan (hs : f.scan? cs = some (t, w)) (hn : f.next t = some g) :
    readFrom f last p cs = (readFrom g (p.after w) (p.after w) (cs.drop w.length)).map
      (⟨t, String.ofList w, p, p.after w⟩ :: ·) := by
  rw [readFrom]
  split
  · next hs' =>
    rw [hs] at hs'
    cases hs'
    simp [hn]
  · next hs' =>
    rw [hs] at hs'
    cases hs'

theorem readFrom_gap (hs : f.scan? cs = none) (hg : gap? cs = some gap) :
    readFrom f last p cs = readFrom f last (p.after gap) (cs.drop gap.length) := by
  rw [readFrom]
  split
  · next hs' =>
    rw [hs] at hs'
    cases hs'
  · split
    · next hg' =>
      rw [hg] at hg'
      cases hg'
      rfl
    · next hg' =>
      rw [hg] at hg'
      cases hg'

theorem readFrom_nil (hf : f.complete = true) : readFrom f last p [] = .ok [] := by
  have hs : f.scan? [] = none := by
    rw [Form.scan?_eq_none_iff]
    intro t _
    by_contra hne
    obtain ⟨v, hv⟩ := Option.ne_none_iff_exists'.mp hne
    obtain ⟨_, _, h, _⟩ := opens_of_lexeme? hv
    cases h
  rw [readFrom]
  split
  · next hs' =>
    rw [hs] at hs'
    cases hs'
  · split
    · next hg => cases hg
    · simp [hf]

/-- Where a description may come a comment has just two slashes, or it would have been read as
one. -/
theorem Form.head?_of_scan? {rest : List Char} (hs : f.scan? ('/' :: '/' :: rest) = none)
    (ho : f.opening = true) : (rest.takeWhile (· != '\n')).head? ≠ some '/' := by
  intro hh
  have hnone := Form.scan?_eq_none_iff.mp hs description (by simpa [Form.opening] using ho)
  cases rest with
  | nil => cases hh
  | cons c rest =>
    simp only [List.takeWhile] at hh
    split at hh
    · cases hh
      simp [lexeme?] at hnone
    · cases hh

theorem exists_of_map_eq_ok {ε α β : Type} {r : Except ε α} {k : α → β} {b : β}
    (h : r.map k = .ok b) : ∃ a, r = .ok a ∧ k a = b := by
  cases r with
  | error e => cases h
  | ok a =>
    cases h
    exact ⟨a, rfl, rfl⟩

/-- What is read is a row that the form yields, and the text is a layout of it. -/
theorem readFrom_sound (hf : f.Late) (h : readFrom f last p cs = .ok ts) :
    f.Yields (ts.map (·.terminal)) ∧ Layout f.opening (ts.map Token.lexeme) cs ∧
      ∀ t ∈ ts, t.lexeme.Spelled := by
  fun_induction readFrom f last p cs generalizing ts with
  | case1 f last p cs t word hs token g hn =>
    rename_i ih
    obtain ⟨us, hus, rfl⟩ := exists_of_map_eq_ok h
    have hg := hf t g hn
    obtain ⟨hy, hl, hsp⟩ := ih (Form.late_of_plain hg) hus
    rw [Form.opening_of_plain hg] at hl
    obtain ⟨hword, hend⟩ := spelled_of_lexeme? (Form.scan?_eq_some hs).2
    obtain ⟨rest, rfl, -⟩ := Form.scan?_eq_append hs
    rw [List.drop_left] at hl hend
    refine ⟨Form.yields_cons_of_next hn hy, ?_, List.forall_mem_cons.mpr ⟨hword, hsp⟩⟩
    have hcs : Layout f.opening (⟨t, String.ofList word⟩ :: us.map Token.lexeme)
        ((String.ofList word).toList ++ rest) := .lexeme hend hl
    rwa [String.toList_ofList] at hcs
  | case2 | case5 => cases h
  | case3 f last p cs hs gap hg ih =>
    obtain ⟨hy, hl, hsp⟩ := ih hf h
    refine ⟨hy, ?_, hsp⟩
    rcases gap?_cases hg with ⟨c, rest, rfl, hc, rfl⟩ | ⟨rest, rfl, rfl⟩
    · exact .blank hc hl
    · simp only [List.length_cons, List.drop_succ_cons, drop_takeWhile] at hl
      have hcs := Layout.comment (not_mem_takeWhile rest) (Form.head?_of_scan? hs)
        (endsLine_dropWhile rest) hl
      rwa [List.takeWhile_append_dropWhile] at hcs
  | case4 f last p cs hs hg he =>
    cases h
    simp only [Bool.and_eq_true, List.isEmpty_iff] at he
    obtain ⟨rfl, hcomp⟩ := he
    exact ⟨Form.yields_nil_of_complete hcomp, .nil, by simp⟩

/-- A layout of lexemes whose first begins with no character of a name does not begin so either. -/
theorem Layout.head_of_isSign (h : Layout o ls cs) (hs : ∀ l ∈ ls, l.Spelled)
    (hl : ∀ l ∈ ls.head?, l.terminal.isSign = true) : ∀ c ∈ cs.head?, isNameChar c = false := by
  intro c hc
  cases h with
  | nil => cases hc
  | blank hb =>
    cases hc
    exact (isNameChar_of_isGap hb).1
  | comment =>
    cases hc
    rfl
  | @lexeme _ l ls cs =>
    obtain ⟨d, rest, hd, ho⟩ := (hs l List.mem_cons_self).opens
    rw [hd] at hc
    cases hc
    exact isNameChar_of_isSign (hl l rfl) ho

/-- Every layout of a row that the form yields is read as that row. -/
theorem readFrom_complete (h : Layout o ls cs) (ho : o = f.opening) (hc : f.Clear []) (hf : f.Late)
    (hy : f.Yields (ls.map (·.terminal))) (hs : ∀ l ∈ ls, l.Spelled) (last p : Position) :
    ∃ ts, readFrom f last p cs = .ok ts ∧ ts.map Token.lexeme = ls := by
  induction h generalizing f last p with
  | nil => exact ⟨[], readFrom_nil (Form.complete_of_yields_nil hy), rfl⟩
  | @blank _ c _ cs hb _ ih =>
    rw [readFrom_gap (Form.scan?_blank hb cs) (gap?_blank hb cs)]
    exact ih ho hc hf hy hs _ _
  | @comment _ body _ cs hbody hopen hend _ ih =>
    have hscan : f.scan? ('/' :: '/' :: (body ++ cs)) = none := by
      apply Form.scan?_slashes
      intro hfo
      cases body with
      | nil => rcases hend with rfl | hend <;> simp_all
      | cons b body => exact hopen (ho.trans hfo)
    rw [readFrom_gap hscan (gap?_comment hbody hend)]
    simp only [List.length_cons, List.drop_succ_cons, List.drop_left]
    exact ih ho hc hf hy hs _ _
  | @lexeme _ l ls cs hend hl ih =>
    obtain ⟨hsl, hsls⟩ := List.forall_mem_cons.mp hs
    rw [List.map_cons] at hy
    obtain ⟨g, hn, hyg⟩ := Form.next_of_yields hc hy
    have hg := hf _ _ hn
    have hcs : l.terminal = .name → ∀ c ∈ cs.head?, isNameChar c = false := by
      intro hname
      apply hl.head_of_isSign hsls
      intro m hm
      cases ls with
      | nil => cases hm
      | cons m' ls =>
        cases hm
        apply Form.isSign_of_next_name hc (hname ▸ hn)
        rw [Form.firsts_nil]
        exact Form.mem_admitted_of_yields hyg
    have hscan := Form.scan?_of_lexeme? hc (Form.mem_admitted_of_yields hy) (hsl.lexeme? hend hcs)
    rw [readFrom_scan hscan hn, List.drop_left]
    obtain ⟨ts, hts, rfl⟩ := ih (Form.opening_of_plain hg).symm (Form.clear_next hc hn)
      (Form.late_of_plain hg) hyg hsls (p.after l.text.toList) (p.after l.text.toList)
    rw [hts]
    exact ⟨_, rfl, by simp [Token.lexeme]⟩

end TapeMachine
