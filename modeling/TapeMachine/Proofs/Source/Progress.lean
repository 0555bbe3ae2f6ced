import TapeMachine.Proofs.Source.Scanner

/-!
How far a text is read: the tokens at their places, and what stands where reading ends. The tokens
that were read decide what may come next.
-/
namespace TapeMachine

open Terminal

/-- Only blanks and comments, in a text that goes on with `rest`. -/
inductive Trivia (opening : Bool) (rest : List Char) : List Char → Prop
  | nil : Trivia opening rest []
  | blank {c : Char} {gap : List Char} :
      isGap c = true → Trivia opening rest gap → Trivia opening rest (c :: gap)
  | comment {body gap : List Char} : '\n' ∉ body → (opening = true → body.head? ≠ some '/') →
      EndsLine (gap ++ rest) → Trivia opening rest gap →
      Trivia opening rest ('/' :: '/' :: (body ++ gap))

/-- A description ends with its line, and a name where no more characters of a name come. -/
def Terminal.EndsBefore (t : Terminal) (cs : List Char) : Prop :=
  match t with
  | description => EndsLine cs
  | name => ∀ c ∈ cs.head?, isNameChar c = false
  | _ => True

/-- A text at a place begins with tokens, each at its own place and with blanks and comments before
it; just past the last one it goes on with a rest. -/
inductive Reads : Bool → Position → List Token → List Char → Position → List Char → Prop
  | nil {opening : Bool} {p : Position} {cs : List Char} : Reads opening p [] cs p cs
  | token {opening : Bool} {p q : Position} {gap cs rest : List Char} {t : Token}
      {ts : List Token} :
      Trivia opening (t.text.toList ++ cs) gap → t.start = p.after gap →
      t.stop = t.start.after t.text.toList → t.lexeme.Spelled →
      t.terminal.EndsBefore cs → Reads false t.stop ts cs q rest →
      Reads opening p (t :: ts) (gap ++ (t.text.toList ++ cs)) q rest

namespace Form

variable {f g : Form} {t : Terminal} {w v : List Terminal}

/-- What may still come once some terminals were read; none when they may not come. -/
def through : List Terminal → Form → Option Form
  | [], f => some f
  | t :: ts, f => (f.next t).bind (through ts)

theorem through_append (w v : List Terminal) (f : Form) :
    f.through (w ++ v) = (f.through w).bind (through v) := by
  induction w generalizing f with
  | nil => rfl
  | cons t w ih =>
    rw [List.cons_append, through, through, Option.bind_assoc]
    exact congrArg _ (funext ih)

/-- Each terminal that the scanner looks for may come. -/
def Unbarred : Form → Prop
  | done => True
  | one _ rest => Unbarred rest
  | opt _ body rest => Unbarred body ∧ Unbarred rest
  | many _ body rest => Unbarred body ∧ Unbarred rest
  | barred _ => False

instance decidableUnbarred : ∀ f : Form, Decidable f.Unbarred
  | done => inferInstanceAs (Decidable True)
  | one _ rest => decidableUnbarred rest
  | opt _ body rest | many _ body rest =>
    have := decidableUnbarred body
    have := decidableUnbarred rest
    inferInstanceAs (Decidable (_ ∧ _))
  | barred _ => inferInstanceAs (Decidable False)

theorem unbarred_append (hf : f.Unbarred) (hg : g.Unbarred) : (append f g).Unbarred := by
  induction f with
  | done => exact hg
  | one t rest ih => exact ih hf
  | opt t body rest _ ih | many t body rest _ ih => exact ⟨hf.1, ih hf.2⟩
  | barred => exact hf.elim

theorem next_of_admitted (hf : f.Unbarred) (ht : t ∈ f.admitted) :
    ∃ g, f.next t = some g ∧ g.Unbarred := by
  induction f with
  | done => cases ht
  | one u rest =>
    obtain rfl := List.mem_singleton.mp ht
    exact ⟨rest, if_pos rfl, hf⟩
  | opt u body rest _ ih =>
    rw [next]
    split
    · exact ⟨_, rfl, unbarred_append hf.1 hf.2⟩
    · next hu => exact ih hf.2 ((List.mem_cons.mp ht).resolve_left hu)
  | many u body rest _ ih =>
    rw [next]
    split
    · exact ⟨_, rfl, unbarred_append hf.1 hf⟩
    · next hu => exact ih hf.2 ((List.mem_cons.mp ht).resolve_left hu)
  | barred => exact hf.elim

/-- What may come can be completed. -/
theorem exists_yields (f : Form) : ∃ w, f.Yields w := by
  induction f with
  | done => exact ⟨[], .done⟩
  | one t rest ih =>
    obtain ⟨w, hw⟩ := ih
    exact ⟨t :: w, .one hw⟩
  | opt _ _ _ _ ih =>
    obtain ⟨w, hw⟩ := ih
    exact ⟨w, .optSkip hw⟩
  | many _ _ _ _ ih =>
    obtain ⟨w, hw⟩ := ih
    exact ⟨w, .manySkip hw⟩
  | barred => exact ⟨[], .barred⟩

/-- A row goes on as the form does that is left of it. -/
theorem yields_append_iff (hf : f.Clear []) :
    f.Yields (w ++ v) ↔ ∃ g, f.through w = some g ∧ g.Yields v := by
  induction w generalizing f with
  | nil => simp [through]
  | cons t w ih =>
    constructor
    · intro h
      obtain ⟨g, hg, hw⟩ := next_of_yields hf h
      obtain ⟨k, hk, hv⟩ := (ih (clear_next hf hg)).mp hw
      exact ⟨k, by rw [through, hg, Option.bind_some, hk], hv⟩
    · rintro ⟨k, hk, hv⟩
      obtain ⟨g, hg, hgk⟩ := Option.bind_eq_some_iff.mp hk
      exact yields_cons_of_next hg ((ih (clear_next hf hg)).mpr ⟨k, hgk, hv⟩)

theorem clear_through (hf : f.Clear []) (h : f.through w = some g) : g.Clear [] := by
  induction w generalizing f with
  | nil =>
    cases h
    exact hf
  | cons t w ih =>
    obtain ⟨k, hk, hkg⟩ := Option.bind_eq_some_iff.mp h
    exact ih (clear_next hf hk) hkg

theorem mem_admitted_of_next (h : f.next t = some g) : t ∈ f.admitted := by
  induction f with
  | done | barred => cases h
  | one u rest =>
    rw [next, Option.ite_none_right_eq_some] at h
    exact List.mem_singleton.mpr h.1
  | opt u body rest _ ih | many u body rest _ ih =>
    rw [next] at h
    split at h
    · next hu => exact hu ▸ List.mem_cons_self
    · exact List.mem_cons_of_mem _ (ih h)

theorem unbarred_next (hf : f.Unbarred) (h : f.next t = some g) : g.Unbarred := by
  obtain ⟨k, hk, hku⟩ := next_of_admitted hf (mem_admitted_of_next h)
  obtain rfl := Option.some.inj (h.symm.trans hk)
  exact hku

theorem unbarred_through (hf : f.Unbarred) (h : f.through w = some g) : g.Unbarred := by
  induction w generalizing f with
  | nil =>
    cases h
    exact hf
  | cons t w ih =>
    obtain ⟨k, hk, hkg⟩ := Option.bind_eq_some_iff.mp h
    exact ih (unbarred_next hf hk) hkg

end Form

/-- Programs and blocks may go on with all that the scanner looks for, though a single rule may
not. -/
theorem Reading.form_unbarred {r : Reading} (hr : r ≠ .rule) : r.form.Unbarred := by
  cases r with
  | rule => exact (hr rfl).elim
  | program | block => decide

variable {f g : Form} {opening : Bool} {p q last : Position} {cs rest gap piece : List Char}
  {w : List Token}

theorem Trivia.append (h : Trivia opening (piece ++ rest) gap) (hp : Trivia opening rest piece) :
    Trivia opening rest (gap ++ piece) := by
  induction h with
  | nil => exact hp
  | blank hc _ ih => exact .blank hc ih
  | @comment body gap hb ho he _ ih =>
    rw [List.cons_append, List.cons_append, List.append_assoc]
    exact .comment hb ho (by rwa [List.append_assoc]) ih

theorem Terminal.endsBefore_of_lexeme? {t : Terminal} {word : List Char}
    (h : t.lexeme? cs = some word) : t.EndsBefore (cs.drop word.length) := by
  cases t with
  | description => exact (spelled_of_lexeme? h).2 rfl
  | name =>
    simp only [lexeme?] at h
    split at h
    · cases h
    · cases h
      rw [drop_takeWhile]
      intro c hc
      have hnot := List.head?_dropWhile_not isNameChar cs
      rw [hc] at hnot
      exact hnot
  | _ => trivial

/-- A token stands in the text where it starts, up to where it stops. -/
theorem Reads.placed (h : Reads opening p w cs q rest) : ∀ t ∈ w, t.lexeme.Spelled ∧
    ∃ before behind, cs = before ++ (t.text.toList ++ behind) ∧ t.start = p.after before ∧
      t.stop = p.after (before ++ t.text.toList) := by
  induction h with
  | nil => simp
  | @token _ p _ gap cs _ u us _ hstart hstop hs _ _ ih =>
    have hplace : u.stop = p.after (gap ++ u.text.toList) := by
      rw [hstop, hstart, Position.after_append]
    refine List.forall_mem_cons.mpr ⟨⟨hs, gap, cs, rfl, hstart, hplace⟩, ?_⟩
    intro t ht
    obtain ⟨hspelled, before, behind, rfl, hbefore, hbehind⟩ := ih t ht
    refine ⟨hspelled, gap ++ (u.text.toList ++ before), behind, by simp, ?_, ?_⟩
    · rw [hbefore, hplace, ← Position.after_append, List.append_assoc]
    · rw [hbehind, hplace, ← Position.after_append]
      simp only [List.append_assoc]

/-- What is passed over where no token is found is a blank or a comment. -/
theorem trivia_of_gap? (hs : f.scan? cs = none) (hg : gap? cs = some gap) :
    Trivia f.opening (cs.drop gap.length) gap := by
  rcases gap?_cases hg with ⟨c, rest, rfl, hc, rfl⟩ | ⟨rest, rfl, rfl⟩
  · exact .blank hc .nil
  · have hend : EndsLine ([] ++ ('/' :: '/' :: rest).drop
        ('/' :: '/' :: rest.takeWhile (· != '\n')).length) := by
      simpa [drop_takeWhile] using endsLine_dropWhile rest
    simpa using Trivia.comment (not_mem_takeWhile rest) (Form.head?_of_scan? hs) hend .nil

/-- A text at a place is read as tokens within a form. There `g` is left of the form, and of the
text, behind a gap, `rest`. -/
structure ReadsWithin (f : Form) (p : Position) (cs : List Char) (w : List Token) (g : Form)
    (q : Position) (gap rest : List Char) : Prop where
  reads : Reads f.opening p w cs q (gap ++ rest)
  trivia : Trivia (f.opening && w.isEmpty) rest gap
  through : f.through (w.map (·.terminal)) = some g

/-- A text is read within a form up to where no more is found. -/
structure ReadsUpTo (f : Form) (p : Position) (cs : List Char) (w : List Token) (g : Form)
    (q : Position) (gap rest : List Char) : Prop extends ReadsWithin f p cs w g q gap rest where
  scan : g.scan? rest = none
  ends : gap? rest = none

/-- A token that is found stands behind what was passed over before it. -/
theorem reads_of_scan? {t : Terminal} {before word tail : List Char}
    (hs : f.scan? (word ++ tail) = some (t, word)) (hb : Trivia f.opening (word ++ tail) before)
    (hp : p = last.after before) (h : Reads false (p.after word) w tail q rest) :
    Reads f.opening last (⟨t, String.ofList word, p, p.after word⟩ :: w) (before ++ (word ++ tail))
      q rest := by
  have hlexeme := (Form.scan?_eq_some hs).2
  have hend := endsBefore_of_lexeme? hlexeme
  rw [List.drop_left] at hend
  have htext : (String.ofList word).toList = word := String.toList_ofList
  rw [← htext] at hb
  have hreads := Reads.token (t := ⟨t, String.ofList word, p, p.after word⟩) hb hp (by rw [htext])
    (spelled_of_lexeme? hlexeme).1 hend h
  rwa [htext] at hreads

/-- The tokens of a text that is read to its end stand in it, up to blanks and comments behind
them. -/
theorem readFrom_reads (hf : f.Late) {before : List Char} (hb : Trivia f.opening cs before)
    (hp : p = last.after before) (h : readFrom f last p cs = .ok w) : ∃ q gap,
      Reads f.opening last w (before ++ cs) q gap ∧ Trivia (f.opening && w.isEmpty) [] gap := by
  fun_induction readFrom f last p cs generalizing before w with
  | case1 f last p cs t word hs token g hn =>
    rename_i ih
    obtain ⟨us, hus, rfl⟩ := exists_of_map_eq_ok h
    obtain ⟨tail, rfl, -⟩ := Form.scan?_eq_append hs
    rw [List.drop_left] at hus ih
    have hg := hf t g hn
    obtain ⟨q, gap, hread, hgap⟩ := ih (Form.late_of_plain hg) .nil rfl hus
    rw [Form.opening_of_plain hg] at hread hgap
    exact ⟨q, gap, reads_of_scan? hs hb hp hread, by simpa using hgap⟩
  | case2 | case5 => cases h
  | case3 f last p cs hs piece hg ih =>
    obtain ⟨tail, rfl, -⟩ := gap?_eq_append hg
    have hpiece := trivia_of_gap? hs hg
    rw [List.drop_left] at hpiece ih h
    have hread := ih hf (hb.append hpiece) (by rw [hp, ← Position.after_append]) h
    rwa [List.append_assoc] at hread
  | case4 f last p cs hs hg he =>
    cases h
    obtain rfl : cs = [] := List.isEmpty_iff.mp (Bool.and_eq_true_iff.mp he).1
    refine ⟨last, before, by simpa using Reads.nil, by simpa using hb⟩

/-- Reading goes as far as it can: to the end of the text, to where nothing more is found, or to
something that is found and may not come. -/
theorem readFrom_stops (hf : f.Late) {before : List Char} (hb : Trivia f.opening cs before)
    (hp : p = last.after before) : ∃ w g q gap rest,
      ReadsUpTo f last (before ++ cs) w g q gap rest ∧ readFrom f last p cs =
          (if rest.isEmpty &&
            g.complete then .ok w else .error (refusalAt g q (q.after gap) rest)) ∨
        ReadsWithin f last (before ++ cs) w g q gap rest ∧ ∃ t word, g.scan? rest = some (t, word) ∧
          g.next t = none ∧ readFrom f last p cs =
            .error ⟨[], .text word, ⟨q.after gap, some ((q.after gap).after word)⟩⟩ := by
  fun_induction readFrom f last p cs generalizing before with
  | case1 f last p cs t word hs token g hn ih =>
    obtain ⟨tail, rfl, -⟩ := Form.scan?_eq_append hs
    have hg := hf t g hn
    obtain ⟨w, k, q, gap, rest, hends⟩ := ih (Form.late_of_plain hg) .nil rfl
    rw [List.drop_left] at hends
    -- the token stands before what is read behind it
    have hmore : ReadsWithin g token.stop ([] ++ tail) w k q gap rest →
        ReadsWithin f last (before ++ (word ++ tail)) (token :: w) k q gap rest := by
      intro hread
      refine ⟨?_, ?_, ?_⟩
      · refine reads_of_scan? hs hb hp ?_
        simpa [Form.opening_of_plain hg] using hread.reads
      · simpa [Form.opening_of_plain hg] using hread.trivia
      · rw [List.map_cons, Form.through, hn]
        exact hread.through
    rw [List.drop_left]
    refine ⟨token :: w, k, q, gap, rest, ?_⟩
    rcases hends with ⟨hread, hr⟩ | ⟨hread, u, bar, hu, hbar, hr⟩
    · refine .inl ⟨⟨hmore hread.toReadsWithin, hread.scan, hread.ends⟩, ?_⟩
      rw [hr]
      split <;> rfl
    · refine .inr ⟨hmore hread, u, bar, hu, hbar, ?_⟩
      rw [hr]
      rfl
  | case2 f last p cs t word hs token hn =>
    refine ⟨[], f, last, before, cs, .inr ⟨⟨.nil, ?_, rfl⟩, t, word, hs, hn, ?_⟩⟩
    · simpa using hb
    · rw [← hp]
      rfl
  | case3 f last p cs hs piece hg ih =>
    obtain ⟨tail, rfl, -⟩ := gap?_eq_append hg
    have hpiece := trivia_of_gap? hs hg
    rw [List.drop_left] at hpiece ih ⊢
    have hread := ih hf (hb.append hpiece) (by rw [hp, ← Position.after_append])
    rwa [List.append_assoc] at hread
  | case4 f last p cs hs hg he =>
    refine ⟨[], f, last, before, cs, .inl ⟨⟨⟨.nil, ?_, rfl⟩, hs, hg⟩, by rw [if_pos he]⟩⟩
    simpa using hb
  | case5 f last p cs hs hg he =>
    refine ⟨[], f, last, before, cs, .inl ⟨⟨⟨.nil, ?_, rfl⟩, hs, hg⟩, by rw [if_neg he, hp]⟩⟩
    simpa using hb

/-- Where all that is found may come, reading goes on to the end or to where nothing is found. -/
theorem readFrom_upTo (hf : f.Late) (hu : f.Unbarred) {before : List Char}
    (hb : Trivia f.opening cs before) (hp : p = last.after before) : ∃ w g q gap rest,
      ReadsUpTo f last (before ++ cs) w g q gap rest ∧ readFrom f last p cs =
        if rest.isEmpty &&
          g.complete then .ok w else .error (refusalAt g q (q.after gap) rest) := by
  obtain ⟨w, g, q, gap, rest, hends | ⟨hread, t, word, ht, hbar, -⟩⟩ := readFrom_stops hf hb hp
  · exact ⟨w, g, q, gap, rest, hends⟩
  · obtain ⟨k, hk, -⟩ :=
      Form.next_of_admitted (Form.unbarred_through hu hread.through) (Form.scan?_eq_some ht).1
    rw [hbar] at hk
    cases hk

theorem readFrom_start (hf : f.Late) (hu : f.Unbarred) (cs : List Char) : ∃ w g q gap rest,
    ReadsUpTo f .start cs w g q gap rest ∧ readFrom f .start .start cs =
      if rest.isEmpty && g.complete then .ok w else .error (refusalAt g q (q.after gap) rest) :=
  readFrom_upTo hf hu .nil rfl

end TapeMachine
