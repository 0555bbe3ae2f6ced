import TapeMachine.Proofs.Source.Pieces
import TapeMachine.Proofs.Text.LineEnds

/-!
How the lines of a program end does not matter: with carriage returns before its line feeds a text
is read as the same tokens at the same places, but for a return at the end of its description.
-/
namespace TapeMachine

open Terminal Text

variable {f g : Form} {last p : Position} {cs rest word : List Char} {t : Terminal}

theorem takeWhile_returned {q : Char → Bool} (hfeed : q '\n' = false) (hreturn : q '\r' = false)
    (cs : List Char) : (returned cs).takeWhile q = cs.takeWhile q := by
  induction cs with
  | nil => rfl
  | cons c cs ih =>
    by_cases hc : c = '\n'
    · subst hc
      simp [returned_feed, hfeed, hreturn]
    · rw [returned_cons hc, List.takeWhile_cons, List.takeWhile_cons, ih]

theorem isPrefixOf_returned (hfeed : '\n' ∉ word) (hreturn : '\r' ∉ word) (cs : List Char) :
    word.isPrefixOf (returned cs) = word.isPrefixOf cs := by
  induction word generalizing cs with
  | nil => simp
  | cons c word ih =>
    rw [List.mem_cons, not_or] at hfeed hreturn
    cases cs with
    | nil => rfl
    | cons d cs =>
      by_cases hd : d = '\n'
      · subst hd
        have hchars : (c == '\r') = false ∧ (c == '\n') = false :=
          ⟨beq_eq_false_iff_ne.mpr (Ne.symm hreturn.1), beq_eq_false_iff_ne.mpr (Ne.symm hfeed.1)⟩
        rw [returned_feed, List.isPrefixOf, List.isPrefixOf, hchars.1, hchars.2, Bool.false_and,
          Bool.false_and]
      · rw [returned_cons hd, List.isPrefixOf, List.isPrefixOf, ih hfeed.2 hreturn.2]

/-- Apart from descriptions, both texts begin with the same lexemes. -/
theorem lexeme?_returned (ht : t ≠ description) (cs : List Char) :
    t.lexeme? (returned cs) = t.lexeme? cs := by
  cases hw : t.literal? with
  | some w =>
    have hword : '\n' ∉ w ∧ '\r' ∉ w := by
      cases t <;> cases hw <;> decide
    rw [lexeme?_literal hw, lexeme?_literal hw, isPrefixOf_returned hword.1 hword.2]
  | none =>
    cases t with
    | description => exact (ht rfl).elim
    | bit =>
      cases cs with
      | nil => rfl
      | cons c cs =>
        by_cases hc : c = '\n'
        · subst hc
          rfl
        · rw [returned_cons hc]
          rfl
    | name => simp only [lexeme?, takeWhile_returned (q := isNameChar) rfl rfl]
    | _ => cases hw

theorem scan?_returned_eq_none (h : f.scan? cs = none) : f.scan? (returned cs) = none := by
  rw [Form.scan?_eq_none_iff] at h ⊢
  intro t ht
  have hnone := h t ht
  by_cases hd : t = description
  · subst hd
    simp only [lexeme?] at hnone ⊢
    rw [isPrefixOf_returned (by decide) (by decide)]
    split at hnone
    · cases hnone
    · next hpre => rw [if_neg hpre]
  · rwa [lexeme?_returned hd]

theorem gap?_returned_eq_none (h : gap? cs = none) : gap? (returned cs) = none := by
  cases cs with
  | nil => rfl
  | cons c cs =>
    have hc : c ≠ '\n' := by
      rintro rfl
      cases h
    have hpre : ['/', '/'].isPrefixOf (returned (c :: cs)) = ['/', '/'].isPrefixOf (c :: cs) :=
      isPrefixOf_returned (by decide) (by decide) (c :: cs)
    rw [returned_cons hc] at hpre ⊢
    unfold gap? at h ⊢
    rw [hpre]
    split at h
    · cases h
    · next hslashes =>
      rw [if_neg hslashes]
      exact h

/-- Nothing more is read where neither a token nor a gap is found. -/
theorem readFrom_end (hs : f.scan? cs = none) (hg : gap? cs = none) : readFrom f last p cs =
    if cs.isEmpty && f.complete then .ok [] else .error (refusalAt f last p cs) := by
  rw [readFrom]
  split
  · next hs' =>
    rw [hs] at hs'
    cases hs'
  · split
    · next hg' =>
      rw [hg] at hg'
      cases hg'
    · rfl

theorem refusalAt_returned (hg : gap? cs = none) :
    refusalAt f last p (returned cs) = refusalAt f last p cs := by
  cases cs with
  | nil => rfl
  | cons c cs =>
    have hc : c ≠ '\n' := by
      rintro rfl
      cases hg
    have hword := takeWhile_returned (q := isNameChar) rfl rfl (c :: cs)
    rw [returned_cons hc] at hword ⊢
    simp only [refusalAt, foundAt, hword, List.isEmpty_cons]

/-- A carriage return is passed over. -/
theorem readFrom_return (f : Form) (last p : Position) (cs : List Char) :
    readFrom f last p ('\r' :: cs) = readFrom f last (p.advance '\r') cs :=
  readFrom_gap (Form.scan?_blank rfl cs) (gap?_blank rfl cs)

theorem readFrom_feed (f : Form) (last p : Position) (cs : List Char) :
    readFrom f last p ('\n' :: cs) = readFrom f last (p.advance '\n') cs :=
  readFrom_gap (Form.scan?_blank rfl cs) (gap?_blank rfl cs)

theorem readFrom_comment {body : List Char} (hs : f.scan? ('/' :: '/' :: (body ++ cs)) = none)
    (hbody : '\n' ∉ body) (hcs : EndsLine cs) : readFrom f last p ('/' :: '/' :: (body ++ cs)) =
      readFrom f last (p.after ('/' :: '/' :: body)) cs := by
  rw [readFrom_gap hs (gap?_comment hbody hcs)]
  simp

theorem gap_cases {gap : List Char} (h : gap? (gap ++ rest) = some gap) :
    (∃ c, isGap c = true ∧ gap = [c]) ∨
      ∃ body, gap = '/' :: '/' :: body ∧ '\n' ∉ body ∧ EndsLine rest := by
  rcases gap?_cases h with ⟨c, tail, -, hc, rfl⟩ | ⟨tail, htext, hgap⟩
  · exact .inl ⟨c, hc, rfl⟩
  · have hrest := congrArg (List.drop gap.length) htext
    rw [List.drop_left, hgap] at hrest
    have hrest : rest = tail.dropWhile (· != '\n') := by simpa [drop_takeWhile] using hrest
    exact .inr ⟨_, hgap, not_mem_takeWhile tail, hrest ▸ endsLine_dropWhile tail⟩

/-- A gap is one in both texts; a comment goes on up to the line feed, so it takes in the carriage
return before it. -/
theorem readFrom_gap_returned {gap : List Char} (hg : gap? (gap ++ rest) = some gap)
    (hs : f.scan? (returned (gap ++ rest)) = none) :
    readFrom f last p (returned (gap ++ rest)) = readFrom f last (p.after gap) (returned rest) := by
  rcases gap_cases hg with ⟨c, hc, rfl⟩ | ⟨body, rfl, hbody, hend⟩
  · by_cases hfeed : c = '\n'
    · subst hfeed
      rw [List.singleton_append, returned_feed, readFrom_return, readFrom_feed]
      rfl
    · rw [List.singleton_append, returned_cons hfeed]
      exact readFrom_gap (Form.scan?_blank hc _) (gap?_blank hc _)
  · have hline : '\n' ∉ '/' :: '/' :: body := by simpa using hbody
    rw [returned_append, returned_of_line hline] at hs ⊢
    rcases hend with rfl | hhead
    · exact readFrom_comment hs hbody (.inl rfl)
    · cases rest with
      | nil => cases hhead
      | cons c tail =>
        cases hhead
        have hret : ('/' :: '/' :: body) ++ '\r' :: '\n' :: returned tail =
            '/' :: '/' :: ((body ++ ['\r']) ++ '\n' :: returned tail) := by simp
        have hbody' : '\n' ∉ body ++ ['\r'] := by simpa using hbody
        rw [returned_feed, hret] at hs ⊢
        rw [readFrom_comment hs hbody' (.inr rfl), readFrom_return, ← List.cons_append,
          ← List.cons_append, Position.after_append]
        rfl

theorem Lexeme.Spelled.not_mem_feed {l : Lexeme} (h : l.Spelled) : '\n' ∉ l.text.toList := by
  obtain ⟨t, s⟩ := l
  cases hw : t.literal? with
  | some w =>
    rw [Lexeme.spelled_literal hw] at h
    rw [h]
    cases t <;> cases hw <;> decide
  | none =>
    cases t with
    | description =>
      obtain ⟨body, hb, hbody⟩ := h
      rw [hb]
      simpa using hbody
    | bit => rcases h with rfl | rfl <;> decide
    | name =>
      intro hmem
      cases h.2 _ hmem
    | _ => cases hw

theorem readFrom_token_returned (hc : f.Clear []) (ht : t ≠ description)
    (hs : f.scan? (word ++ rest) = some (t, word)) (hn : f.next t = some g) :
    readFrom f last p (returned (word ++ rest)) =
      (readFrom g (p.after word) (p.after word) (returned rest)).map
        (⟨t, String.ofList word, p, p.after word⟩ :: ·) := by
  obtain ⟨hadmitted, hword⟩ := Form.scan?_eq_some hs
  have hline : '\n' ∉ word := by simpa using (spelled_of_lexeme? hword).1.not_mem_feed
  have hreturned : returned (word ++ rest) = word ++ returned rest := by
    rw [returned_append, returned_of_line hline]
  have hscan : f.scan? (word ++ returned rest) = some (t, word) := by
    refine Form.scan?_of_lexeme? hc hadmitted ?_
    rw [← hreturned, lexeme?_returned ht, hword]
  rw [hreturned, readFrom_scan hscan hn, List.drop_left]

/-- Where no description may come both texts are read as the same tokens at the same places. -/
theorem readFrom_returned (hf : f.Plain) (hu : f.Unbarred) (hc : f.Clear []) (last p : Position)
    (cs : List Char) : readFrom f last p (returned cs) = readFrom f last p cs := by
  fun_induction readFrom f last p cs with
  | case1 f last p cs t word hs token g hn ih =>
    obtain ⟨rest, rfl, -⟩ := Form.scan?_eq_append hs
    have ht : t ≠ description := by
      rintro rfl
      have hopening := Form.opening_of_plain hf
      simp only [Form.opening, List.contains_eq_mem, decide_eq_false_iff_not] at hopening
      exact hopening (Form.scan?_eq_some hs).1
    rw [List.drop_left] at ih ⊢
    rw [readFrom_token_returned hc ht hs hn]
    exact congrArg _
      (ih (Form.late_of_plain hf _ _ hn) (Form.unbarred_next hu hn) (Form.clear_next hc hn))
  | case2 f last p cs t word hs token hn =>
    obtain ⟨g, hg, -⟩ := Form.next_of_admitted hu (Form.scan?_eq_some hs).1
    rw [hg] at hn
    cases hn
  | case3 f last p cs hs gap hg ih =>
    obtain ⟨rest, rfl, -⟩ := gap?_eq_append hg
    rw [readFrom_gap_returned hg (scan?_returned_eq_none hs)]
    simpa using ih hf hu hc
  | case4 f last p cs hs hg h | case5 f last p cs hs hg h =>
    rw [readFrom_end (scan?_returned_eq_none hs) (gap?_returned_eq_none hg), refusalAt_returned hg,
      isEmpty_returned]
    simp [h]

/-- Nothing is said of the place of the last token, if more than blanks and comments comes. -/
theorem readFrom_last {last' : Position} (hf : f.Plain) (hu : f.Unbarred)
    (hcs : ¬ Trivia false [] cs) :
    readFrom f last p cs = readFrom f last' p cs := by
  fun_induction readFrom f last p cs with
  | case1 f last p cs t word hs token g hn ih => rw [readFrom_scan hs hn]
  | case2 f last p cs t word hs token hn =>
    obtain ⟨g, hg, -⟩ := Form.next_of_admitted hu (Form.scan?_eq_some hs).1
    rw [hg] at hn
    cases hn
  | case3 f last p cs hs gap hg ih =>
    rw [readFrom_gap hs hg]
    have htrivia := trivia_of_gap? hs hg
    rw [Form.opening_of_plain hf] at htrivia
    refine ih hf hu fun hrest => hcs ?_
    obtain ⟨rest, rfl, -⟩ := gap?_eq_append hg
    rw [List.drop_left] at htrivia hrest
    exact Trivia.append (by simpa using htrivia) hrest
  | case4 f last p cs hs hg h | case5 f last p cs hs hg h =>
    have hne : cs ≠ [] := by
      rintro rfl
      exact hcs .nil
    rw [readFrom_end hs hg]
    simp [h, refusalAt, hne]

/-- A description with the carriage return at the end of its line. -/
def Token.returned (t : Token) : Token :=
  { t with text := t.text ++ "\r", stop := t.stop.advance '\r' }

/-- Two readings come out the same, but for the carriage return of the description they begin
with. -/
inductive ReadAlike : Except Refusal (List Token) → Except Refusal (List Token) → Prop
  | same (r : Except Refusal (List Token)) : ReadAlike r r
  | description {d : Token} (r : Except Refusal (List Token)) : d.terminal = description →
      ReadAlike (r.map (d :: ·)) (r.map (d.returned :: ·))

theorem readFrom_description_returned (hg : g.Plain) (hu : g.Unbarred) (hc : f.Clear [])
    (hs : f.scan? (word ++ '\n' :: rest) = some (description, word))
    (hn : f.next description = some g) (hrest : ¬ Trivia false [] rest) :
    ReadAlike (readFrom f last p (word ++ '\n' :: rest))
      (readFrom f last p (Text.returned (word ++ '\n' :: rest))) := by
  obtain ⟨hadmitted, hword⟩ := Form.scan?_eq_some hs
  obtain ⟨body, hbody, hfeed⟩ : IsDescription (String.ofList word) := (spelled_of_lexeme? hword).1
  have hline : '\n' ∉ word := by simpa using (spelled_of_lexeme? hword).1.not_mem_feed
  have hret : Text.returned (word ++ '\n' :: rest) =
      (word ++ ['\r']) ++ '\n' :: Text.returned rest := by
    rw [returned_append, returned_of_line hline, returned_feed, List.append_assoc]
    rfl
  have hscan : f.scan? ((word ++ ['\r']) ++ '\n' :: Text.returned rest) =
      some (description, word ++ ['\r']) := by
    have hspelled : (⟨description, String.ofList (word ++ ['\r'])⟩ : Lexeme).Spelled := by
      refine ⟨body ++ ['\r'], ?_, by simpa using hfeed⟩
      rw [String.toList_ofList] at hbody ⊢
      rw [hbody]
      rfl
    have hends : EndsLine ('\n' :: Text.returned rest) := .inr rfl
    have hlexeme := hspelled.lexeme? (fun _ => hends) nofun
    rw [String.toList_ofList] at hlexeme
    exact Form.scan?_of_lexeme? hc hadmitted hlexeme
  have htail : readFrom g (p.after (word ++ ['\r'])) (p.after (word ++ ['\r']))
      ('\n' :: Text.returned rest) = readFrom g (p.after word) (p.after word) ('\n' :: rest) :=
    calc
      readFrom g (p.after (word ++ ['\r'])) (p.after (word ++ ['\r'])) ('\n' :: Text.returned rest)
      _ = readFrom g (p.after (word ++ ['\r'])) ((p.after word).advance '\n')
          (Text.returned rest) := by
        rw [readFrom_feed, Position.after_append]
        rfl
      _ = readFrom g (p.after (word ++ ['\r'])) ((p.after word).advance '\n') rest :=
        readFrom_returned hg hu (Form.clear_next hc hn) _ _ _
      _ = readFrom g (p.after word) ((p.after word).advance '\n') rest := readFrom_last hg hu hrest
      _ = readFrom g (p.after word) (p.after word) ('\n' :: rest) := (readFrom_feed _ _ _ _).symm
  rw [hret, readFrom_scan hscan hn, readFrom_scan hs hn, List.drop_left, List.drop_left, htail,
    Position.after_append, String.ofList_append]
  exact .description (d := ⟨description, String.ofList word, p, p.after word⟩) _ rfl

/-- Where a description may come, both texts are read as the same tokens but for its carriage
return, unless a description is all there is. -/
theorem readFrom_opening_returned (hf : f.Late) (hu : f.Unbarred) (hc : f.Clear [])
    (last p : Position)
    (cs : List Char) (hcs : ∀ d : DescriptionLine, ¬ Layout f.opening [.ofLine d] cs) :
    ReadAlike (readFrom f last p cs) (readFrom f last p (Text.returned cs)) := by
  fun_induction readFrom f last p cs with
  | case1 f last p cs t word hs token g hn ih =>
    obtain ⟨rest, rfl, -⟩ := Form.scan?_eq_append hs
    have hu' := Form.unbarred_next hu hn
    rw [List.drop_left]
    by_cases ht : t = description
    · subst ht
      obtain ⟨hspelled, hends⟩ := spelled_of_lexeme? (Form.scan?_eq_some hs).2
      have hends := hends rfl
      rw [List.drop_left] at hends
      let line : DescriptionLine := ⟨String.ofList word, hspelled⟩
      have hword : (Lexeme.ofLine line).text.toList = word := String.toList_ofList
      have hrest : ¬ Layout false [] rest := by
        intro hrest
        have hlayout : Layout f.opening [.ofLine line] ((Lexeme.ofLine line).text.toList ++ rest) :=
          .lexeme (fun _ => hends) hrest
        rw [hword] at hlayout
        exact hcs line hlayout
      rcases hends with rfl | hhead
      · exact (hrest .nil).elim
      · cases rest with
        | nil => cases hhead
        | cons c rest =>
          cases hhead
          have hmore : ¬ Trivia false [] rest := by
            intro htrivia
            have hlayout : Layout false [] (rest ++ []) := htrivia.layout id .nil
            rw [List.append_nil] at hlayout
            exact hrest (.blank rfl hlayout)
          have halike : ReadAlike (readFrom f last p (word ++ '\n' :: rest)) _ :=
            readFrom_description_returned (hf _ _ hn) hu' hc hs hn hmore
          rw [readFrom_scan hs hn, List.drop_left] at halike
          exact halike
    · rw [readFrom_token_returned hc ht hs hn,
        readFrom_returned (hf _ _ hn) hu' (Form.clear_next hc hn)]
      exact .same _
  | case2 f last p cs t word hs token hn =>
    obtain ⟨g, hg, -⟩ := Form.next_of_admitted hu (Form.scan?_eq_some hs).1
    rw [hg] at hn
    cases hn
  | case3 f last p cs hs gap hg ih =>
    have htrivia := trivia_of_gap? hs hg
    obtain ⟨rest, rfl, -⟩ := gap?_eq_append hg
    rw [readFrom_gap_returned hg (scan?_returned_eq_none hs)]
    rw [List.drop_left] at ih htrivia ⊢
    exact ih hf hu hc fun d hd => hcs d (htrivia.layout id hd)
  | case4 f last p cs hs hg h | case5 f last p cs hs hg h =>
    rw [readFrom_end (scan?_returned_eq_none hs) (gap?_returned_eq_none hg), refusalAt_returned hg,
      isEmpty_returned]
    simp [h, ReadAlike.same]

end TapeMachine
