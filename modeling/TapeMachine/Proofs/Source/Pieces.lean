import TapeMachine.Proofs.Source.Refusal
import TapeMachine.Proofs.Text.Lines

/-! Pieces of a text: where they stand, and what they lay out whatever stands around them. -/
namespace TapeMachine

open Terminal Lexeme

namespace Position

/-- No place comes twice in a text. -/
theorem after_ne {cs : List Char} (h : cs ≠ []) (p : Position) : p.after cs ≠ p := by
  intro hp
  by_cases hline : '\n' ∈ cs
  · have hcount := List.count_pos_iff.mpr hline
    have hsame := congrArg line hp
    rw [line_after] at hsame
    omega
  · have hlength := List.length_pos_iff.mpr h
    have hsame := congrArg column hp
    rw [after_of_line hline] at hsame
    dsimp only at hsame
    omega

/-- A text that stands at `p`, cut into what is before `q` and what comes from there on. -/
def cut (p q : Position) : List Char → List Char × List Char
  | [] => ([], [])
  | c :: cs =>
    if p = q then ([], c :: cs)
    else
      let (before, behind) := (p.advance c).cut q cs
      (c :: before, behind)

theorem cut_after (p : Position) (before behind : List Char) :
    p.cut (p.after before) (before ++ behind) = (before, behind) := by
  induction before generalizing p with
  | nil => cases behind <;> simp [cut]
  | cons c before ih =>
    have hne := (after_ne (List.cons_ne_nil c before) p).symm
    rw [List.cons_append, cut, if_neg hne, after_cons, ih]

end Position

/-- A text with something else in the place of what stands in a span. -/
def Span.replaceIn (s : Span) (source : String) (piece : List Char) : String :=
  let (before, rest) := Position.start.cut s.start source.toList
  String.ofList (before ++ (piece ++ (s.start.cut (s.stop.getD s.start) rest).2))

theorem Span.replaceIn_eq {source : String} {before old behind : List Char}
    (h : source.toList = before ++ (old ++ behind)) (piece : List Char) :
    Span.replaceIn ⟨Position.start.after before, some ((Position.start.after before).after old)⟩
      source piece = String.ofList (before ++ (piece ++ behind)) := by
  rw [replaceIn, h, Position.cut_after]
  dsimp only
  rw [Option.getD_some, Position.cut_after]

variable {opening : Bool} {ls ms : List Lexeme} {l : Lexeme} {as bs cs ds : List Char} {c : Char}

/-- A piece of text lays out lexemes, whatever comes behind it. -/
def Lays (opening : Bool) (ls : List Lexeme) (as : List Char) : Prop :=
  ∀ ms cs, Layout false ms cs → Layout opening (ls ++ ms) (as ++ cs)

theorem lays_nil : Lays false [] [] := fun _ _ h => h

theorem Lays.append (h : Lays opening ls as) (g : Lays false ms bs) :
    Lays opening (ls ++ ms) (as ++ bs) := by
  intro ns cs hcs
  rw [List.append_assoc, List.append_assoc]
  exact h _ _ (g _ _ hcs)

theorem EndsLine.replace (h : EndsLine (as ++ cs)) (hcs : EndsLine cs → EndsLine ds) :
    EndsLine (as ++ ds) := by
  cases as with
  | nil => exact hcs h
  | cons a as => exact .inr (h.resolve_left (List.cons_ne_nil a _))

/-- With the end of a line behind it a text lays out what it does alone: a comment at its end goes
no further. -/
theorem Layout.line (h : Layout opening ls as) (hms : Layout (opening && ls.isEmpty) ms ds) :
    Layout opening (ls ++ ms) (as ++ '\n' :: ds) := by
  have hend : EndsLine ([] : List Char) → EndsLine ('\n' :: ds) := fun _ => .inr rfl
  induction h with
  | @nil opening =>
    rw [List.isEmpty_nil, Bool.and_true] at hms
    exact .blank rfl hms
  | blank hc _ ih => exact .blank hc (ih hms)
  | @comment opening body ls cs hb ho he _ ih =>
    rw [List.cons_append, List.cons_append, List.append_assoc]
    refine .comment hb ho ?_ (ih hms)
    rw [← List.append_nil cs] at he
    exact he.replace hend
  | @lexeme opening l ls cs hl _ ih =>
    rw [List.append_assoc, List.cons_append]
    refine .lexeme (fun hd => ?_) (ih (by simpa using hms))
    have he := hl hd
    rw [← List.append_nil cs] at he
    exact he.replace hend

theorem Layout.lays_line (h : Layout false ls as) : Lays false ls (as ++ ['\n']) := by
  intro ms cs hcs
  simpa using h.line hcs

/-- No line ends where a lexeme begins. -/
theorem Lexeme.Spelled.not_endsLine (h : l.Spelled) : ¬ EndsLine (l.text.toList ++ cs) := by
  obtain ⟨c, rest, hc, ho⟩ := h.opens
  rw [hc]
  rintro (hnil | hhead)
  · cases hnil
  · cases hhead
    rw [opens_of_isGap rfl] at ho
    cases ho

theorem Trivia.layout {gap : List Char} (h : Trivia opening cs gap)
    (hcs : EndsLine cs → EndsLine ds)
    (hl : Layout opening ls ds) : Layout opening ls (gap ++ ds) := by
  induction h with
  | nil => exact hl
  | blank hc _ ih => exact .blank hc ih
  | comment hb ho he _ ih =>
    rw [List.cons_append, List.cons_append, List.append_assoc]
    exact .comment hb ho (he.replace hcs) ih

namespace Reads

variable {p q : Position} {us vs : List Token} {gap rest : List Char}

theorem append (h : Reads opening p (us ++ vs) cs q rest) : ∃ m mid,
    Reads opening p us cs m mid ∧ Reads (opening && us.isEmpty) m vs mid q rest := by
  induction us generalizing opening p cs with
  | nil => exact ⟨p, cs, .nil, by simpa using h⟩
  | cons u us ih =>
    cases h with
    | token htrivia hstart hstop hspelled hends h =>
      obtain ⟨m, mid, hus, hvs⟩ := ih h
      exact ⟨m, mid, .token htrivia hstart hstop hspelled hends hus, by simpa using hvs⟩

/-- A text that was read up to a rest lays out the tokens before any other rest as well. -/
theorem relaid (h : Reads opening p us cs q (gap ++ rest))
    (hgap : Trivia (opening && us.isEmpty) rest gap) : ∃ body,
    cs = body ++ rest ∧ q.after gap = p.after body ∧ ∀ ms ds, (EndsLine rest → EndsLine ds) →
      Layout (opening && us.isEmpty) ms ds →
        Layout opening (us.map Token.lexeme ++ ms) (body ++ ds) := by
  generalize hbehind : gap ++ rest = behind at h
  induction h with
  | nil =>
    subst hbehind
    refine ⟨gap, rfl, rfl, fun ms ds hds hms => ?_⟩
    rw [List.isEmpty_nil, Bool.and_true] at hgap hms
    exact hgap.layout hds hms
  | @token opening p q before cs _ t ts htrivia hstart hstop hspelled hends _ ih =>
    obtain ⟨body, rfl, hplace, hlays⟩ := ih (by simpa using hgap) hbehind
    refine ⟨before ++ (t.text.toList ++ body), by simp, ?_, fun ms ds hds hms => ?_⟩
    · rw [hplace, hstop, hstart, Position.after_append, Position.after_append]
    · rw [List.append_assoc, List.append_assoc]
      refine htrivia.layout (fun he => (hspelled.not_endsLine he).elim) ?_
      refine .lexeme (fun hd => ?_) (hlays ms ds hds (by simpa using hms))
      have hend : t.terminal.EndsBefore (body ++ rest) := hends
      have hd : t.terminal = description := hd
      rw [hd] at hend
      exact EndsLine.replace hend hds

/-- Tokens in the middle of a text stand there as a piece between what is read as the other
tokens. -/
theorem middle {ws : List Token} {v : Token}
    (h : Reads opening p (us ++ (v :: vs ++ ws)) cs q rest) :
    ∃ before old behind n, cs = before ++ (v.text.toList ++ old ++ behind) ∧
      v.start = p.after before ∧
      ((v :: vs).getLast (List.cons_ne_nil v vs)).stop =
        (p.after before).after (v.text.toList ++ old) ∧
      Reads false n ws behind q rest ∧ ∀ ms ds, Layout (opening && us.isEmpty) ms ds →
        Layout opening (us.map Token.lexeme ++ ms) (before ++ ds) := by
  obtain ⟨m, mid, hus, h⟩ := h.append
  obtain ⟨n, behind, hvs, hws⟩ := h.append
  rw [List.isEmpty_cons, Bool.and_false] at hws
  have hn := hvs.position
  rw [List.getLast?_eq_some_getLast (List.cons_ne_nil v vs)] at hn
  cases hvs with
  | token htrivia hstart hstop hspelled _ hvs =>
    obtain ⟨before, rfl, hbefore, hlays⟩ := hus.relaid htrivia
    have hvs : Reads false v.stop vs _ n ([] ++ behind) := hvs
    obtain ⟨old, rfl, hold, -⟩ := hvs.relaid .nil
    refine ⟨before, old, behind, n, by simp, hstart.trans hbefore, ?_, hws, fun ms ds => ?_⟩
    · rw [Position.after_append, ← hbefore, ← hstart, ← hstop, ← hold]
      exact hn.symm
    · exact hlays ms ds fun he => (hspelled.not_endsLine he).elim

/-- Whatever is put in the place of tokens in the middle of a text is laid out between the
others. -/
theorem replace {ws : List Token} {u v : Token}
    (h : Reads opening p (u :: us ++ (v :: vs ++ ws)) cs q gap)
    (hgap : Trivia false [] gap) : ∃ before old behind, cs = before ++ (old ++ behind) ∧
      v.start = p.after before ∧
      ((v :: vs).getLast (List.cons_ne_nil v vs)).stop = (p.after before).after old ∧
      ∀ ls piece, Lays false ls piece → Layout opening
        ((u :: us).map Token.lexeme ++ (ls ++ ws.map Token.lexeme))
        (before ++ (piece ++ behind)) := by
  obtain ⟨before, old, behind, n, hcs, hstart, hstop, hws, hlays⟩ := h.middle
  have hws : Reads false n ws behind q (gap ++ []) := by simpa using hws
  obtain ⟨body, rfl, -, hbody⟩ := hws.relaid (by simpa using hgap)
  refine ⟨before, _, body ++ [], hcs, hstart, hstop, fun ls piece hpiece => hlays _ _ ?_⟩
  rw [List.isEmpty_cons, Bool.and_false]
  exact hpiece _ _ (by simpa using hbody [] [] id .nil)

end Reads

end TapeMachine
