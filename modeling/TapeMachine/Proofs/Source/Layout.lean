import Mathlib.Data.List.TakeWhile
import TapeMachine.Source.Reader

/-! How a text writes a row of tokens: each as it is spelled, with blanks and comments around
them. -/
namespace TapeMachine

/-- A terminal with the text that spells it. -/
structure Lexeme where
  terminal : Terminal
  text : String
  deriving DecidableEq, Repr

def Token.lexeme (t : Token) : Lexeme := ⟨t.terminal, t.text⟩

/-- Names have at least one character, and only letters, digits and underscores. -/
def IsName (s : String) : Prop := s.toList ≠ [] ∧ ∀ c ∈ s.toList, isNameChar c = true

instance (s : String) : Decidable (IsName s) :=
  decidable_of_iff (s.toList.isEmpty = false ∧ s.toList.all isNameChar = true) (by simp [IsName])

/-- A description is a line that begins with three slashes. -/
def IsDescription (s : String) : Prop := ∃ body, s.toList = '/' :: '/' :: '/' :: body ∧ '\n' ∉ body

/-- A text goes on with the end of a line, or not at all. -/
def EndsLine (cs : List Char) : Prop := cs = [] ∨ cs.head? = some '\n'

/-- A lexeme is spelled as its terminal asks for. -/
def Lexeme.Spelled (l : Lexeme) : Prop :=
  match l.terminal with
  | .description => IsDescription l.text
  | .bit => l.text = "0" ∨ l.text = "1"
  | .name => IsName l.text
  | t => t.literal? = some l.text.toList

/-- A text writes lexemes one after the other. Around them there may be blanks, and comments of two
slashes up to the end of a line. As long as it is `opening` a line of three slashes is no
comment. -/
inductive Layout : Bool → List Lexeme → List Char → Prop
  | nil {opening : Bool} : Layout opening [] []
  | blank {opening : Bool} {c : Char} {ls : List Lexeme} {cs : List Char} :
      isGap c = true → Layout opening ls cs → Layout opening ls (c :: cs)
  | comment {opening : Bool} {body : List Char} {ls : List Lexeme} {cs : List Char} :
      '\n' ∉ body → (opening = true → body.head? ≠ some '/') → EndsLine cs →
      Layout opening ls cs → Layout opening ls ('/' :: '/' :: (body ++ cs))
  | lexeme {opening : Bool} {l : Lexeme} {ls : List Lexeme} {cs : List Char} :
      (l.terminal = .description → EndsLine cs) → Layout false ls cs →
      Layout opening (l :: ls) (l.text.toList ++ cs)

theorem Layout.blanks {opening : Bool} {ls : List Lexeme} {gap cs : List Char}
    (hgap : ∀ c ∈ gap, isGap c = true) (h : Layout opening ls cs) :
    Layout opening ls (gap ++ cs) := by
  induction gap with
  | nil => exact h
  | cons c gap ih =>
    obtain ⟨hc, hgap⟩ := List.forall_mem_cons.mp hgap
    exact .blank hc (ih hgap)

/-- Every row of lexemes has a layout with any blanks behind each of them, if only the line of a
description ends. -/
theorem layout_gaps {gap : Terminal → List Char} (hgap : ∀ t, ∀ c ∈ gap t, isGap c = true)
    (hline : (gap .description).head? = some '\n') (opening : Bool) (ls : List Lexeme) :
    Layout opening ls (ls.flatMap fun l => l.text.toList ++ gap l.terminal) := by
  induction ls generalizing opening with
  | nil => exact .nil
  | cons l ls ih =>
    rw [List.flatMap_cons, List.append_assoc]
    refine .lexeme (fun hd => .inr ?_) ((ih false).blanks (hgap l.terminal))
    rw [hd, List.head?_append, hline]
    rfl

/-- Each lexeme may be on a line of its own. -/
theorem layout_lines (opening : Bool) (ls : List Lexeme) :
    Layout opening ls (ls.flatMap fun l => l.text.toList ++ ['\n']) := by
  have hgap : ∀ _ : Terminal, ∀ c ∈ ['\n'], isGap c = true := by simp [isGap]
  exact layout_gaps hgap rfl opening ls

theorem takeWhile_append_of_all {p : Char → Bool} {as bs : List Char} (ha : ∀ c ∈ as, p c = true)
    (hb : ∀ c ∈ bs.head?, p c = false) : (as ++ bs).takeWhile p = as := by
  rw [List.takeWhile_append_of_pos ha]
  cases bs with
  | nil => simp
  | cons b bs => simp [List.takeWhile, hb b rfl]

theorem drop_takeWhile (p : Char → Bool) (cs : List Char) :
    cs.drop (cs.takeWhile p).length = cs.dropWhile p := by
  have h : cs.takeWhile p ++ cs.dropWhile p = cs := List.takeWhile_append_dropWhile
  calc cs.drop (cs.takeWhile p).length
      = (cs.takeWhile p ++ cs.dropWhile p).drop (cs.takeWhile p).length := by rw [h]
    _ = cs.dropWhile p := List.drop_left

theorem EndsLine.takeWhile {as cs : List Char} (ha : '\n' ∉ as) (hc : EndsLine cs) :
    (as ++ cs).takeWhile (· != '\n') = as := by
  apply takeWhile_append_of_all
  · intro c hm
    simp only [bne_iff_ne]
    rintro rfl
    exact ha hm
  · intro c hm
    rcases hc with rfl | hc
    · simp at hm
    · rw [hc] at hm
      obtain rfl : '\n' = c := by simpa using hm
      rfl

theorem endsLine_dropWhile (cs : List Char) : EndsLine (cs.dropWhile (· != '\n')) := by
  have h := List.head?_dropWhile_not (· != '\n') cs
  unfold EndsLine
  cases hd : cs.dropWhile (· != '\n') with
  | nil => exact .inl rfl
  | cons c rest =>
    rw [hd] at h
    exact .inr (by simpa using h)

theorem endsLine_cons {c : Char} {cs : List Char} : EndsLine (c :: cs) ↔ c = '\n' := by
  simp [EndsLine]

theorem not_mem_takeWhile (cs : List Char) : '\n' ∉ cs.takeWhile (· != '\n') := by
  intro h
  simpa using List.mem_takeWhile_imp h

/-- A blank is no part of a name, nor a slash. -/
theorem isNameChar_of_isGap {c : Char} (h : isGap c = true) : isNameChar c = false ∧ c ≠ '/' := by
  simp only [isGap, Bool.or_eq_true, beq_iff_eq] at h
  rcases h with (((rfl | rfl) | rfl) | rfl) | rfl <;> decide

namespace Terminal

/-- The characters that a lexeme of a terminal may begin with; none for names, which may begin with
every character of a name. -/
def openers? : Terminal → Option (List Char)
  | description => some ['/']
  | bit => some ['0', '1']
  | name => none
  | t => t.literal?.map (·.take 1)

def opens (t : Terminal) (c : Char) : Bool :=
  match t.openers? with
  | some openers => openers.contains c
  | none => isNameChar c

/-- No text begins with lexemes of both. -/
def apart (t u : Terminal) : Bool :=
  match t.openers?, u.openers? with
  | some openers, some others => openers.all fun c => !others.contains c
  | _, _ => false

/-- Lexemes of the terminal begin with no character of a name. -/
def isSign (t : Terminal) : Bool :=
  match t.openers? with
  | some openers => openers.all fun c => !isNameChar c
  | none => false

theorem opens_of_apart {t u : Terminal} {c : Char} (h : t.apart u = true) (hc : t.opens c = true) :
    u.opens c = false := by
  unfold apart at h
  unfold opens at hc ⊢
  cases ht : t.openers? with
  | none => simp [ht] at h
  | some openers =>
    cases hu : u.openers? with
    | none => simp [ht, hu] at h
    | some others =>
      simp only [ht, hu, List.all_eq_true, Bool.not_eq_true', List.contains_iff_mem] at h hc ⊢
      exact h c hc

theorem isNameChar_of_isSign {t : Terminal} {c : Char} (h : t.isSign = true)
    (hc : t.opens c = true) : isNameChar c = false := by
  unfold isSign at h
  unfold opens at hc
  cases ht : t.openers? with
  | none => simp [ht] at h
  | some openers =>
    simp only [ht, List.all_eq_true, Bool.not_eq_true', List.contains_iff_mem] at h hc
    exact h c hc

theorem opens_of_isGap {c : Char} (h : isGap c = true) (t : Terminal) : t.opens c = false := by
  simp only [isGap, Bool.or_eq_true, beq_iff_eq] at h
  rcases h with (((rfl | rfl) | rfl) | rfl) | rfl <;> cases t <;> rfl

theorem opens_slash {t : Terminal} (h : t ≠ description) : t.opens '/' = false := by
  cases t with
  | description => exact (h rfl).elim
  | _ => rfl

/-- Apart from the three that have many spellings, a terminal is its literal. -/
theorem lexeme?_literal {t : Terminal} {w : List Char} (h : t.literal? = some w) (cs : List Char) :
    t.lexeme? cs = if w.isPrefixOf cs then some w else none := by
  cases t <;> simp_all [literal?, lexeme?]

theorem opens_literal {t : Terminal} {c : Char} {w : List Char} (h : t.literal? = some (c :: w)) :
    t.opens c = true := by
  have ho : t.openers? = some [c] := by
    cases t <;> simp [literal?, openers?] at h ⊢ <;> exact h.1
  simp [opens, ho]

theorem exists_literal_cons {t : Terminal} {w : List Char} (h : t.literal? = some w) :
    ∃ c v, w = c :: v := by
  cases t <;> simp_all [literal?] <;> subst h <;> exact ⟨_, _, rfl⟩

end Terminal

namespace Lexeme

variable {l : Lexeme}

theorem spelled_literal {t : Terminal} {s : String} {w : List Char} (h : t.literal? = some w) :
    (⟨t, s⟩ : Lexeme).Spelled ↔ s.toList = w := by
  cases t <;> simp_all [Spelled, Terminal.literal?, eq_comm]

theorem Spelled.opens (h : l.Spelled) :
    ∃ c rest, l.text.toList = c :: rest ∧ l.terminal.opens c = true := by
  obtain ⟨t, s⟩ := l
  cases hw : t.literal? with
  | some w =>
    rw [spelled_literal hw] at h
    obtain ⟨c, v, rfl⟩ := Terminal.exists_literal_cons hw
    exact ⟨c, v, h, Terminal.opens_literal hw⟩
  | none =>
    cases t with
    | description =>
      obtain ⟨body, hb, -⟩ := h
      exact ⟨'/', _, hb, rfl⟩
    | bit => rcases h with rfl | rfl <;> exact ⟨_, _, rfl, rfl⟩
    | name =>
      obtain ⟨hne, hall⟩ := h
      obtain ⟨c, rest, hc⟩ := List.exists_cons_of_ne_nil hne
      exact ⟨c, rest, hc, hall c (by rw [hc]; exact List.mem_cons_self)⟩
    | _ => simp [Terminal.literal?] at hw

/-- What spells a lexeme is found at the beginning of a text, unless the text goes on with more of
the same name or line. -/
theorem Spelled.lexeme? (h : l.Spelled) {cs : List Char}
    (hd : l.terminal = .description → EndsLine cs)
    (hn : l.terminal = .name → ∀ c ∈ cs.head?, isNameChar c = false) :
    l.terminal.lexeme? (l.text.toList ++ cs) = some l.text.toList := by
  obtain ⟨t, s⟩ := l
  cases hw : t.literal? with
  | some w =>
    rw [spelled_literal hw] at h
    simp [Terminal.lexeme?_literal hw, h]
  | none =>
    cases t with
    | description =>
      obtain ⟨body, hb, hbody⟩ := h
      have hs : '\n' ∉ '/' :: '/' :: '/' :: body := by simpa using hbody
      simp only [hb, Terminal.lexeme?]
      rw [(hd rfl).takeWhile hs]
      simp
    | bit => rcases h with rfl | rfl <;> rfl
    | name =>
      obtain ⟨hne, hall⟩ := h
      simp only [Terminal.lexeme?]
      rw [takeWhile_append_of_all hall (hn rfl)]
      simp [hne]
    | _ => simp [Terminal.literal?] at hw

end Lexeme

namespace Terminal

/-- A lexeme that is found is spelled right, and a description is found up to the end of its
line. -/
theorem spelled_of_lexeme? {t : Terminal} {cs w : List Char} (h : t.lexeme? cs = some w) :
    (⟨t, String.ofList w⟩ : Lexeme).Spelled ∧ (t = .description → EndsLine (cs.drop w.length)) := by
  cases hw : t.literal? with
  | some v =>
    rw [lexeme?_literal hw] at h
    split at h
    · cases h
      refine ⟨(Lexeme.spelled_literal hw).mpr (by simp), ?_⟩
      rintro rfl
      cases hw
    · cases h
  | none =>
    cases t with
    | description =>
      simp only [lexeme?] at h
      split at h
      · next hpre =>
        cases h
        obtain ⟨rest, rfl⟩ := List.isPrefixOf_iff_prefix.mp hpre
        refine ⟨⟨rest.takeWhile (· != '\n'), by simp, not_mem_takeWhile rest⟩, fun _ => ?_⟩
        simpa [List.takeWhile, drop_takeWhile] using endsLine_dropWhile rest
      · cases h
    | bit =>
      simp only [lexeme?] at h
      split at h
      · next hb =>
        cases h
        refine ⟨?_, fun hd => by cases hd⟩
        cases cs with
        | nil => simp at hb
        | cons c cs =>
          simp only [List.head?_cons, Option.some.injEq, Bool.or_eq_true, decide_eq_true_eq] at hb
          rcases hb with rfl | rfl
          · exact .inl rfl
          · exact .inr rfl
      · cases h
    | name =>
      simp only [lexeme?] at h
      split at h
      · cases h
      · next hne =>
        cases h
        refine ⟨⟨by simpa using hne, fun c hc => ?_⟩, fun hd => by cases hd⟩
        rw [String.toList_ofList] at hc
        exact List.mem_takeWhile_imp hc
    | _ => simp [literal?] at hw

/-- A text begins with a character that its lexeme may begin with. -/
theorem opens_of_lexeme? {t : Terminal} {cs w : List Char} (h : t.lexeme? cs = some w) :
    ∃ c rest, cs = c :: rest ∧ t.opens c = true := by
  obtain ⟨c, v, hv, hc⟩ := (spelled_of_lexeme? h).1.opens
  obtain ⟨rest, rfl, -⟩ := lexeme?_eq_append h
  simp only [String.toList_ofList] at hv
  exact ⟨c, v ++ rest, by rw [hv]; rfl, hc⟩

end Terminal

end TapeMachine
