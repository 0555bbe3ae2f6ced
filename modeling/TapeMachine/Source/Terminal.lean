/-! Terminals of the program notation, and how each is spelled. -/
namespace TapeMachine

inductive Terminal where
  | description
  | leftBrace
  | rightBrace
  | leftParen
  | rightParen
  | comma
  | semicolon
  | equals
  | initialMark
  | finalMark
  | composeMark
  | bit
  | name
  deriving DecidableEq, Repr

/-- Letters, digits and underscores of ASCII. -/
def isNameChar (c : Char) : Bool := c.isAlphanum || c == '_'

namespace Terminal

/-- The one spelling of a terminal that has just one. -/
def literal? : Terminal → Option (List Char)
  | leftBrace => some ['{']
  | rightBrace => some ['}']
  | leftParen => some ['(']
  | rightParen => some [')']
  | comma => some [',']
  | semicolon => some [';']
  | equals => some ['=']
  | initialMark => some ['I']
  | finalMark => some ['F']
  | composeMark => some ['c', 'o', 'm', 'p', 'o', 's', 'e']
  | description | bit | name => none

/-- The lexeme of a terminal that a text begins with, as long as it can be. -/
def lexeme? (t : Terminal) (cs : List Char) : Option (List Char) :=
  match t with
  | description =>
    if ['/', '/', '/'].isPrefixOf cs then some (cs.takeWhile (· != '\n')) else none
  | bit => if cs.head? = some '0' || cs.head? = some '1' then some (cs.take 1) else none
  | name =>
    let word := cs.takeWhile isNameChar
    if word.isEmpty then none else some word
  | t =>
    match t.literal? with
    | some word => if word.isPrefixOf cs then some word else none
    | none => none

/-- What a terminal is called in messages. -/
def readable : Terminal → String
  | description => "a description (///)"
  | leftBrace => "'\x7b'"
  | rightBrace => "'\x7d'"
  | leftParen => "'('"
  | rightParen => "')'"
  | comma => "','"
  | semicolon => "';'"
  | equals => "'='"
  | initialMark => "'I'"
  | finalMark => "'F'"
  | composeMark => "'compose'"
  | bit => "a tape value (0 or 1)"
  | name => "an identifier"

theorem lexeme?_eq_append {t : Terminal} {cs word : List Char} (h : t.lexeme? cs = some word) :
    ∃ rest, cs = word ++ rest ∧ word ≠ [] := by
  have hp : ∀ w : List Char, w ≠ [] → w.isPrefixOf cs = true → w = word →
      ∃ rest, cs = word ++ rest ∧ word ≠ [] := by
    rintro w hw hpre rfl
    obtain ⟨rest, hr⟩ := List.isPrefixOf_iff_prefix.mp hpre
    exact ⟨rest, hr.symm, hw⟩
  cases t <;> simp only [lexeme?, literal?] at h
  case description =>
    split at h
    · next hpre =>
      obtain rfl := Option.some.inj h
      refine ⟨cs.dropWhile (· != '\n'), List.takeWhile_append_dropWhile.symm, ?_⟩
      cases cs with
      | nil => simp at hpre
      | cons c cs =>
        simp only [List.isPrefixOf, Bool.and_eq_true, beq_iff_eq] at hpre
        simp [← hpre.1, List.takeWhile]
    · simp at h
  case bit =>
    cases cs with
    | nil => simp at h
    | cons c cs => grind
  case name =>
    split at h
    · simp at h
    · next hne =>
      obtain rfl := Option.some.inj h
      exact ⟨cs.dropWhile isNameChar, List.takeWhile_append_dropWhile.symm, by simpa using hne⟩
  all_goals
    split at h
    · next hpre => exact hp _ (by simp) hpre (Option.some.inj h)
    · simp at h

end Terminal

/-- The blank characters of the notation. -/
def isGap (c : Char) : Bool := c == ' ' || c == '\t' || c == '\x0c' || c == '\r' || c == '\n'

/-- The gap that a text begins with: one blank, or a comment up to the end of its line. -/
def gap? (cs : List Char) : Option (List Char) :=
  if ['/', '/'].isPrefixOf cs then some (cs.takeWhile (· != '\n'))
  else match cs with
    | c :: _ => if isGap c then some [c] else none
    | [] => none

theorem gap?_eq_append {cs gap : List Char} (h : gap? cs = some gap) :
    ∃ rest, cs = gap ++ rest ∧ gap ≠ [] := by
  cases cs with
  | nil => simp [gap?] at h
  | cons c cs =>
    simp only [gap?] at h
    split at h
    · next hpre =>
      obtain rfl := Option.some.inj h
      refine ⟨(c :: cs).dropWhile (· != '\n'), List.takeWhile_append_dropWhile.symm, ?_⟩
      simp only [List.isPrefixOf, Bool.and_eq_true, beq_iff_eq] at hpre
      simp [← hpre.1, List.takeWhile]
    · split at h
      · obtain rfl := Option.some.inj h
        exact ⟨cs, rfl, by simp⟩
      · simp at h

end TapeMachine
