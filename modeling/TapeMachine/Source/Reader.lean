import TapeMachine.Source.Grammar
import TapeMachine.Source.Position

/-!
Reading a text as a row of tokens. At each place only the terminals that may come are looked for,
so the marks of the notation serve as names wherever a name is wanted.
-/
namespace TapeMachine

/-- A terminal as it stands in a text; `stop` is the place just after it. -/
structure Token where
  terminal : Terminal
  text : String
  start : Position
  stop : Position
  deriving DecidableEq, Repr

def Token.span (t : Token) : Span := ⟨t.start, some t.stop⟩

/-- What stands at a place where it may not. -/
inductive Found where
  | text (cs : List Char)
  | endOfInput
  deriving DecidableEq, Repr

/-- Why and where a text was refused; where it has to end nothing is expected. -/
structure Refusal where
  expected : List Terminal
  found : Found
  span : Span
  deriving DecidableEq, Repr

namespace Form

/-- The terminal that a text begins with, among those the form admits, and its lexeme. -/
def scan? (f : Form) (cs : List Char) : Option (Terminal × List Char) :=
  f.admitted.findSome? fun t => (t.lexeme? cs).map fun word => (t, word)

theorem scan?_eq_append {f : Form} {cs word : List Char} {t : Terminal}
    (h : f.scan? cs = some (t, word)) : ∃ rest, cs = word ++ rest ∧ word ≠ [] := by
  obtain ⟨u, _, hu⟩ := List.exists_of_findSome?_eq_some h
  obtain ⟨w, hw, he⟩ := Option.map_eq_some_iff.mp hu
  simp only [Prod.mk.injEq] at he
  exact Terminal.lexeme?_eq_append (he.2 ▸ hw)

end Form

/-- Characters that are a token of their own. -/
def isMark (c : Char) : Bool := ['{', '}', '(', ')', ';', ',', '='].contains c

/-- What a refused text begins with: a word or a mark as a whole, or else one character. -/
def foundAt (cs : List Char) (p : Position) : Found × Span :=
  match cs with
  | [] => (.endOfInput, ⟨p, none⟩)
  | c :: _ =>
    let word := cs.takeWhile isNameChar
    if !word.isEmpty then (.text word, ⟨p, some (p.after word)⟩)
    else if isMark c then (.text [c], ⟨p, some (p.advance c)⟩)
    else (.text [c], ⟨p, none⟩)

/-- The refusal of a text that goes on with none of the admitted terminals; a text that ends too
early is refused just past its last token. -/
def refusalAt (f : Form) (last p : Position) (cs : List Char) : Refusal :=
  let (found, span) := foundAt cs (if cs.isEmpty then last else p)
  ⟨f.admitted, found, span⟩

/-- Reads `cs`, which stands at `p` after a token that ends at `last`, as the rest of a form. -/
def readFrom (f : Form) (last p : Position) (cs : List Char) : Except Refusal (List Token) :=
  match _h : f.scan? cs with
  | some (t, word) =>
    let token : Token := ⟨t, String.ofList word, p, p.after word⟩
    match f.next t with
    | some g => (readFrom g token.stop token.stop (cs.drop word.length)).map (token :: ·)
    | none => .error ⟨[], .text word, token.span⟩
  | none =>
    match _g : gap? cs with
    | some gap => readFrom f last (p.after gap) (cs.drop gap.length)
    | none => if cs.isEmpty && f.complete then .ok [] else .error (refusalAt f last p cs)
termination_by cs.length
decreasing_by
  · obtain ⟨rest, rfl, hne⟩ := Form.scan?_eq_append _h
    have := List.length_pos_iff.mpr hne
    simp only [List.drop_left, List.length_append]
    omega
  · obtain ⟨rest, rfl, hne⟩ := gap?_eq_append _g
    have := List.length_pos_iff.mpr hne
    simp only [List.drop_left, List.length_append]
    omega

/-- The tokens of a text, read from its first character. -/
def Reading.tokens (r : Reading) (cs : List Char) : Except Refusal (List Token) :=
  readFrom r.form .start .start cs

end TapeMachine
