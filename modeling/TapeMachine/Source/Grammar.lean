import TapeMachine.Source.Terminal

/-!
The notation of programs, rules and blocks of rules. A form says what may still come: its terminals
in order, with optional and repeated stretches that their first terminal announces.
-/
namespace TapeMachine

inductive Form where
  /-- Nothing more. -/
  | done
  | one (t : Terminal) (rest : Form)
  /-- Either `t` with `body` after it, or nothing. -/
  | opt (t : Terminal) (body rest : Form)
  /-- Any number of times `t` with `body` after it. -/
  | many (t : Terminal) (body rest : Form)
  /-- Nothing more, although the scanner knows `t` here. -/
  | barred (t : Terminal)
  deriving DecidableEq, Repr

namespace Form

/-- One form after the other. -/
def append : Form → Form → Form
  | done, k => k
  | one t rest, k => one t (append rest k)
  | opt t body rest, k => opt t body (append rest k)
  | many t body rest, k => many t body (append rest k)
  | barred t, _ => barred t

instance : Append Form := ⟨append⟩

/-- Terminals in a row. -/
def row (ts : List Terminal) : Form := ts.foldr one done

/-- The terminals that the scanner looks for. -/
def admitted : Form → List Terminal
  | done => []
  | one t _ => [t]
  | opt t _ rest => t :: admitted rest
  | many t _ rest => t :: admitted rest
  | barred t => [t]

/-- What may come after a terminal; none when the terminal may not come. -/
def next (c : Terminal) : Form → Option Form
  | done => none
  | one t rest => if c = t then some rest else none
  | opt t body rest => if c = t then some (body ++ rest) else next c rest
  | many t body rest => if c = t then some (body ++ many t body rest) else next c rest
  | barred _ => none

/-- Whether the text may end here. -/
def complete : Form → Bool
  | done => true
  | one _ _ => false
  | opt _ _ rest => complete rest
  | many _ _ rest => complete rest
  | barred _ => true

/-- The rows of terminals that a form stands for. -/
inductive Yields : Form → List Terminal → Prop where
  | done : Yields done []
  | one {t rest w} : Yields rest w → Yields (one t rest) (t :: w)
  | optSkip {t body rest w} : Yields rest w → Yields (opt t body rest) w
  | optTake {t body rest w} : Yields (body ++ rest) w → Yields (opt t body rest) (t :: w)
  | manySkip {t body rest w} : Yields rest w → Yields (many t body rest) w
  | manyTake {t body rest w} : Yields (body ++ many t body rest) w →
      Yields (many t body rest) (t :: w)
  | barred {t} : Yields (barred t) []

theorem yields_nil_of_complete {f : Form} (h : f.complete = true) : f.Yields [] := by
  induction f with
  | done => exact .done
  | one => simp [complete] at h
  | opt _ _ _ _ ih => exact .optSkip (ih h)
  | many _ _ _ _ ih => exact .manySkip (ih h)
  | barred => exact .barred

theorem complete_of_yields_nil {f : Form} (h : f.Yields []) : f.complete = true := by
  generalize hw : ([] : List Terminal) = w at h
  induction h with
  | done => rfl
  | one => cases hw
  | optSkip _ ih => exact ih hw
  | optTake => cases hw
  | manySkip _ ih => exact ih hw
  | manyTake => cases hw
  | barred => rfl

theorem yields_cons_of_next {f g : Form} {c : Terminal} {w : List Terminal}
    (h : f.next c = some g) (hg : g.Yields w) : f.Yields (c :: w) := by
  induction f with
  | done => simp [next] at h
  | one t rest =>
    simp only [next] at h
    split at h
    · next hc => obtain rfl := Option.some.inj h; subst hc; exact .one hg
    · simp at h
  | opt t body rest _ ih =>
    simp only [next] at h
    split at h
    · next hc => obtain rfl := Option.some.inj h; subst hc; exact .optTake hg
    · exact .optSkip (ih h)
  | many t body rest _ ih =>
    simp only [next] at h
    split at h
    · next hc => obtain rfl := Option.some.inj h; subst hc; exact .manyTake hg
    · exact .manySkip (ih h)
  | barred => simp [next] at h

end Form

open Terminal Form in
/-- State names in braces, separated by commas. -/
def nameSet (rest : Form) : Form :=
  one leftBrace (one name (many comma (one name done) (one rightBrace rest)))

open Terminal Form in
/-- What follows the parenthesis that opens a rule. -/
def ruleBody : Form :=
  row [name, comma, bit, comma, bit, comma, name, comma, name, rightParen]

open Terminal Form in
/-- Rules with a semicolon after each. -/
def blockForm : Form := many leftParen (ruleBody ++ one semicolon done) done

open Terminal Form in
/-- One rule. A semicolon after it is read as such, and refused. -/
def ruleForm : Form := one leftParen (ruleBody ++ barred semicolon)

open Terminal Form in
/-- A program: description, tape, initial state, final states, composed libraries, rules. -/
def programForm : Form :=
  opt description done <|
  one leftBrace <| many bit done <| one rightBrace <| one semicolon <|
  one initialMark <| one equals <| one leftBrace <| one name <| one rightBrace <| one semicolon <|
  one finalMark <| one equals <| nameSet <| one semicolon <|
  opt composeMark (one equals <| nameSet <| one semicolon done) blockForm

/-- What a text is read as. -/
inductive Reading where
  | program
  | rule
  | block
  deriving DecidableEq, Repr

def Reading.form : Reading → Form
  | program => programForm
  | rule => ruleForm
  | block => blockForm

end TapeMachine
