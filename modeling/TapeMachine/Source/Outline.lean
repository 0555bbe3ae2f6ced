import TapeMachine.Rule
import TapeMachine.Source.Reader

/-!
The records of a text. A description is one token; every other record runs up to a semicolon, which
belongs to it unless it is a rule. The first token of a record tells its kind.
-/
namespace TapeMachine

inductive RecordKind where
  | description
  | tape
  | initialState
  | finalStates
  | compose
  | rule
  deriving DecidableEq, Repr

namespace RecordKind

def all : List RecordKind := [description, tape, initialState, finalStates, compose, rule]

def name : RecordKind → String
  | description => "description"
  | tape => "tape"
  | initialState => "initial_state"
  | finalStates => "final_state"
  | compose => "compose"
  | rule => "instruction"

/-- The kind of record that a terminal opens. -/
def openedBy? : Terminal → Option RecordKind
  | .description => some description
  | .leftBrace => some tape
  | .initialMark => some initialState
  | .finalMark => some finalStates
  | .composeMark => some compose
  | .leftParen => some rule
  | _ => none

end RecordKind

/-- Terminals whose tokens are part of the outline; the others only mark it off. -/
def Terminal.isKept : Terminal → Bool
  | .description | .leftBrace | .rightBrace | .bit | .name => true
  | _ => false

structure Record where
  kind : RecordKind
  first : Token
  others : List Token
  deriving DecidableEq, Repr

namespace Record

variable (r : Record)

def tokens : List Token := r.first :: r.others

def kept : List Token := r.tokens.filter (·.terminal.isKept)

/-- From the first token to the last. -/
def span : Span := ⟨r.first.start, some (r.tokens.getLast (by simp [tokens])).stop⟩

def names : List Token := r.tokens.filter (·.terminal == .name)

/-- The bits of a record, as symbols. -/
def bits : List Bool := (r.tokens.filter (·.terminal == .bit)).map (·.text == "1")

/-- The rule that a record states: two bits between a name and two more. -/
def rule? : Option (Rule Bool) :=
  match r.names, r.bits with
  | [source, move, target], [read, write] =>
    some ⟨source.text, read, write, .ofWord move.text, target.text⟩
  | _, _ => none

end Record

/-- A token that ends a group of tokens. -/
def Token.closes (t : Token) : Bool := t.terminal == .semicolon || t.terminal == .description

/-- Cuts tokens into groups, each up to a token that closes it. -/
def groups : List Token → List (List Token)
  | [] => []
  | t :: ts =>
    if t.closes then [t] :: groups ts
    else match groups ts with
      | [] => [[t]]
      | g :: gs => (t :: g) :: gs

/-- A group as a record; a rule leaves out the semicolon. -/
def Record.ofGroup? : List Token → Option Record
  | [] => none
  | t :: ts => (RecordKind.openedBy? t.terminal).map fun kind =>
      ⟨kind, t, if kind = .rule then ts.filter (·.terminal != .semicolon) else ts⟩

/-- The records of a text with the span of its tokens. -/
structure Outline where
  reading : Reading
  span : Option Span
  records : List Record
  deriving DecidableEq, Repr

namespace Outline

def ofTokens (reading : Reading) (ts : List Token) : Outline :=
  { reading := reading
    span := match ts.head?, ts.getLast? with
      | some a, some b => some ⟨a.start, some b.stop⟩
      | _, _ => none
    records := (groups ts).filterMap Record.ofGroup? }

/-- The records in their places; in a program the two optional ones have places of their own. -/
def places (o : Outline) : List (Option Record) :=
  let ofKind := fun kind => o.records.filter (·.kind == kind)
  let required := fun kind => (ofKind kind).map some
  match o.reading with
  | .program =>
    [(ofKind .description).head?] ++ required .tape ++ required .initialState ++
      required .finalStates ++ [(ofKind .compose).head?] ++ required .rule
  | .rule | .block => o.records.map some

end Outline

end TapeMachine
