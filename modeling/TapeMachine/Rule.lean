/-! Rules of a machine: what is read in a state, what is written, where the head goes. -/
namespace TapeMachine

/-- Where the head goes once a symbol is written; `halt` leaves it where it is. -/
inductive Move where
  | left
  | right
  | halt
  deriving DecidableEq, Repr

namespace Move

/-- `R` and `L` move the head, every other word halts. -/
def ofWord (word : String) : Move :=
  if word = "R" then .right else if word = "L" then .left else .halt

def letter : Move → String
  | left => "L"
  | right => "R"
  | halt => "H"

@[simp] theorem ofWord_letter (m : Move) : ofWord m.letter = m := by
  cases m <;> decide

end Move

/-- An alphabet: symbols that stand for whole numbers, among them zero, which is the blank, and
one. -/
class Symbol (σ : Type) where
  blank : σ
  one : σ
  value : σ → Int
  /-- The symbol that stands for a number; none where the alphabet has no such symbol. -/
  ofValue? : Int → Option σ
  value_blank : value blank = 0
  value_one : value one = 1
  ofValue?_value : ∀ a, ofValue? (value a) = some a

/-- A cell of a tape is written as one digit. -/
def digit (b : Bool) : Char := if b then '1' else '0'

/-- The bit that a symbol stands for. -/
def bitOf? (n : Int) : Option Bool :=
  if n = 0 then some false else if n = 1 then some true else none

def bitValue (b : Bool) : Int := if b then 1 else 0

theorem bitOf?_bitValue (b : Bool) : bitOf? (bitValue b) = some b := by
  cases b <;> rfl

/-- The two symbols that programs are written with. -/
instance : Symbol Bool where
  blank := false
  one := true
  value := bitValue
  ofValue? := bitOf?
  value_blank := rfl
  value_one := rfl
  ofValue?_value := bitOf?_bitValue

/-- Any whole number, for machines whose rules do not come from a text. -/
instance : Symbol Int where
  blank := 0
  one := 1
  value n := n
  ofValue? := some
  value_blank := rfl
  value_one := rfl
  ofValue?_value _ := rfl

namespace Symbol

/-- A symbol is written as the number that it stands for. -/
def spell {σ : Type} [Symbol σ] (a : σ) : String := toString (value a)

@[simp, grind =] theorem blank_bool : (blank : Bool) = false := rfl

@[simp] theorem one_bool : (one : Bool) = true := rfl

@[simp] theorem toList_spell_bool (b : Bool) : (spell b).toList = [digit b] := by
  cases b <;> rfl

@[simp] theorem value_bool : (value : Bool → Int) = bitValue := rfl

/-- The symbol of an alphabet for a bit. -/
def ofBit {σ : Type} [Symbol σ] (b : Bool) : σ := if b then one else blank

@[simp] theorem ofBit_bool : (ofBit : Bool → Bool) = id := by
  funext b
  cases b <;> rfl

theorem value_ofBit {σ : Type} [Symbol σ] (b : Bool) : value (ofBit b : σ) = bitValue b := by
  cases b
  · exact value_blank
  · exact value_one

end Symbol

/-- In state `source` reading `read`: write `write`, move the head, go to state `target`. -/
structure Rule (σ : Type) where
  source : String
  read : σ
  write : σ
  move : Move
  target : String
  deriving DecidableEq, Repr

namespace Rule

variable {σ τ : Type}

/-- The state and symbol that a rule applies to. -/
def key (r : Rule σ) : String × σ := (r.source, r.read)

/-- The rule that a final state has for each symbol the table leaves out. -/
def rest (state : String) (symbol : σ) : Rule σ := ⟨state, symbol, symbol, .halt, state⟩

/-- A rule that changes neither the tape, nor the head, nor the state. -/
def isIdle [DecidableEq σ] (r : Rule σ) : Bool :=
  r.move == .halt && r.source == r.target && r.read == r.write

def map (f : σ → τ) (r : Rule σ) : Rule τ := ⟨r.source, f r.read, f r.write, r.move, r.target⟩

/-- The rule as one of an alphabet; none where the alphabet lacks a symbol of it. -/
def within? [Symbol σ] (r : Rule Int) : Option (Rule σ) :=
  match Symbol.ofValue? r.read, Symbol.ofValue? r.write with
  | some a, some b => some ⟨r.source, a, b, r.move, r.target⟩
  | _, _ => none

/-- The written form of a rule: its five parts in parentheses. -/
def text [Symbol σ] (r : Rule σ) : String :=
  "(" ++ r.source ++ ", " ++ Symbol.spell r.read ++ ", " ++ Symbol.spell r.write ++ ", "
    ++ r.move.letter ++ ", " ++ r.target ++ ")"

@[simp] theorem map_id : (map id : Rule σ → Rule σ) = id := rfl

@[simp] theorem key_rest (state : String) (symbol : σ) :
    (rest state symbol).key = (state, symbol) := rfl

theorem isIdle_rest [DecidableEq σ] (state : String) (symbol : σ) :
    (rest state symbol).isIdle = true := by
  simp [isIdle, rest]

theorem isIdle_iff [DecidableEq σ] {r : Rule σ} :
    r.isIdle = true ↔ r = rest r.source r.read := by
  obtain ⟨p, a, b, m, q⟩ := r
  simp [isIdle, rest]
  grind

end Rule

end TapeMachine
