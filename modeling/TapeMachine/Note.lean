import TapeMachine.Diagnostic

/-! Notes: what is reported while a program is read, linked and run. -/
namespace TapeMachine

inductive Level where
  | debug
  | warning
  | error
  deriving DecidableEq, Repr

def Level.name : Level → String
  | debug => "DEBUG"
  | warning => "WARNING"
  | error => "ERROR"

/-- The part of the interpreter that reports. -/
inductive Channel where
  | reading
  | machine
  deriving DecidableEq, Repr

inductive Note where
  | readFailed (d : Diagnostic)
  | description (text : String)
  | tape (bits : List Bool)
  | initialState (name : String)
  | finalStates (names : List String)
  | composed (library : String) (size : Nat)
  | rule (r : Rule Bool)
  | buildFailed (d : Diagnostic)
  | collision (message : String)
  | noRule (state : String) (symbol : Bool)
  | loopAssumed (limit : Int)
  deriving DecidableEq, Repr

namespace Note

def channel : Note → Channel
  | readFailed _ => .reading
  | _ => .machine

def level : Note → Level
  | buildFailed _ => .error
  | collision _ | loopAssumed _ => .warning
  | _ => .debug

/-- Items in brackets, with commas between them. -/
def bracketed (items : List String) : String := "[" ++ Names.joined ", " items ++ "]"

def text : Note → String
  | readFailed d => "Parse failed: " ++ d.text
  | description text => "Found description: " ++ Text.quoted text
  | tape bits => "Tape: " ++ bracketed (bits.map Symbol.spell)
  | initialState name => "The initial tape state is " ++ Text.quoted name
  | finalStates names => "The final tape states are " ++ bracketed (names.map Text.quoted)
  | composed library size =>
    "Composed library " ++ Text.quoted library ++ " (" ++ toString size ++ " instructions)"
  | rule r => "Found instruction " ++ r.text
  | buildFailed d => "Could not build the machine: " ++ d.text
  | collision message => message
  | noRule state symbol => "No instruction for (" ++ state ++ ", " ++ Symbol.spell symbol ++ ")"
  | loopAssumed limit =>
    "State visited " ++ toString limit ++ " times, assuming an infinite loop"

end Note

end TapeMachine
