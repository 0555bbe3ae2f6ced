import TapeMachine.Json.Basic
import TapeMachine.Text.Quoted

/-!
Writing JSON, in ASCII alone: on one line with a blank after commas and colons, or with each item on
a line of its own, indented by a number of blanks for each level.

A running program has bounds when it writes, as it has when it reads: on the digits of whole
numbers, and on nesting, by its stack. Here any value is written. Where values are written to files,
in journals and settings, they are taken to be within these bounds.
-/
namespace TapeMachine.Json

open Text (Letter Letters)

/-- A unit of sixteen bits, escaped. -/
def escapeUnit (n : Nat) : List Char := '\\' :: 'u' :: Text.hexDigits 4 n

/-- A code point, escaped; beyond sixteen bits it takes two units. -/
def escapeCodePoint (n : Nat) : List Char :=
  if n < 0x10000 then escapeUnit n
  else escapeUnit (0xd800 + (n - 0x10000) / 0x400) ++ escapeUnit (0xdc00 + (n - 0x10000) % 0x400)

def writeChar (c : Char) : List Char :=
  if c = '"' || c = '\\' then ['\\', c]
  else if c = '\n' then ['\\', 'n']
  else if c = '\r' then ['\\', 'r']
  else if c = '\t' then ['\\', 't']
  else if c = '\x08' then ['\\', 'b']
  else if c = '\x0c' then ['\\', 'f']
  else if 0x20 ≤ c.toNat && c.toNat < 0x7f then [c]
  else escapeCodePoint c.toNat

def writeLetter : Letter → List Char
  | .char c => writeChar c
  | .half unit => escapeUnit unit

def writeString (s : Letters) : List Char := '"' :: (s.flatMap writeLetter ++ ['"'])

/-- The start of a new line at a level; nothing where all goes on one line. -/
def newline (indent : Option Nat) (level : Nat) : List Char :=
  match indent with
  | none => []
  | some width => '\n' :: List.replicate (width * level) ' '

/-- What stands between two items. -/
def separator (indent : Option Nat) (level : Nat) : List Char :=
  match indent with
  | none => [',', ' ']
  | some _ => ',' :: newline indent level

variable (indent : Option Nat)

mutual

def write (level : Nat) : Json → List Char
  | null => ['n', 'u', 'l', 'l']
  | bool true => ['t', 'r', 'u', 'e']
  | bool false => ['f', 'a', 'l', 's', 'e']
  | int n => (toString n).toList
  | real x => x.text.toList
  | str s => writeString s
  | arr [] => ['[', ']']
  | arr (v :: vs) =>
    '[' :: newline indent (level + 1) ++ write (level + 1) v ++ writeItems (level + 1) vs ++
      newline indent level ++ [']']
  | obj [] => ['{', '}']
  | obj ((n, v) :: fs) =>
    '{' :: newline indent (level + 1) ++ writeString n ++ [':', ' '] ++ write (level + 1) v ++
      writeFields (level + 1) fs ++ newline indent level ++ ['}']

/-- Further items, each after a separator. -/
def writeItems (level : Nat) : List Json → List Char
  | [] => []
  | v :: vs => separator indent level ++ write level v ++ writeItems level vs

/-- Further fields, each after a separator. -/
def writeFields (level : Nat) : List (Letters × Json) → List Char
  | [] => []
  | (n, v) :: fs =>
    separator indent level ++ writeString n ++ [':', ' '] ++ write level v ++ writeFields level fs

end

/-- A value on one line. -/
def compact (v : Json) : String := String.ofList (write none 0 v)

/-- A value on as many lines as it has items, indented by four. -/
def pretty (v : Json) : String := String.ofList (write (some 4) 0 v)

end TapeMachine.Json
