import TapeMachine.Json.Basic

/-!
Reading JSON. Beyond the standard, `NaN`, `Infinity` and `-Infinity` are numbers, and of fields with
one name the last counts. Very long numbers and deep nesting are refused, within bounds that can be
set. A failure is placed by the number of characters left to read.
-/
namespace TapeMachine.Json

open Text (Letter Letters)

inductive Problem where
  | byteOrderMark
  | expectedValue
  | expectedName
  | expectedColon
  | expectedComma
  | unterminatedString
  | controlCharacter
  | invalidEscape
  | invalidUnicodeEscape
  | extraData
  /-- A whole number with more digits than are read. -/
  | tooManyDigits (digits : Nat)
  /-- A list or an object, as `type` says, within too many others. -/
  | tooNested (type : String)
  deriving DecidableEq, Repr

def Problem.message : Problem → String
  | byteOrderMark => "Unexpected UTF-8 BOM (decode using utf-8-sig)"
  | expectedValue => "Expecting value"
  | expectedName => "Expecting property name enclosed in double quotes"
  | expectedColon => "Expecting ':' delimiter"
  | expectedComma => "Expecting ',' delimiter"
  | unterminatedString => "Unterminated string starting at"
  | controlCharacter => "Invalid control character at"
  | invalidEscape => "Invalid \\escape"
  | invalidUnicodeEscape => "Invalid \\uXXXX escape"
  | extraData => "Extra data"
  | tooManyDigits digits =>
    "Exceeds the limit (4300 digits) for integer string conversion: value has " ++
      toString digits ++ " digits; use sys.set_int_max_str_digits() to increase the limit"
  | tooNested type =>
    "maximum recursion depth exceeded while decoding a JSON " ++ type ++ " from a unicode string"

def Problem.isNesting : Problem → Bool
  | tooNested _ => true
  | _ => false

/-- Whether a text breaks the rules of JSON, not just the bounds of what is read. -/
def Problem.isSyntactic : Problem → Bool
  | tooManyDigits _ | tooNested _ => false
  | _ => true

/-- How many digits a whole number can have, unless another bound is set. -/
def mostDigits : Nat := 4300

/-- How deep lists and objects can be nested, unless another bound is set. This is no property of
JSON but of one caller, what the stack leaves it when it reads settings; a caller deeper down has
less, and `parseWithin` takes the bound of any. -/
def mostNested : Nat := 988

/-- A problem, and how many characters were left where it was met. -/
structure Failure where
  problem : Problem
  left : Nat
  deriving DecidableEq, Repr

def isSpace (c : Char) : Bool := c == ' ' || c == '\t' || c == '\n' || c == '\r'

def skipSpaces (cs : List Char) : List Char := cs.dropWhile isSpace

def hexValue? (c : Char) : Option Nat :=
  if c.isDigit then some (c.toNat - '0'.toNat)
  else if 'a' ≤ c && c ≤ 'f' then some (c.toNat - 'a'.toNat + 10)
  else if 'A' ≤ c && c ≤ 'F' then some (c.toNat - 'A'.toNat + 10)
  else none

/-- The value of four hexadecimal digits. -/
def unit? (a b c d : Char) : Option Nat := do
  return (((← hexValue? a) * 16 + (← hexValue? b)) * 16 + (← hexValue? c)) * 16 + (← hexValue? d)

def isHighUnit (n : Nat) : Bool := 0xd800 ≤ n && n < 0xdc00

def isLowUnit (n : Nat) : Bool := 0xdc00 ≤ n && n < 0xe000

/-- The letter of one unit. -/
def unitLetter (n : Nat) : Letter :=
  if isHighUnit n || isLowUnit n then .half n else .char (Char.ofNat n)

def pairLetter (high low : Nat) : Letter :=
  .char (Char.ofNat (0x10000 + (high - 0xd800) * 0x400 + (low - 0xdc00)))

/-- The character that follows a backslash, for the escapes of one letter. -/
def simpleEscape? : Char → Option Char
  | '"' => some '"'
  | '\\' => some '\\'
  | '/' => some '/'
  | 'b' => some '\x08'
  | 'f' => some '\x0c'
  | 'n' => some '\n'
  | 'r' => some '\r'
  | 't' => some '\t'
  | _ => none

/-- The low unit, in an escape of its own, that a text begins with, and what follows. -/
def readLowUnit : List Char → Except Failure (Option (Nat × List Char))
  | '\\' :: 'u' :: a :: b :: c :: d :: e :: cs =>
    match unit? a b c d with
    | none => .error ⟨.invalidUnicodeEscape, cs.length + 6⟩
    | some low => .ok (if isLowUnit low then some (low, e :: cs) else none)
  | _ => .ok none

/-- Reads four digits, which a quote at least must follow, and the low unit that a high one asks
for. -/
def readUnits : List Char → Except Failure (Letter × List Char)
  | a :: b :: c :: d :: e :: cs =>
    match unit? a b c d with
    | none => .error ⟨.invalidUnicodeEscape, cs.length + 6⟩
    | some high =>
      if isHighUnit high then
        (readLowUnit (e :: cs)).map fun
          | some (low, rest) => (pairLetter high low, rest)
          | none => (unitLetter high, e :: cs)
      else .ok (unitLetter high, e :: cs)
  | cs => .error ⟨.invalidUnicodeEscape, cs.length + 1⟩

/-- Reads an escape after its backslash; `start` characters were left at the opening quote. -/
def readEscape (start : Nat) : List Char → Except Failure (Letter × List Char)
  | [] => .error ⟨.unterminatedString, start⟩
  | c :: cs =>
    if c = 'u' then readUnits cs
    else match simpleEscape? c with
      | some c => .ok (.char c, cs)
      | none => .error ⟨.invalidEscape, cs.length + 2⟩

theorem length_readLowUnit {cs rest : List Char} {low : Nat}
    (h : readLowUnit cs = .ok (some (low, rest))) : rest.length < cs.length := by
  unfold readLowUnit at h
  split at h
  · split at h
    · simp at h
    · simp only [Except.ok.injEq] at h
      split at h
      · simp only [Option.some.injEq, Prod.mk.injEq] at h
        simp only [← h.2, List.length_cons]
        omega
      · simp at h
  · simp at h

theorem length_readUnits {cs rest : List Char} {c : Letter} (h : readUnits cs = .ok (c, rest)) :
    rest.length < cs.length := by
  unfold readUnits at h
  split at h
  · next a b c d e cs =>
    split at h
    · simp at h
    · split at h
      · cases hl : readLowUnit (e :: cs) with
        | error f => simp [hl, Except.map] at h
        | ok r =>
          cases r with
          | none => grind [Except.map]
          | some p =>
            have := length_readLowUnit hl
            grind [Except.map]
      · grind
  · simp at h

theorem length_readEscape {start : Nat} {cs rest : List Char} {c : Letter}
    (h : readEscape start cs = .ok (c, rest)) : rest.length < cs.length := by
  unfold readEscape at h
  split at h
  · simp at h
  · split at h
    · have := length_readUnits h
      simp only [List.length_cons]
      omega
    · grind

/-- Puts a letter before what was read after it. -/
def consLetter (c : Letter) (r : Except Failure (Letters × List Char)) :
    Except Failure (Letters × List Char) :=
  r.map fun (s, rest) => (c :: s, rest)

/-- Reads up to the closing quote; `start` characters were left at the opening one. -/
def readLetters (start : Nat) (cs : List Char) : Except Failure (Letters × List Char) :=
  match cs with
  | [] => .error ⟨.unterminatedString, start⟩
  | c :: cs =>
    if c = '"' then .ok ([], cs)
    else if c = '\\' then
      match _h : readEscape start cs with
      | .ok (c, rest) => consLetter c (readLetters start rest)
      | .error f => .error f
    else if c.toNat < 0x20 then .error ⟨.controlCharacter, cs.length + 1⟩
    else consLetter (.char c) (readLetters start cs)
termination_by cs.length
decreasing_by
  · have := length_readEscape _h
    simp only [List.length_cons]
    omega
  · simp

/-- Reads a string after its opening quote. -/
def readString (cs : List Char) : Except Failure (Letters × List Char) :=
  readLetters (cs.length + 1) cs

def numeral (digits : List Char) : Nat :=
  digits.foldl (fun n c => n * 10 + (c.toNat - '0'.toNat)) 0

/-- The digits of a whole number, where a zero stands alone, and what follows. -/
def readWhole : List Char → List Char × List Char
  | '0' :: cs => (['0'], cs)
  | cs => (cs.takeWhile Char.isDigit, cs.dropWhile Char.isDigit)

/-- The digits after a point, if there are any, and what follows. -/
def readFraction : List Char → List Char × List Char
  | '.' :: cs =>
    let digits := cs.takeWhile Char.isDigit
    if digits.isEmpty then ([], '.' :: cs) else (digits, cs.dropWhile Char.isDigit)
  | cs => ([], cs)

/-- The exponent at the start of a text, if there is one, and what follows. -/
def readExponent (cs : List Char) : Option Int × List Char :=
  match cs with
  | e :: rest =>
    if e == 'e' || e == 'E' then
      let (negative, rest) := match rest with
        | '-' :: r => (true, r)
        | '+' :: r => (false, r)
        | r => (false, r)
      let digits := rest.takeWhile Char.isDigit
      if digits.isEmpty then (none, cs)
      else
        let n : Int := numeral digits
        (some (if negative then -n else n), rest.dropWhile Char.isDigit)
    else (none, cs)
  | [] => (none, [])

/-- Reads a number without its sign; whole if it has neither point nor exponent, and then of `most`
digits at most. -/
def readMagnitude (most : Nat) (negative : Bool) (start : List Char) :
    Except Failure (Json × List Char) :=
  let (whole, cs) := readWhole start
  if whole.isEmpty then .error ⟨.expectedValue, start.length + if negative then 1 else 0⟩
  else
    let (fraction, cs) := readFraction cs
    let (exponent, cs) := readExponent cs
    if fraction.isEmpty && exponent.isNone then
      if whole.length > most then .error ⟨.tooManyDigits whole.length, start.length⟩
      else
        let n : Int := numeral whole
        .ok (.int (if negative then -n else n), cs)
    else
      let scale := exponent.getD 0 - fraction.length
      .ok (.real (.ofDecimal negative (numeral (whole ++ fraction)) scale), cs)

/-- Values that are spelled by a word. -/
def words : List (List Char × Json) :=
  [(['n', 'u', 'l', 'l'], .null), (['t', 'r', 'u', 'e'], .bool true),
    (['f', 'a', 'l', 's', 'e'], .bool false), (['N', 'a', 'N'], .real .nan),
    (['I', 'n', 'f', 'i', 'n', 'i', 't', 'y'], .real (.infinite false)),
    (['-', 'I', 'n', 'f', 'i', 'n', 'i', 't', 'y'], .real (.infinite true))]

/-- Reads the word that a text begins with, if it begins with one. -/
def readWord? (cs : List Char) : Option (Json × List Char) :=
  words.findSome? fun (word, v) => (word.isPrefixOf? cs).map fun rest => (v, rest)

/-- Reads a word or a number. -/
def readAtom (most : Nat) (cs : List Char) : Except Failure (Json × List Char) :=
  match readWord? cs with
  | some r => .ok r
  | none =>
    match cs with
    | '-' :: rest => readMagnitude most true rest
    | _ => readMagnitude most false cs

mutual

/-- Reads the value that a text begins with, within so many lists and objects at most. -/
def readValue (most : Nat) : (fuel room : Nat) → List Char → Except Failure (Json × List Char)
  | 0, _, cs => .error ⟨.expectedValue, cs.length⟩
  | fuel + 1, room, cs =>
    match cs, room with
    | '"' :: rest, _ => (readString rest).map fun (s, rest) => (.str s, rest)
    | '[' :: rest, 0 => .error ⟨.tooNested "array", rest.length + 1⟩
    | '[' :: rest, room + 1 =>
      match skipSpaces rest with
      | ']' :: rest => .ok (.arr [], rest)
      | rest => (readItems most fuel room rest).map fun (vs, rest) => (.arr vs, rest)
    | '{' :: rest, 0 => .error ⟨.tooNested "object", rest.length + 1⟩
    | '{' :: rest, room + 1 =>
      match skipSpaces rest with
      | '}' :: rest => .ok (.obj [], rest)
      | rest => (readFields most fuel room rest).map fun (fs, rest) =>
        (.obj (Fields.ofPairs fs), rest)
    | _, _ => readAtom most cs

/-- Reads items up to the bracket that closes them. -/
def readItems (most : Nat) : (fuel room : Nat) → List Char → Except Failure (List Json × List Char)
  | 0, _, cs => .error ⟨.expectedValue, cs.length⟩
  | fuel + 1, room, cs => do
    let (v, rest) ← readValue most fuel room cs
    match skipSpaces rest with
    | ']' :: rest => return ([v], rest)
    | ',' :: rest =>
      let (vs, rest) ← readItems most fuel room (skipSpaces rest)
      return (v :: vs, rest)
    | rest => throw ⟨.expectedComma, rest.length⟩

/-- Reads fields up to the brace that closes them. -/
def readFields (most : Nat) :
    (fuel room : Nat) → List Char → Except Failure (List (Letters × Json) × List Char)
  | 0, _, cs => .error ⟨.expectedName, cs.length⟩
  | fuel + 1, room, cs => do
    match cs with
    | '"' :: rest =>
      let (name, rest) ← readString rest
      match skipSpaces rest with
      | ':' :: rest =>
        let (v, rest) ← readValue most fuel room (skipSpaces rest)
        match skipSpaces rest with
        | '}' :: rest => return ([(name, v)], rest)
        | ',' :: rest =>
          let (fs, rest) ← readFields most fuel room (skipSpaces rest)
          return ((name, v) :: fs, rest)
        | rest => throw ⟨.expectedComma, rest.length⟩
      | rest => throw ⟨.expectedColon, rest.length⟩
    | _ => throw ⟨.expectedName, cs.length⟩

end

/-- Reads a whole text; every value takes a character, so twice their number is fuel enough. -/
def readText (most nested : Nat) (cs : List Char) : Except Failure Json :=
  if cs.head? = some '\ufeff' then .error ⟨.byteOrderMark, cs.length⟩
  else do
    let (v, rest) ← readValue most (2 * cs.length + 2) nested (skipSpaces cs)
    match skipSpaces rest with
    | [] => return v
    | rest => throw ⟨.extraData, rest.length⟩

/-- A text that is not JSON: what is wrong, and after how many characters of which text. -/
structure SyntaxError where
  problem : Problem
  text : List Char
  index : Nat
  deriving DecidableEq, Repr

/-- The line and column of the place, both from one, and the number of characters before it. What
only exceeds the bounds has no place. -/
def SyntaxError.message (e : SyntaxError) : String :=
  if !e.problem.isSyntactic then e.problem.message else
  let before := e.text.take e.index
  let line := before.count '\n' + 1
  let column := (before.reverse.takeWhile (· != '\n')).length + 1
  e.problem.message ++ ": line " ++ toString line ++ " column " ++ toString column ++
    " (char " ++ toString e.index ++ ")"

/-- The value of a text, with bounds on the digits of whole numbers and on nesting. -/
def parseWithin (most nested : Nat) (s : String) : Except SyntaxError Json :=
  let cs := s.toList
  match readText most nested cs with
  | .ok v => .ok v
  | .error f => .error ⟨f.problem, cs, cs.length - f.left⟩

def parse (s : String) : Except SyntaxError Json := parseWithin mostDigits mostNested s

end TapeMachine.Json
