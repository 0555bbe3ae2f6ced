import TapeMachine.Text.Columns
import TapeMachine.Text.Decimal
import TapeMachine.Text.Printable
import TapeMachine.Text.Quoted
import TapeMachine.Text.WordChar

/-!
Tokens of literals. Brackets have to match, strings end on their line, and numbers end where no
letter follows; the first fault ends the tokens.
-/
namespace TapeMachine.Text.Literal

inductive Token where
  | name (s : String)
  | number
  | string (isBytes : Bool)
  | mark (s : String)
  /-- The end of the text. -/
  | stop
  /-- The end of the text within a bracket. -/
  | unclosed (bracket : Char)
  | faulty (message : String)
  deriving DecidableEq, Repr

/-- What is wrong where the tokens end. -/
def Token.fault? : Token → Option String
  | .unclosed c => some ("'" ++ String.singleton c ++ "' was never closed")
  | .faulty message => some message
  | _ => none

/-- A token, and how many brackets are open after it. -/
structure Placed where
  token : Token
  depth : Nat
  deriving DecidableEq, Repr

/-- Whether a character is a raised digit or a fraction, which no name holds. -/
def isRaised (c : Char) : Bool := [0xb2, 0xb3, 0xb9, 0xbc, 0xbd, 0xbe].contains c.toNat

/-- Whether a character may begin a name, if it is a letter, or go on with one. -/
def isNameChar (c : Char) : Bool :=
  if c.toNat < 0x80 then c.isAlphanum || c == '_'
  else (isWordChar c && !isRaised c) ||
    inRanges flatRanges c.toNat && isPrintable c

def isNameStart (c : Char) : Bool :=
  if c.toNat < 0x80 then c.isAlpha || c == '_' else isNameChar c && isWordChar c && !isDecimal c

/-- Whether a character is read as a part of a name, be it right there or not. -/
def looksLikeName (c : Char) : Bool := c.toNat ≥ 0x80 || c.isAlphanum || c == '_'

/-- The digits of a code point, at least four. -/
def pointText (c : Char) : String :=
  let digits := Nat.toDigits 16 c.toNat
  "U+" ++ String.ofList (List.replicate (4 - digits.length) '0' ++ digits.map Char.toUpper)

def badCharacter (c : Char) : String :=
  if isPrintable c then "invalid character '" ++ String.singleton c ++ "' (" ++ pointText c ++ ")"
  else "invalid non-printable character " ++ pointText c

/-- The first character of a name that may not stand where it stands. -/
def badNameChar? : List Char → Option Char
  | [] => none
  | c :: cs => if isNameStart c then cs.find? (!isNameChar ·) else some c

/-- Whether the letters after a number are a word that may follow it. -/
def goesOn (cs : List Char) : Bool :=
  [['i', 'f'], ['i', 'n'], ['i', 's']].any (·.isPrefixOf cs) ||
    [['a', 'n', 'd'], ['e', 'l', 's', 'e'], ['f', 'o', 'r'], ['o', 'r'], ['n', 'o', 't']].contains
      (cs.takeWhile looksLikeName)

/-- Refuses letters right after a number. -/
def endNumber (kind : String) (cs : List Char) : Except String (List Char) :=
  if cs.head?.any (fun c => c.toNat < 0x80 && looksLikeName c) && !goesOn cs then
    .error ("invalid " ++ kind ++ " literal")
  else .ok cs

/-- Skips digits that single underscores may separate. -/
def skipDigits (isDigit : Char → Bool) (fault : String) :
    (fuel : Nat) → List Char → Except String (List Char)
  | 0, cs => .ok cs
  | fuel + 1, cs =>
    match cs.dropWhile isDigit with
    | '_' :: rest =>
      if rest.head?.any isDigit then skipDigits isDigit fault fuel rest else .error fault
    | rest => .ok rest

def skipDecimals (cs : List Char) : Except String (List Char) :=
  skipDigits Char.isDigit "invalid decimal literal" (cs.length + 1) cs

/-- Reads what may follow the whole part of a number: an exponent and the imaginary unit. -/
def endDecimal (cs : List Char) : Except String (List Char) := do
  let afterExponent ← match cs with
    | e :: rest =>
      if e == 'e' || e == 'E' then
        match rest with
        | s :: d =>
          if s == '+' || s == '-' then
            if d.head?.any Char.isDigit then skipDecimals d else throw "invalid decimal literal"
          else if s.isDigit then skipDecimals rest
          else return ← endNumber "decimal" cs
        | [] => return ← endNumber "decimal" cs
      else pure cs
    | [] => pure cs
  match afterExponent with
  | 'j' :: rest | 'J' :: rest => endNumber "imaginary" rest
  | rest => endNumber "decimal" rest

def endWhole (cs : List Char) : Except String (List Char) := do
  match cs with
  | '.' :: rest =>
    if rest.head?.any Char.isDigit then endDecimal (← skipDecimals rest) else endDecimal rest
  | _ => endDecimal cs

/-- Reads the digits of a number in another base, after its letter. -/
def readBased (kind : String) (isDigit : Char → Bool) (cs : List Char) :
    Except String (List Char) := do
  let fault := "invalid " ++ kind ++ " literal"
  let wrongDigit := fun (c : Char) =>
    "invalid digit '" ++ String.singleton c ++ "' in " ++ kind ++ " literal"
  let refuse := fun (rest : List Char) => match rest with
    | c :: _ => if c.isDigit then wrongDigit c else fault
    | [] => fault
  let digits := match cs with
    | '_' :: rest => rest
    | _ => cs
  if !digits.head?.any isDigit then throw (refuse digits)
  let rest ← skipDigits isDigit fault (digits.length + 1) digits
  if rest.head?.any Char.isDigit then throw (refuse rest)
  endNumber kind rest

/-- Reads a number that begins with a zero. -/
def readAfterZero (cs : List Char) : Except String (List Char) := do
  match cs with
  | 'x' :: rest | 'X' :: rest =>
    readBased "hexadecimal" (fun c => c.isDigit || ('a' ≤ c.toLower && c.toLower ≤ 'f')) rest
  | 'o' :: rest | 'O' :: rest => readBased "octal" (fun c => '0' ≤ c && c ≤ '7') rest
  | 'b' :: rest | 'B' :: rest => readBased "binary" (fun c => c == '0' || c == '1') rest
  | _ =>
    let zeros ← skipDigits (· == '0') "" (cs.length + 1) ('0' :: cs) |>.toOption
      |>.elim (skipDecimals ('0' :: cs)) .ok
    if zeros.head?.any Char.isDigit then
      let rest ← skipDecimals zeros
      match rest with
      | c :: _ =>
        if c == '.' || c == 'e' || c == 'E' || c == 'j' || c == 'J' then endWhole rest
        else throw leadingZeros
      | [] => throw leadingZeros
    else endWhole zeros
where
  leadingZeros : String :=
    "leading zeros in decimal integer literals are not permitted; " ++
      "use an 0o prefix for octal integers"

/-- Reads the number that a text begins with. -/
def readNumber (cs : List Char) : Except String (List Char) := do
  match cs with
  | '0' :: rest => readAfterZero rest
  | '.' :: rest => endDecimal (← skipDecimals rest)
  | _ => endWhole (← skipDecimals cs)

/-- What follows a string, of which a text is the part after the opening quote. -/
def readShort (quote : Char) : List Char → Option (List Char)
  | [] => none
  | '\n' :: _ => none
  | '\\' :: _ :: cs => readShort quote cs
  | c :: cs => if c = quote then some cs else readShort quote cs

def readLong (quote : Char) : List Char → Option (List Char)
  | [] => none
  | '\\' :: _ :: cs => readLong quote cs
  | c :: cs =>
    if c = quote && [quote, quote].isPrefixOf cs then some (cs.drop 2) else readLong quote cs

/-- Reads a string from its opening quote on. -/
def readString (quote : Char) (cs : List Char) : Except String (List Char) :=
  let (rest, fault) :=
    if [quote, quote].isPrefixOf cs then (readLong quote (cs.drop 2), "triple-quoted string")
    else (readShort quote cs, "string")
  match rest with
  | some rest => .ok rest
  | none => .error ("unterminated " ++ fault ++ " literal (detected at line 1)")

/-- Whether a name may stand right before a quote, as a part of the string. -/
def isStringMark (name : List Char) : Bool :=
  [['b'], ['r'], ['u'], ['f'], ['b', 'r'], ['r', 'b'], ['f', 'r'], ['r', 'f']].contains
    (name.map Char.toLower)

/-- The marks that take more than one character, longer ones first. -/
def longMarks : List String :=
  ["**=", "//=", ">>=", "<<=", "...", "**", "//", ">>", "<<", "<=", ">=", "==", "!=", "->", "+=",
    "-=", "*=", "/=", "%=", "&=", "|=", "^=", "@=", ":=", "<>"]

def closes : Char → Char
  | '(' => ')'
  | '\x5b' => '\x5d'
  | _ => '\x7d'

/-- The tokens of a text inside of open brackets, the innermost first. -/
def tokens : (fuel : Nat) → (opened : List Char) → List Char → List Placed
  | 0, opened, _ => [⟨.stop, opened.length⟩]
  | fuel + 1, opened, cs =>
    let depth := opened.length
    let stop := fun (fault : String) => [Placed.mk (.faulty fault) depth]
    let next := fun (t : Token) (rest : List Char) => ⟨t, depth⟩ :: tokens fuel opened rest
    match cs with
    | [] =>
      match opened with
      | [] => [⟨.stop, 0⟩]
      | c :: _ => [⟨.unclosed c, depth⟩]
    | c :: cs =>
      if c == ' ' || c == '\t' || c == '\x0c' then tokens fuel opened cs
      else if c == '\n' && !opened.isEmpty then tokens fuel opened cs
      else if c == '#' then tokens fuel opened (cs.dropWhile (· != '\n'))
      else if looksLikeName c && !c.isDigit then
        let name := c :: cs.takeWhile looksLikeName
        let rest := (c :: cs).drop name.length
        match rest with
        | q :: more =>
          if (q == '"' || q == '\'') && isStringMark name then
            match readString q more with
            | .ok rest => next (.string ((name.map Char.toLower).contains 'b')) rest
            | .error fault => stop fault
          else nameToken next stop name rest
        | [] => nameToken next stop name rest
      else if c.isDigit || (c == '.' && cs.head?.any Char.isDigit) then
        match readNumber (c :: cs) with
        | .ok rest => next .number rest
        | .error fault => stop fault
      else if c == '"' || c == '\'' then
        match readString c cs with
        | .ok rest => next (.string false) rest
        | .error fault => stop fault
      else if c == '\\' then
        match cs with
        | ['\n'] => stop "unexpected EOF while parsing"
        | '\n' :: rest => tokens fuel opened rest
        | _ => stop "unexpected character after line continuation character"
      else if c == '(' || c == '\x5b' || c == '\x7b' then
        if depth ≥ 200 then stop "too many nested parentheses"
        else ⟨.mark (String.singleton c), depth + 1⟩ :: tokens fuel (c :: opened) cs
      else if c == ')' || c == '\x5d' || c == '\x7d' then
        match opened with
        | [] => stop ("unmatched '" ++ String.singleton c ++ "'")
        | o :: opened =>
          if closes o == c then ⟨.mark (String.singleton c), depth - 1⟩ :: tokens fuel opened cs
          else stop ("closing parenthesis '" ++ String.singleton c ++
            "' does not match opening parenthesis '" ++ String.singleton o ++ "'")
      else if !isPrintable c then stop (badCharacter c)
      else match longMarks.find? fun m => m.toList.isPrefixOf (c :: cs) with
        | some m => next (.mark m) ((c :: cs).drop m.length)
        | none => next (.mark (String.singleton c)) cs
where
  nameToken (next : Token → List Char → List Placed) (stop : String → List Placed)
      (name rest : List Char) : List Placed :=
    match badNameChar? name with
    | some c => stop (badCharacter c)
    | none => next (.name (String.ofList name)) rest

end TapeMachine.Text.Literal
