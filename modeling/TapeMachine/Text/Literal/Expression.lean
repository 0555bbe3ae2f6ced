import TapeMachine.Text.Literal.Parser

/-!
Expressions, as far as it matters whether a text is one, and what is probably meant where it is
not. Rules refer to each other through `self`, which runs them with less fuel.
-/
namespace TapeMachine.Text.Literal

open TapeMachine.Text.Literal.Parser

/-- Words that are no names. -/
def keywords : List String :=
  ["False", "None", "True", "and", "as", "assert", "async", "await", "break", "class", "continue",
    "def", "del", "elif", "else", "except", "finally", "for", "from", "global", "if", "import",
    "in", "is", "lambda", "nonlocal", "not", "or", "pass", "raise", "return", "try", "while",
    "with", "yield"]

variable (toks : Array Placed) (self : Form → Parser)

/-- The token at a place; a fault that ends the tokens is raised once it is looked at. -/
def look (i : Nat) : Act Placed :=
  match toks[i]? with
  | some p =>
    match p.token.fault? with
    | some fault => throwThe String fault
    | none => return p
  | none => failure

def token (accepts : Token → Bool) : Parser := fun i => do
  if accepts (← look toks i).token then return i + 1 else failure

def mark (s : String) : Parser := token toks (· == .mark s)

def word (s : String) : Parser := token toks (· == .name s)

def anyName : Parser := token toks fun
  | .name s => !keywords.contains s
  | _ => false

def anyString : Parser := token toks fun
  | .string _ => true
  | _ => false

def marks (ss : List String) : Parser := alt (ss.map (mark toks))

def repeated (p : Parser) : Parser := many p toks.size

/-- One or more, with commas between them. -/
def commaed (p : Parser) : Parser := seq [p, repeated toks (seq [mark toks ",", p])]

/-- Operands with operators between them. -/
def chain (operand : Form) (operator : Parser) : Parser :=
  seq [self operand, repeated toks (seq [operator, self operand])]

/-- Whether a parser reads exactly the tokens from one place up to another. -/
def spans (p : Parser) (i j : Nat) : Act Bool := do return (← outcome p i) == some j

/-- What messages call the expression between two places. -/
def kindOf : (fuel : Nat) → (i j : Nat) → Act String
  | 0, _, _ => return "expression"
  | fuel + 1, i, j => do
    let first := (← look toks i).token
    let last := (← look toks (j - 1)).token
    if j = i + 1 then
      return match first with
        | .name s => if ["True", "False", "None"].contains s then s else "name"
        | .mark _ => "ellipsis"
        | _ => "literal"
    else if ← spans (repeated toks (anyString toks)) i j then return "literal"
    else if ← spans (self .tuple) i j then return "tuple"
    else if ← spans (self .generator) i j then return "generator expression"
    else if ← spans (self .group) i j then
      if ← spans (self .yielded) (i + 1) (j - 1) then return "yield expression"
      else if ← spans (self .assignment) (i + 1) (j - 1) then return "named expression"
      else kindOf fuel (i + 1) (j - 1)
    else if ← spans (self .braces) i j then
      let isFor := fun (p : Parser) => spans (seq [mark toks "\x7b", p, self .clauses]) i (j - 1)
      if ← isFor (self .named) then return "set comprehension"
      else if ← isFor (self .pair) then return "dict comprehension"
      else if ← spans (seq [mark toks "\x7b", self .starNameds]) i (j - 1) then
        return "set display"
      else return "dict literal"
    else if ← spans (self .primary) i j then
      return match last with
        | .name _ => "attribute"
        | _ => "function call"
    else if ← spans (self .awaited) i j then return "await expression"
    else if ← spans (self .bitOr) i j then return "expression"
    else if ← spans (self .comparison) i j then return "comparison"
    else if ← spans (self .disjunction) i j then return "expression"
    else if first == .name "lambda" then return "lambda"
    else return "conditional expression"

/-- Refuses what a parser reads, in words that name its kind. -/
def refuseKind (p rest : Parser) (fault : String → String) : Parser := fun i => do
  let j ← p i
  let _ ← rest j
  let kind ← kindOf toks self toks.size i j
  throwThe String (fault kind)

/-- Whether the tokens between two places are one of the words that once were statements. -/
def isOldStatement (i j : Nat) : Bool :=
  j == i + 1 && ((toks[i]?).map Placed.token == some (.name "print") ||
    (toks[i]?).map Placed.token == some (.name "exec"))

/-- Two expressions side by side within brackets. -/
def missingComma : Parser := fun i => do
  let excluded ← outcome (alt [seq [anyName toks, anyString toks],
    token toks fun t => [Token.name "_", .name "case", .name "match"].contains t]) i
  if excluded.isSome then failure
  let j ← self .disjunction i
  let k ← unhinted (self .plain) j
  let depth := ((toks[k - 1]?).map Placed.depth).getD 0
  if isOldStatement toks i j || depth = 0 then failure
  throwThe String "invalid syntax. Perhaps you forgot a comma?"

def missingParentheses : Parser := fun i => do
  let j ← anyName toks i
  let _ ← notAhead (mark toks "(") j
  let _ ← self .starExpressions j
  match (toks[i]?).map Placed.token with
  | some (.name s) =>
    if isOldStatement toks i j then
      throwThe String ("Missing parentheses in call to '" ++ s ++ "'. Did you mean " ++ s ++
        "(...)?")
    else failure
  | _ => failure

def conditional : Parser :=
  seq [self .disjunction, word toks "if", self .disjunction, word toks "else", self .expression]

/-- What stands between brackets and a call's arguments cannot be assigned to. -/
def maybeEquals : String := "invalid syntax. Maybe you meant '==' or ':=' instead of '='?"

def misassigned : Parser :=
  let noMore := notAhead (marks toks ["=", ":="])
  alt
    [refuseKind toks self (self .expression) (seq [mark toks ":=", self .expression])
      fun kind => "cannot use assignment expressions with " ++ kind,
     seq [anyName toks, mark toks "=", self .bitOr, noMore, refuse maybeEquals],
     seq [notAhead (alt [self .tuple, self .generator, word toks "True", word toks "None",
        word toks "False"]),
      refuseKind toks self (self .bitOr) (seq [mark toks "=", self .bitOr, noMore])
        fun kind => "cannot assign to " ++ kind ++
          " here. Maybe you meant '==' instead of '='?"]]

/-- An expression that no assignment follows. -/
def unassigned : Parser :=
  alt [self .assignment, seq [self .expression, notAhead (mark toks ":=")]]

def misplacedFor : Parser :=
  let opener := marks toks ["(", "\x7b"]
  let unpacked := "iterable unpacking cannot be used in comprehension"
  let target := "did you forget parentheses around the comprehension target?"
  alt
    [seq [opener, self .starred, self .clauses, refuse unpacked],
     seq [mark toks "\x7b", self .starNamed, mark toks ",", self .starNameds, self .clauses,
      refuse target],
     seq [mark toks "\x7b", self .starNamed, mark toks ",", self .clauses, refuse target]]

def misplacedPair : Parser :=
  let starred := "cannot use a starred expression in a dictionary value"
  let missing := "expression expected after dictionary key and ':'"
  let ends := ahead (marks toks ["\x7d", ","])
  let noValue := alt
    [seq [self .expression, mark toks ":", mark toks "*", self .bitOr, refuse starred],
     seq [self .expression, mark toks ":", ends, refuse missing]]
  alt
    [seq [commaed toks (self .pairs), mark toks ",",
      alt [seq [self .expression, notAhead (mark toks ":"),
        refuse "':' expected after dictionary key"], noValue]],
     noValue]

def misplacedArguments : Parser :=
  let comma := mark toks ","
  let lone := "Generator expression must be parenthesized"
  alt
    [seq [self .args, comma, mark toks "*",
      refuse "iterable argument unpacking follows keyword argument unpacking"],
     seq [self .expression, self .clauses, comma,
      opt (alt [self .args, seq [self .expression, self .clauses]]), refuse lone],
     seq [anyName toks, mark toks "=", self .expression, self .clauses, refuse maybeEquals],
     fun i => do
      let j ← self .args i
      let _ ← self .clauses j
      if ← spans (self .argument) i j then failure else throwThe String lone,
     seq [self .args, comma, self .expression, self .clauses, refuse lone],
     fun i => do
      let j ← self .args i
      let _ ← seq [comma, self .args] j
      let pairs ← outcome (seq [opt (seq [commaed toks (self .argument), comma]),
        repeated toks (seq [self .keyword, comma]), mark toks "**"]) i
      if pairs.isSome then
        throwThe String "positional argument follows keyword argument unpacking"
      else throwThe String "positional argument follows keyword argument"]

def misplacedKeyword : Parser :=
  alt
    [fun i => do
      let j ← alt [word toks "True", word toks "False", word toks "None"] i
      let _ ← mark toks "=" j
      throwThe String ("cannot assign to " ++ (← kindOf toks self 1 i j)),
     seq [anyName toks, mark toks "=", self .expression, self .clauses, refuse maybeEquals],
     seq [notAhead (seq [anyName toks, mark toks "="]), self .expression, mark toks "=",
      refuse "expression cannot contain assignment, perhaps you meant \"==\"?"]]

def comparison : Parser :=
  let operator := alt [marks toks ["==", "!=", "<=", "<", ">=", ">"],
    seq [word toks "not", word toks "in"], word toks "in",
    seq [word toks "is", word toks "not"], word toks "is"]
  chain toks self .bitOr operator

def primary : Parser :=
  seq [self .atom, repeated toks (alt
    [seq [mark toks ".", anyName toks], self .generator,
     seq [mark toks "(", opt (self .arguments), mark toks ")"]])]

/-- Strings side by side; some of bytes and some of characters are refused. -/
def strings : Parser := fun i => do
  let j ← seq [anyString toks, repeated toks (anyString toks)] i
  let row := (toks.extract i j).map Placed.token
  if row.contains (.string true) && row.contains (.string false) then
    throwThe String "cannot mix bytes and nonbytes literals"
  return j

def atom : Parser :=
  alt [anyName toks, word toks "True", word toks "False", word toks "None",
    strings toks,
    token toks (· == .number),
    seq [ahead (mark toks "("), alt [self .tuple, self .group, self .generator]],
    seq [ahead (mark toks "\x7b"), self .braces], mark toks "..."]

def group : Parser :=
  alt
    [seq [mark toks "(", alt [self .yielded, self .named], mark toks ")"],
     hint (alt
      [seq [mark toks "(", self .starred, mark toks ")",
        refuse "cannot use starred expression here"],
       seq [mark toks "(", mark toks "**", self .expression, mark toks ")",
        refuse "cannot use double starred expression here"]])]

/-- Sets and dictionaries, listed or computed. -/
def braces : Parser :=
  let between := fun (p : Parser) => seq [mark toks "\x7b", p, mark toks "\x7d"]
  alt
    [between (opt (seq [commaed toks (self .pairs), opt (mark toks ",")])),
     between (misplacedPair toks self),
     between (self .starNameds),
     between (seq [self .pair, self .clauses]),
     hint (seq [mark toks "\x7b", mark toks "**", self .bitOr, self .clauses, mark toks "\x7d",
      refuse "dict unpacking cannot be used in dict comprehension"]),
     between (seq [self .named, self .clauses]),
     hint (misplacedFor toks self)]

def lambda : Parser :=
  let param := alt
    [seq [anyName toks, opt (seq [mark toks "=", self .expression])],
     seq [mark toks "**", anyName toks], seq [mark toks "*", opt (anyName toks)], mark toks "/"]
  seq [word toks "lambda", opt (seq [commaed toks param, opt (mark toks ",")]), mark toks ":",
    self .expression]

/-- The kind of what cannot be a target between two places. -/
def invalidTarget? : (fuel : Nat) → (i j : Nat) → Act (Option String)
  | 0, _, _ => return none
  | fuel + 1, i, j => do
    let comma := mark toks ","
    if i ≥ j then return none
    else if (← outcome comma (j - 1)).isSome then invalidTarget? fuel i (j - 1)
    else if ← spans (seq [self .starExpression, comma, self .starExpressions]) i j then
      let k ← self .starExpression i
      match ← invalidTarget? fuel i k with
      | some kind => return some kind
      | none => invalidTarget? fuel (k + 1) j
    else if (← outcome (mark toks "*") i).isSome then invalidTarget? fuel (i + 1) j
    else if ← spans (alt [self .tuple, self .group]) i j then
      invalidTarget? fuel (i + 1) (j - 1)
    else
      match ← kindOf toks self toks.size i j with
      | "name" | "attribute" => return none
      | "comparison" =>
        let k ← self .bitOr i
        if (← outcome (word toks "in") k).isSome then invalidTarget? fuel i k else return none
      | kind => return some kind

def misplacedTarget : Parser := fun i => do
  let i ← seq [opt (word toks "async"), word toks "for"] i
  let j ← self .starExpressions i
  match ← invalidTarget? toks self toks.size i j with
  | some kind => throwThe String ("cannot assign to " ++ kind)
  | none => failure

/-- After the word before what is searched, there is no other way to read. -/
def clause : Parser := alt
  [seq [opt (word toks "async"), word toks "for", self .targets, word toks "in",
    self .disjunction, repeated toks (seq [word toks "if", self .disjunction])],
   hint (misplacedTarget toks self)]

/-- What a rule reads. -/
def read : Form → Parser
  | .expressions => seq [commaed toks (self .expression), opt (mark toks ",")]
  | .expression => alt
      [hint (alt [missingComma toks self,
        seq [self .disjunction, word toks "if", self .disjunction,
          notAhead (alt [word toks "else", mark toks ":"]),
          refuse "expected 'else' after 'if' expression"],
        missingParentheses toks self]),
       conditional toks self, self .disjunction, self .lambda]
  | .plain => alt [conditional toks self, self .disjunction, self .lambda]
  | .lambda => lambda toks self
  | .named => alt
      [self .assignment, hint (misassigned toks self),
       seq [self .expression, notAhead (mark toks ":=")]]
  | .assignment => seq [anyName toks, mark toks ":=", self .expression]
  | .starExpressions => seq [commaed toks (self .starExpression), opt (mark toks ",")]
  | .starExpression => alt [seq [mark toks "*", self .bitOr], self .expression]
  | .starNamed => alt [seq [mark toks "*", self .bitOr], self .named]
  | .starNameds => seq [commaed toks (self .starNamed), opt (mark toks ",")]
  | .yielded => alt
      [seq [word toks "yield", word toks "from", self .expression],
       seq [word toks "yield", opt (self .starExpressions)]]
  | .disjunction => chain toks self .conjunction (word toks "or")
  | .conjunction => chain toks self .inversion (word toks "and")
  | .inversion => alt [seq [word toks "not", self .inversion], self .comparison]
  | .comparison => comparison toks self
  | .bitOr => chain toks self .bitXor (mark toks "|")
  | .bitXor => chain toks self .bitAnd (mark toks "^")
  | .bitAnd => chain toks self .shift (mark toks "&")
  | .shift => chain toks self .sum (marks toks ["<<", ">>"])
  | .sum => chain toks self .term (marks toks ["+", "-"])
  | .term => chain toks self .factor (marks toks ["*", "/", "//", "%", "@"])
  | .factor => alt [seq [marks toks ["+", "-", "~"], self .factor], self .power]
  | .power => seq [self .awaited, opt (seq [mark toks "**", self .factor])]
  | .awaited => alt [seq [word toks "await", self .primary], self .primary]
  | .primary => primary toks self
  | .atom => atom toks self
  | .tuple => seq [mark toks "(",
      opt (seq [self .starNamed, mark toks ",", opt (self .starNameds)]), mark toks ")"]
  | .group => group toks self
  | .generator => alt
      [seq [mark toks "(", unassigned toks self, self .clauses, mark toks ")"],
       hint (misplacedFor toks self)]
  | .braces => braces toks self
  | .pairs => alt [seq [mark toks "**", self .bitOr], self .pair]
  | .pair => seq [self .expression, mark toks ":", self .expression]
  | .clauses => seq [clause toks self, repeated toks (clause toks self)]
  | .arguments => alt
      [seq [self .args, opt (mark toks ","), ahead (mark toks ")")],
       hint (misplacedArguments toks self)]
  | .argument => alt [self .starred, seq [unassigned toks self, notAhead (mark toks "=")]]
  | .args => alt
      [seq [commaed toks (self .argument), opt (seq [mark toks ",", self .keywords])],
       self .keywords]
  | .keywords => alt
      [seq [commaed toks (self .keyword), mark toks ",", commaed toks (self .doubleKeyword)],
       commaed toks (self .keyword), commaed toks (self .doubleKeyword)]
  | .keyword => alt
      [hint (misplacedKeyword toks self), seq [anyName toks, mark toks "=", self .expression],
       self .starred]
  | .doubleKeyword => alt
      [hint (misplacedKeyword toks self), seq [anyName toks, mark toks "=", self .expression],
       seq [mark toks "**", self .expression]]
  | .starred => seq [mark toks "*", self .expression]
  | .targets => seq [commaed toks (self .target), opt (mark toks ",")]
  | .target => alt
      [seq [mark toks "*", notAhead (mark toks "*"), self .target],
       fun i => do
        let j ← self .primary i
        let kind ← kindOf toks self 1 i j
        if kind == "name" || kind == "attribute" then return j else failure,
       seq [mark toks "(", opt (self .targets), mark toks ")"]]

/-- Whether the outcome of a rule is remembered. -/
def isRemembered : Form → Bool
  | .expression | .starExpression | .disjunction | .conjunction | .inversion | .bitOr | .bitXor
  | .bitAnd | .shift | .sum | .term | .factor | .awaited | .primary | .arguments | .target => true
  | _ => false

/-- What a rule reads from a place on, `fuel` bounding how deep rules refer to each other. -/
def readWith : (fuel : Nat) → Form → Nat → Act Nat
  | 0, _, _ => failure
  | fuel + 1, f, i =>
    let p := read toks (readWith fuel) f
    if isRemembered f then remembered f p i else p i

end TapeMachine.Text.Literal
