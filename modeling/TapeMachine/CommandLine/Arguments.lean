import TapeMachine.Bound
import TapeMachine.Text.Blank
import TapeMachine.Text.Decimal

/-!
Arguments of a command. Long options may be cut short as long as they stay unique, values and joined
letters may follow an equals sign, and negative numbers are values.
-/
namespace TapeMachine

inductive OptionKind where
  /-- Without a value. -/
  | flag
  | text
  | number
  /-- Asks for the usage text. -/
  | help
  deriving DecidableEq, Repr

structure OptionSpec where
  name : String
  short : Option Char
  kind : OptionKind
  /-- Whether the command needs the option. -/
  needed : Bool
  deriving DecidableEq, Repr

/-- The options of a command, and whether it takes and needs an argument besides. -/
structure CommandSpec where
  options : List OptionSpec
  takesOperand : Bool
  needsOperand : Bool
  deriving DecidableEq, Repr

inductive OptionValue where
  | given
  | text (s : String)
  | number (n : Int)
  /-- Two dashes after an equals sign. -/
  | blank
  deriving DecidableEq, Repr

/-- Options with their values in the order given, and the argument that is no option. -/
structure Arguments where
  options : List (String × OptionValue)
  operand : Option String
  deriving DecidableEq, Repr

/-- Why arguments are not followed. -/
inductive UsageStop where
  | helpWanted
  | misuse
  deriving DecidableEq, Repr

namespace Arguments

variable (a : Arguments)

def empty : Arguments := ⟨[], none⟩

def has (name : String) : Bool := a.options.any fun (n, _) => n == name

/-- The last value given for an option. -/
def value? (name : String) : Option OptionValue :=
  (a.options.reverse.find? fun (n, _) => n == name).map Prod.snd

/-- The text given for an option, if it is not left blank. -/
def text? (name : String) : Option String :=
  match a.value? name with
  | some (.text s) => some s
  | _ => none

/-- The bound given by an option. -/
def bound? (name : String) : Option Bound :=
  match a.value? name with
  | some (.number n) => some (.number n)
  | some .blank => some .blank
  | _ => none

end Arguments

/-- The value of decimal digits in any script, which single underscores may separate. -/
def digitsValue? (value : Nat) (afterDigit : Bool) : List Char → Option Nat
  | [] => if afterDigit then some value else none
  | c :: cs =>
    match Text.decimalValue? c with
    | some d => digitsValue? (value * 10 + d) true cs
    | none => if c = '_' && afterDigit then digitsValue? value false cs else none

/-- How many digits a number can have that is read. -/
def mostDigits : Nat := 4300

def magnitude? (cs : List Char) : Option Nat :=
  if (cs.filter Text.isDecimal).length ≤ mostDigits then digitsValue? 0 false cs else none

/-- Blanks that may stand around a number: all but the four separators. -/
def isPadding (c : Char) : Bool := Text.isBlank c && !(0x1c ≤ c.toNat && c.toNat ≤ 0x1f)

/-- A whole number with a sign or without, between blanks. -/
def wholeNumber? (s : String) : Option Int :=
  let cs := ((s.toList.dropWhile isPadding).reverse.dropWhile isPadding).reverse
  match cs with
  | '-' :: cs => (magnitude? cs).map fun n => -n
  | '+' :: cs => (magnitude? cs).map fun n => n
  | cs => (magnitude? cs).map fun n => n

/-- A minus sign before digits, one point allowed among them if a digit follows it; a line feed may
end it. -/
def looksNegative : List Char → Bool
  | '-' :: cs =>
    let cs := if cs.getLast? = some '\n' then cs.dropLast else cs
    match cs.dropWhile Text.isDecimal with
    | [] => !cs.isEmpty
    | '.' :: fraction => !fraction.isEmpty && fraction.all Text.isDecimal
    | _ => false
  | _ => false

/-- An argument as it is understood. -/
inductive ArgumentForm where
  /-- Two dashes: only operands and values follow. -/
  | divider
  | plain (s : String)
  /-- An option with what is attached to it, after an equals sign or right after one letter. -/
  | known (o : OptionSpec) (isJoined : Bool) (value : Option (List Char))
  | unknown
  deriving Repr

namespace CommandSpec

variable (spec : CommandSpec)

def long? (name : List Char) : Option OptionSpec :=
  spec.options.find? fun o => o.name.toList == name

def short? (c : Char) : Option OptionSpec := spec.options.find? fun o => o.short == some c

/-- Cuts a text at its first equals sign. -/
def cutAtEquals (cs : List Char) : List Char × Option (List Char) :=
  let name := cs.takeWhile (· != '=')
  (name, (cs.drop name.length).tail?)

/-- Understands one argument; an abbreviation of several long options is misuse. -/
def form (s : String) : Except UsageStop ArgumentForm :=
  let other := fun (cs : List Char) =>
    if looksNegative cs || cs.contains ' ' then ArgumentForm.plain s else .unknown
  match s.toList with
  | ['-', '-'] => .ok .divider
  | '-' :: '-' :: cs =>
    let (name, value) := cutAtEquals cs
    match spec.long? name with
    | some o => .ok (.known o false value)
    | none =>
      match spec.options.filter fun o => name.isPrefixOf o.name.toList with
      | [] => .ok (other s.toList)
      | [o] => .ok (.known o false value)
      | _ => .error .misuse
  | '-' :: c :: cs =>
    match spec.short? c with
    | some o =>
      match cs with
      | [] => .ok (.known o true none)
      | ['='] => .ok (.known o false (some []))
      | '=' :: value | value => .ok (.known o true (some value))
    | none => .ok (other s.toList)
  | _ => .ok (.plain s)

/-- Understands arguments in order; after the divider none is an option. -/
def forms : List String → Except UsageStop (List ArgumentForm)
  | [] => .ok []
  | s :: rest => do
    match ← spec.form s with
    | .divider => return .divider :: rest.map .plain
    | f => return f :: (← forms rest)

/-- Reads the value of an option. -/
def valueOf (o : OptionSpec) (s : String) : Except UsageStop OptionValue :=
  match o.kind with
  | .number =>
    match wholeNumber? s with
    | some n => .ok (.number n)
    | none => .error .misuse
  | _ => .ok (.text s)

/-- Reads a value that is attached to an option; two dashes leave it blank. -/
def attachedValue (o : OptionSpec) (cs : List Char) : Except UsageStop OptionValue :=
  if cs = ['-', '-'] then .ok .blank else valueOf o (String.ofList cs)

/-- What a short option stands for with letters joined to it: more short options, or its value.
Unknown letters are misuse even when help is asked for. -/
def joined (o : OptionSpec) : List Char → Except UsageStop (List (String × OptionValue))
  | [] =>
    match o.kind with
    | .flag => .ok [(o.name, .given)]
    | .help => .error .helpWanted
    | _ => .error .misuse
  | c :: cs =>
    match o.kind with
    | .flag | .help =>
      match spec.short? c with
      | some next =>
        match joined next cs with
        | .ok more => if o.kind = .help then .error .helpWanted else .ok ((o.name, .given) :: more)
        | .error e => .error e
      | none => .error .misuse
    | _ => (attachedValue o (c :: cs)).map fun v => [(o.name, v)]

/-- What an option stands for with a value attached to it. -/
def attached (o : OptionSpec) (isJoined : Bool) (value : List Char) :
    Except UsageStop (List (String × OptionValue)) :=
  if isJoined then spec.joined o value
  else match o.kind with
    | .flag | .help => .error .misuse
    | _ => (attachedValue o value).map fun v => [(o.name, v)]

/-- Follows arguments in order; `atOperand` says that the last one was taken as the operand. Unknown
options, a second operand, and a divider away from the operand are misuse, which counts only once
all the rest is read. -/
def follow (a : Arguments) (misused atOperand : Bool) :
    List ArgumentForm → Except UsageStop Arguments
  | [] => if misused then .error .misuse else .ok a
  | .divider :: rest =>
    follow a (misused || !(atOperand || (spec.takesOperand && a.operand.isNone))) false rest
  | .unknown :: rest => follow a true false rest
  | .plain s :: rest =>
    if spec.takesOperand && a.operand.isNone then
      follow { a with operand := some s } misused true rest
    else follow a true false rest
  | .known o isJoined (some value) :: rest => do
    let more ← spec.attached o isJoined value
    follow { a with options := a.options ++ more } misused false rest
  | .known o _ none :: rest =>
    match o.kind, rest with
    | .help, _ => .error .helpWanted
    | .flag, rest => follow { a with options := a.options ++ [(o.name, .given)] } misused false rest
    | _, .plain s :: rest => do
      let v ← valueOf o s
      follow { a with options := a.options ++ [(o.name, v)] } misused false rest
    | _, _ => .error .misuse

/-- Reads the arguments of a command; what it needs has to be there. -/
def read (args : List String) : Except UsageStop Arguments := do
  let a ← spec.follow .empty false false (← spec.forms args)
  if spec.needsOperand && a.operand.isNone then throw .misuse
  if spec.options.any fun o => o.needed && !a.has o.name then throw .misuse
  return a

end CommandSpec

end TapeMachine
