import TapeMachine.Text.Literal
import TapeMachine.Text.Shown
import TapeMachine.Text.Style

/-!
Marked-up text as a terminal without colours shows it. Tags in brackets disappear, a closing tag has
to mean the same style as an open one, and a backslash keeps the bracket after it.
-/
namespace TapeMachine.Text

inductive MarkupError where
  /-- A closing tag that closes nothing, and where it stands. -/
  | unopened (tag : String) (index : Nat)
  | nothingOpen (index : Nat)
  /-- An action whose values are not written right. -/
  | badAction (values given fault : String)
  | emptyNumber
  deriving DecidableEq, Repr

def MarkupError.message : MarkupError → String
  | unopened tag index =>
    "closing tag '" ++ tag ++ "' at position " ++ toString index ++ " doesn't match any open tag"
  | nothingOpen index =>
    "closing tag '[/]' at position " ++ toString index ++ " has nothing to close"
  | badAction values given fault =>
    "error parsing " ++ quoted values ++ " in " ++ quoted given ++ "; " ++ fault
  | emptyNumber => "invalid literal for int() with base 10: ''"

/-- Characters that the inside of a tag may begin with. -/
def opensTag (c : Char) : Bool := ('a' ≤ c && c ≤ 'z') || c == '#' || c == '/' || c == '@'

/-- The inside of the tag that a text begins with, between its brackets. -/
def tag? : List Char → Option (List Char)
  | '[' :: c :: cs =>
    let body := cs.takeWhile fun d => d != ']' && d != '['
    if opensTag c && (cs.drop body.length).head? = some ']' then some (c :: body) else none
  | _ => none

inductive Piece where
  | plain (cs : List Char)
  /-- The inside of a tag, and the index of its bracket. -/
  | tag (body : List Char) (index : Nat)
  deriving DecidableEq, Repr

/-- Cuts a text into plain pieces and tags. Of the backslashes before a tag each pair stands for
one, and an odd one keeps the tag as text. What is plain so far is in `run`, read backwards. -/
def pieces : (fuel : Nat) → (index : Nat) → (run : List Char) → List Char → List Piece
  | 0, _, run, _ | _, _, run, [] => [.plain run.reverse]
  | fuel + 1, index, run, c :: cs =>
    let slashes := (c :: cs).takeWhile (· == '\\')
    let rest := (c :: cs).drop slashes.length
    match tag? rest with
    | some body =>
      let size := body.length + 2
      let start := index + slashes.length
      let kept := List.replicate (slashes.length / 2) '\\'
      let last := if slashes.length % 2 = 1 then Piece.plain (rest.take size) else .tag body start
      .plain run.reverse :: .plain kept :: last :: pieces fuel (start + size) [] (rest.drop size)
    | none =>
      if slashes.isEmpty then pieces fuel (index + 1) (c :: run) cs
      else pieces fuel (index + slashes.length) (slashes ++ run) rest

/-- Lets each backslash right before a bracket disappear. -/
def unescape : List Char → List Char
  | '\\' :: '[' :: cs => '[' :: unescape cs
  | c :: cs => c :: unescape cs
  | [] => []

/-- A tag that is open: the normal form of its style, and what follows its equals sign. -/
structure OpenTag where
  style : String
  values : Option (List Char)
  deriving DecidableEq, Repr

namespace OpenTag

variable (t : OpenTag)

def isAction : Bool := t.style.toList.head? == some '@'

/-- The style that a tag gives to its text, with all that is written in it. -/
def fullStyle : List Char :=
  match t.values with
  | some values => t.style.toList ++ ' ' :: values
  | none => t.style.toList

end OpenTag

/-- What comes before the first equals sign, and what comes after it. -/
def splitTag (body : List Char) : List Char × Option (List Char) :=
  let name := body.takeWhile (· != '=')
  (name, (body.drop name.length).tail?)

def styleOf (cs : List Char) : Except MarkupError String :=
  (Style.normal cs).mapError fun _ => .emptyNumber

/-- The values of an action: those in brackets after a name, none for a name alone, or all. -/
def actionValues (cs : List Char) : List Char :=
  match cs.dropWhile fun c => isWordChar c || c == '.' with
  | [] => ['(', ')']
  | '(' :: rest =>
    if rest.getLast? = some ')' && !rest.contains '\n' then '(' :: rest else cs
  | _ => cs

/-- Refuses an action that is closed, if its values are no literal. -/
def checkAction (t : OpenTag) : Except MarkupError Unit :=
  let given := t.values.getD []
  if t.isAction && !given.isEmpty then
    let values := actionValues (trim given)
    match Literal.fault? values with
    | some fault => .error (.badAction (String.ofList values) (String.ofList given) fault)
    | none => .ok ()
  else .ok ()

/-- Takes the innermost open tag with a style away. -/
def close? (style : String) : List OpenTag → Option (OpenTag × List OpenTag)
  | [] => none
  | t :: ts =>
    if t.style = style then some (t, ts) else (close? style ts).map fun (u, us) => (u, t :: us)

/-- The tag that a closing tag closes, and what stays open. -/
def closed (opened : List OpenTag) (body : List Char) (index : Nat) :
    Except MarkupError (OpenTag × List OpenTag) := do
  let name := trim (splitTag body).1
  if name.isEmpty then
    match opened with
    | t :: ts => return (t, ts)
    | [] => throw (.nothingOpen index)
  else
    match close? (← styleOf name) opened with
    | some found => return found
    | none => throw (.unopened (String.ofList ('[' :: '/' :: (body ++ [']']))) index)

/-- Text as it remains of pieces, and the styles given to it. -/
structure Remains where
  text : List Char
  styles : List (List Char)
  deriving DecidableEq, Repr

/-- What remains of pieces when some tags are open, the innermost first. -/
def unmark (opened : List OpenTag) : List Piece → Except MarkupError Remains
  | [] => .ok ⟨[], opened.map OpenTag.fullStyle⟩
  | .plain cs :: more => do
    let r ← unmark opened more
    return { r with text := rendered (unescape cs) ++ r.text }
  | .tag ('/' :: body) index :: more => do
    let (t, others) ← closed opened body index
    checkAction t
    let r ← unmark others more
    return if t.isAction then r else { r with styles := t.fullStyle :: r.styles }
  | .tag body _ :: more => do
    let (name, values) := splitTag body
    unmark (⟨← styleOf name, values⟩ :: opened) more

/-- A marked-up text as it is shown. -/
def unmarked (s : String) : Except MarkupError String :=
  if s.toList.contains '[' then do
    let r ← unmark [] (pieces (s.length + 1) 0 [] s.toList)
    let _ ← r.styles.mapM styleOf
    return String.ofList (expandTabs 0 [] r.text)
  else .ok (shown s)

end TapeMachine.Text
