import TapeMachine.Batch
import TapeMachine.CommandLine.Arguments
import TapeMachine.Dialogue
import TapeMachine.Settings
import TapeMachine.Text.Markup

/-!
What a command does: it shows lines, asks questions, changes files, and ends one way or another.
What was shown and written before a failure stays.
-/
namespace TapeMachine

inductive CommandError where
  | diagnostic (d : Diagnostic)
  | file (e : FileError)
  | markup (e : Text.MarkupError)
  | journal (e : JournalError)
  | batch (e : BatchError)
  | bound (e : BoundError)
  | notJson (e : Json.SyntaxError)
  /-- A blank value where a path is needed. -/
  | blankPath
  deriving DecidableEq, Repr

def CommandError.message : CommandError → String
  | diagnostic d => d.text
  | file e => e.message
  | markup e => e.message
  | journal e => e.message
  | batch e => e.message
  | bound e => e.message
  | notJson e => e.message
  | blankPath => "expected str, bytes or os.PathLike object, not list"

inductive Ending where
  /-- All is done, and there is nothing to say about it. -/
  | done
  | exit (code : Nat)
  | failed (e : CommandError)
  deriving DecidableEq, Repr

/-- What is noticed of a command while it works. -/
inductive Happening where
  | shown (text : String)
  | asked (q : Question)
  deriving DecidableEq, Repr

/-- What a command has done so far. -/
structure Scene where
  happenings : List Happening
  files : Files
  deriving DecidableEq, Repr

namespace Scene

variable (scene : Scene)

/-- All text that was shown. -/
def shown : String :=
  String.join (scene.happenings.filterMap fun
    | .shown text => some text
    | .asked _ => none)

/-- All questions that were asked. -/
def asked : List Question :=
  scene.happenings.filterMap fun
    | .shown _ => none
    | .asked q => some q

/-- What happened before the first question beyond the answered ones, and that question. -/
def openQuestion? (answered : Nat) : List Happening → Option (List Happening × Question)
  | [] => none
  | .shown text :: hs =>
    (openQuestion? answered hs).map fun (before, q) => (.shown text :: before, q)
  | .asked q :: hs =>
    match answered with
    | 0 => some ([], q)
    | n + 1 => (openQuestion? n hs).map fun (before, r) => (.asked q :: before, r)

def happen (h : Happening) : Scene := { scene with happenings := scene.happenings ++ [h] }

end Scene

/-- A command, or a part of it; an ending breaks it off. -/
abbrev Act := ExceptT Ending (StateM Scene)

namespace Act

variable {α ε : Type}

/-- Performs a command on some files. -/
def perform (act : Act Unit) (files : Files) : Ending × Scene :=
  match act.run.run ⟨[], files⟩ with
  | (.ok (), scene) => (.done, scene)
  | (.error ending, scene) => (ending, scene)

/-- Breaks off at an error. -/
def attempt (fail : ε → CommandError) : Except ε α → Act α
  | .ok a => return a
  | .error e => throw (.failed (fail e))

/-- Shows a line as it is. -/
def say (line : String) : Act Unit := modify (·.happen (.shown (line ++ "\n")))

/-- Shows text as a terminal does. -/
def sayPlain (line : String) : Act Unit := say (Text.shown line)

/-- Shows marked-up text as a terminal does. -/
def sayMarked (line : String) : Act Unit := do
  say (← attempt .markup (Text.unmarked line))

def ask (q : Question) : Act Unit := modify (·.happen (.asked q))

def setFiles (files : Files) : Act Unit := modify fun scene => { scene with files := files }

/-- The source in a file; every break of a line is read as a line feed. -/
def source (path : String) : Act String := do
  let text ← attempt .file ((← get).files.load (Path.parse path).text)
  return String.ofList (Text.unifyBreaks text.toList)

/-- The arguments of a command; misuse ends it with status 2, asking for help with 0. -/
def arguments (r : Except UsageStop Arguments) : Act Arguments :=
  match r with
  | .ok a => return a
  | .error .helpWanted => throw (.exit 0)
  | .error .misuse => throw (.exit 2)

end Act

end TapeMachine
