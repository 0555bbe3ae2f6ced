import TapeMachine.Bound
import TapeMachine.Journal
import TapeMachine.Json.Reader
import TapeMachine.Program
import TapeMachine.Text.Lines

/-!
Batches: the programs of a folder are run in portions. After each portion its entries go to a
journal and the names done so far to a checkpoint, so that a later batch runs only what is left.
-/
namespace TapeMachine

open Json (Fields)
open Text (Letters)

structure Batch where
  folder : String
  outputName : String
  size : Bound
  maxSteps : Bound
  limit : Bound
  root : String
  deriving DecidableEq, Repr

inductive BatchError where
  | journal (e : JournalError)
  | file (e : FileError)
  | bound (e : BoundError)
  | notJson (e : Json.SyntaxError)
  | sizeZero
  | sizeBlank
  /-- A checkpoint that is no object. -/
  | noFields (type : String)
  /-- Names done that cannot be searched. -/
  | notSearchable (type : String)
  /-- Names done that cannot be added to. -/
  | notExtensible (type : String)
  deriving DecidableEq, Repr

def BatchError.message : BatchError → String
  | journal e => e.message
  | file e => e.message
  | bound e => e.message
  | notJson e => e.message
  | sizeZero => "range() arg 3 must not be zero"
  | sizeBlank => "'list' object cannot be interpreted as an integer"
  | noFields type => "'" ++ type ++ "' object has no attribute 'get'"
  | notSearchable type => "argument of type '" ++ type ++ "' is not iterable"
  | notExtensible type => "'" ++ type ++ "' object has no attribute 'append'"

/-- The outcome of a program as fields: a report on its run, or what is wrong with its text. -/
def runSource (source : String) (maxSteps limit : Bound) : Except BoundError Fields :=
  match Program.build Catalog.all source with
  | .error d => .ok [("status", .str "error"), ("error", .str d.text)]
  | .ok p => (p.machine.reportWithin maxSteps limit).map Report.fields

/-- Cuts a list into portions of `size` items, the last one being what is left. -/
def portions {α : Type} (size : Nat) : List α → List (List α)
  | [] => []
  | x :: xs => (x :: xs.take (size - 1)) :: portions size (xs.drop (size - 1))
termination_by xs => xs.length
decreasing_by simp only [List.length_drop, List.length_cons]; omega

theorem flatten_portions {α : Type} (size : Nat) (xs : List α) :
    (portions size xs).flatten = xs := by
  fun_induction portions size xs with
  | case1 => rfl
  | case2 x xs ih => simp [ih]

/-- Whether a text has another one inside. -/
def hasInfix {α : Type} [BEq α] (part : List α) : List α → Bool
  | [] => part.isEmpty
  | c :: cs => part.isPrefixOf (c :: cs) || hasInfix part cs

namespace Batch

variable (b : Batch)

/-- The folder of the programs. -/
def home : Path := .parse b.folder

/-- The folder of results: named like that of the programs. -/
def results : Path := Path.parse b.root ++ [b.home.name].filter (· != "")

def checkpoint : Path := Path.join b.results (.parse (b.outputName ++ "_checkpoint.json"))

/-- Names of the programs in the folder, in code point order; none if there is no such folder. -/
def programs (files : Files) : Except BatchError (List String) :=
  match files.find b.home.text with
  | .ok (.folder p) =>
    .ok ((files.namesIn p).filter fun name => ['.', 't', 'm'].isSuffixOf name.toList)
  | .error (.tooLong path) => .error (.file (.tooLong path))
  | _ => .ok []

/-- The value that a checkpoint has for the names done; an empty list where nothing is kept. -/
def completed (files : Files) : Except BatchError Json :=
  let path := b.checkpoint.text
  match files.find path, files.load path with
  | .error (.tooLong _), .error e | .ok (.folder _), .error e => .error (.file e)
  | _, .error _ => .ok (.arr [])
  | _, .ok text =>
    match Json.parse (String.ofList (Text.unifyBreaks text.toList)) with
    | .error e => .error (.notJson e)
    | .ok (.obj fields) => .ok ((Json.Fields.get? "completed" fields).getD (.arr []))
    | .ok v => .error (.noFields v.typeName)

/-- Whether a name is among those done. -/
def isDone (done : Json) (name : String) : Except BatchError Bool :=
  match done with
  | .arr vs => .ok (vs.any fun
    | .str s => s == Letters.ofString name
    | _ => false)
  | .obj fields => .ok (fields.any fun (n, _) => n == Letters.ofString name)
  | .str s => .ok (hasInfix (Letters.ofString name) s)
  | v => .error (.notSearchable v.typeName)

/-- The programs that are left to run. -/
def pending (done : Json) : List String → Except BatchError (List String)
  | [] => .ok []
  | name :: names => do
    let isDone ← isDone done name
    let rest ← pending done names
    return if isDone then rest else name :: rest

/-- The entry of one program. -/
def entry (files : Files) (name : String) : Except BatchError Fields :=
  match files.load (b.home ++ [name]).text with
  | .error e => .error (.file e)
  | .ok text =>
    match runSource (String.ofList (Text.unifyBreaks text.toList)) b.maxSteps b.limit with
    | .ok fields => .ok (("program", .str name) :: fields)
    | .error e => .error (.bound e)

/-- The names done with more at the end; only a list can be added to. -/
def extended (done : Json) (names : List String) : Except BatchError (List Json) :=
  match done with
  | .arr vs => .ok (vs ++ names.map fun name => .str name)
  | v => .error (.notExtensible v.typeName)

/-- Files as they are after some portions, and the entries of these. -/
abbrev Progress := Files × Except BatchError (List Fields)

/-- The entries of a portion, and the names done after it. That these can be added to counts once
the first program is run. -/
def portion (files : Files) (done : Json) (names : List String) :
    Except BatchError (List Fields × List Json) := do
  let first ← (names.take 1).mapM (b.entry files)
  let all ← extended done names
  let others ← (names.drop 1).mapM (b.entry files)
  return (first ++ others, all)

/-- Runs portions in turn: entries to the journal, then names to the checkpoint. -/
def runPortions (j : Journal) (files : Files) (done : Json) : List (List String) → Progress
  | [] => (files, .ok [])
  | names :: more =>
    match b.portion files done names with
    | .error e => (files, .error e)
    | .ok (entries, all) =>
      match j.file files entries with
      | (files, .error e) => (files, .error (.journal e))
      | (files, .ok ()) =>
        match files.save b.checkpoint.text (Json.obj [("completed", .arr all)]).pretty with
        | .error e => (files, .error (.file e))
        | .ok files =>
          match runPortions j files (.arr all) more with
          | (files, .ok rest) => (files, .ok (entries ++ rest))
          | (files, .error e) => (files, .error e)

/-- What is left to run, in portions; a negative size makes none. -/
def plan (files : Files) : Except BatchError (Json × List (List String)) := do
  let programs ← b.programs files
  let done ← b.completed files
  let names ← pending done programs
  match b.size with
  | .blank => throw .sizeBlank
  | .number n =>
    if n = 0 then throw .sizeZero
    return (done, if n < 0 then [] else portions n.toNat names)

/-- Runs the programs that no earlier batch has run. -/
def run (day : String) (files : Files) : Progress :=
  match files.makePath (b.results.length + 2) b.results with
  | (files, .error e) => (files, .error (.file e))
  | (files, .ok ()) =>
    match Journal.start files b.results.text (b.outputName ++ "_") day with
    | (files, .error e) => (files, .error (.journal e))
    | (files, .ok j) =>
      match b.plan files with
      | .error e => (files, .error e)
      | .ok (done, work) => b.runPortions j files done work

end Batch

end TapeMachine
