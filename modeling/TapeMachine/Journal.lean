import TapeMachine.Files.Access
import TapeMachine.Json.Writer
import TapeMachine.Run

/-!
Journals: a line of JSON for each run, appended to the files of a day. There is a main file, and one
for each way in which runs end.
-/
namespace TapeMachine

open Json (Fields)
open Text (Letters)

structure Journal where
  folder : Letters
  stem : Letters
  day : String
  deriving DecidableEq, Repr

/-- The files of a journal. -/
inductive Volume where
  | main
  | halting
  | undefined
  | nonHalting
  deriving DecidableEq, Repr

inductive JournalError where
  | file (e : FileError)
  /-- An entry whose status is a list or an object. -/
  | unhashable (type : String)
  deriving DecidableEq, Repr

def JournalError.message : JournalError → String
  | file e => e.message
  | unhashable type => "unhashable type: '" ++ type ++ "'"

namespace Journal

/-- Opens a journal, making its folder. -/
def start (files : Files) (folder stem : Letters) (day : String) :
    Files × Except JournalError Journal :=
  let (files, made) := files.makeFolders (folder.length + 1) folder
  (files, (made.map fun _ => ⟨folder, stem, day⟩).mapError .file)

variable (j : Journal)

def fileName : Volume → Letters
  | .main => j.stem ++ Letters.ofString (j.day ++ ".jsonl")
  | .halting => "halting_" ++ j.day ++ ".jsonl"
  | .undefined => "undefined_" ++ j.day ++ ".jsonl"
  | .nonHalting => "non_halting_" ++ j.day ++ ".jsonl"

def path (v : Volume) : Letters := PathText.join j.folder (j.fileName v)

/-- Entries as lines. They are taken to have no whole number with more digits than a program can
write, and no nesting beyond its stack. -/
def linesOf (entries : List Fields) : String :=
  String.join (entries.map fun e => (Json.obj e).compact ++ "\n")

/-- Appends entries to a file of the journal, which is created even for none. -/
def add (files : Files) (v : Volume) (entries : List Fields) : Except JournalError Files :=
  (files.extend (j.path v) (linesOf entries)).mapError .file

/-- The entries whose status has a name. -/
def withStatus (name : String) (entries : List Fields) : List Fields :=
  entries.filter fun e =>
    match e.get? "status" with
    | some (.str s) => s == Letters.ofString name
    | _ => false

/-- The status of the first entry that cannot be filed under it. -/
def badStatus? (entries : List Fields) : Option String :=
  entries.findSome? fun e =>
    match e.get? "status" with
    | some (.arr vs) => some (Json.arr vs).typeName
    | some (.obj fs) => some (Json.obj fs).typeName
    | _ => none

/-- Appends entries to a file unless there are none. -/
def addSome (files : Files) (v : Volume) (entries : List Fields) : Except JournalError Files :=
  if entries.isEmpty then .ok files else j.add files v entries

/-- Files as they are after some writing, and whether it failed. -/
abbrev Filing := Files × Except JournalError Unit

/-- Goes on writing unless it failed before; what was written before a failure stays. -/
def Filing.andThen (s : Filing) (next : Files → Except JournalError Files) : Filing :=
  match s with
  | (files, .ok ()) =>
    match next files with
    | .ok files => (files, .ok ())
    | .error e => (files, .error e)
  | failed => failed

/-- Refuses entries that cannot be filed under their status. -/
def checked (entries : List Fields) (files : Files) : Except JournalError Files :=
  match badStatus? entries with
  | some type => .error (.unhashable type)
  | none => .ok files

/-- Appends entries to the main file, then to the files of their status: finished runs, undefined
ones, and at last those that seem to loop with those that ran out of steps. -/
def file (files : Files) (entries : List Fields) : Filing :=
  let chosen := fun (s : Status) => withStatus s.name entries
  Filing.andThen (files, .ok ()) (fun fs => j.add fs .main entries)
    |>.andThen (checked entries)
    |>.andThen (fun fs => j.addSome fs .halting (chosen .finished))
    |>.andThen (fun fs => j.addSome fs .undefined (chosen .undefined))
    |>.andThen (fun fs => j.addSome fs .nonHalting (chosen .loop ++ chosen .timeout))

end Journal

/-- A report as an entry of a journal. -/
def Report.fields (r : Report) : Fields :=
  [("steps_taken", .int r.steps), ("status", .str r.status.name),
    ("value", match r.value with
      | some n => .int n
      | none => .null),
    ("values", .arr (r.values.map fun (n : Nat) => .int n)), ("state", .str r.state)]

end TapeMachine
