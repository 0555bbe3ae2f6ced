import TapeMachine.CommandLine.Inspect
import TapeMachine.CommandLine.Play
import TapeMachine.CommandLine.RunBatch
import Std.Time.Format

/-!
The program: `play`, `inspect` or `batch`, and the arguments of that command. Commands work on the
texts below the working folder and those that arguments name; what they changed is written back.
-/
namespace TapeMachine.Shell

/-- The text of a file; none if there is none, or if it is no text. -/
def readText? (path : String) : IO (Option String) := do
  try
    return some (← IO.FS.readFile path)
  catch _ =>
    return none

/-- Adds the texts in a folder and below; hidden folders are left out. -/
partial def gather (files : Files) (path : Path) : IO Files := do
  let mut files := files
  for entry in ← (← IO.FS.realPath path.text).readDir do
    let inner := path ++ [entry.fileName]
    if ← entry.path.isDir then
      unless entry.fileName.startsWith "." do
        files ← gather (files.addFolder inner) inner
    else if let some text ← readText? inner.text then
      files := files.write inner text
  return files

/-- The texts that a command may need. -/
def load (args : List String) : IO Files := do
  let mut files ← gather .empty []
  for arg in args do
    if let some text ← readText? arg then
      files := files.write (Path.parse arg).resolve text
  return files

/-- Writes back what a command changed. -/
def store (before after : Files) : IO Unit := do
  for folder in after.folders do
    unless before.isFolder folder do
      IO.FS.createDirAll folder.text
  for (path, text) in after.texts do
    unless before.read? path == some text do
      IO.FS.writeFile path.text text

def tell (happenings : List Happening) : IO Unit := do
  for h in happenings do
    if let .shown text := h then
      IO.print text

/-- Stores the files, and turns an ending into a status. -/
def finish (before : Files) (ending : Ending) (scene : Scene) : IO UInt32 := do
  store before scene.files
  match ending with
  | .done => return 0
  | .exit code => return code.toUInt32
  | .failed e =>
    IO.eprintln ("error: " ++ e.message)
    return 1

def perform (files : Files) (act : Act Unit) : IO UInt32 := do
  let (ending, scene) := act.perform files
  tell scene.happenings
  finish files ending scene

/-- Plays a program with the answers so far, and asks for one more as long as a question is open;
`told` happenings were shown before. -/
partial def play (files : Files) (args : List String) (day : String) (player : Play.Player)
    (told : Nat) : IO UInt32 := do
  let (ending, scene) := (Play.command args player day).perform files
  let answered := player.choices.length + player.confirms.length
  match Scene.openQuestion? answered scene.happenings with
  | none =>
    tell (scene.happenings.drop told)
    finish files ending scene
  | some (before, q) =>
    tell (before.drop told)
    IO.print q.text
    (← IO.getStdout).flush
    let line ← (← IO.getStdin).getLine
    if line.isEmpty then
      tell (scene.happenings.drop before.length)
      finish files ending scene
    else
      let word := Text.trimmed line
      let player := match q with
        | .choice => { player with choices := player.choices ++ [.ofWord word] }
        | .confirmation => { player with confirms := player.confirms ++ [word == "y"] }
      play files args day player before.length

/-- Today, by universal time. -/
def today : IO String := do
  let now ← Std.Time.Timestamp.now
  return (Std.Time.PlainDate.ofEpochDay now.toDaysSinceUnixEpoch).toSQLDateString

end TapeMachine.Shell

open TapeMachine in
def main (args : List String) : IO UInt32 := do
  let day ← Shell.today
  match args with
  | "play" :: args => Shell.play (← Shell.load args) args day ⟨[], []⟩ 0
  | "inspect" :: args => Shell.perform (← Shell.load args) (Inspect.command args)
  | "batch" :: args => Shell.perform (← Shell.load args) (RunBatch.command args day)
  | _ =>
    IO.eprintln "usage: tapemachine play|inspect|batch ARGUMENTS"
    return 2
