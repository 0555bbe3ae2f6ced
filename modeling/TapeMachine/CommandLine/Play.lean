import TapeMachine.CommandLine.Scene
import TapeMachine.Listing
import TapeMachine.Text.Grouped

/-!
Playing a program: it is run to its end and reported on, or led through a dialogue. The libraries
can be listed instead.
-/
namespace TapeMachine.Play

/-- The options of the command, which plays one program. -/
def spec : CommandSpec where
  options :=
    [⟨"help", some 'h', .help, false⟩, ⟨"interactive", some 'i', .flag, false⟩,
      ⟨"libraries", none, .flag, false⟩, ⟨"config", none, .text, false⟩,
      ⟨"threshold", none, .number, false⟩, ⟨"max-steps", none, .number, false⟩,
      ⟨"verbose", some 'v', .flag, false⟩]
  takesOperand := true
  needsOperand := false

/-- The answers that a player gives, in order. -/
structure Player where
  choices : List Choice
  confirms : List Bool
  deriving DecidableEq, Repr

/-- The settings of a file, or the defaults where none is named; what is wrong with them is shown,
and ends the command with status 1. -/
def settings (path : Option String) : Act Settings := do
  let files := (← get).files
  let read : Except SettingsError Json.Dictionary := match path with
    | none | some "" => .ok (.ofFields Settings.defaults)
    | some path => Settings.read files path
  match read.bind Settings.check with
  | .ok s => return s
  | .error (.file e) => throw (.failed (.file e))
  | .error e =>
    if let .notJson f := e then
      if f.problem.isNesting then throw (.failed (.notJson f))
    Act.sayMarked ("[red]Error: " ++ e.message ++ "[/red]")
    throw (.exit 1)

/-- The bounds of a run: those given as arguments, whatever these are, or else the settings. -/
structure Bounds where
  limit : Bound
  maxSteps : Bound
  deriving DecidableEq, Repr

def bounds (s : Settings) (a : Arguments) : Bounds :=
  ⟨(a.bound? "threshold").getD s.limit, (a.bound? "max-steps").getD s.maxSteps⟩

/-- The program in a file. What is wrong with it is shown and ends the command with status 2;
remarks are shown. -/
def program (path : String) : Act Program := do
  match Program.build Catalog.all (← Act.source path) with
  | .error d =>
    Act.sayMarked ("[red]I found an error while parsing " ++ path ++ "![/red]")
    Act.sayPlain d.render
    throw (.exit 2)
  | .ok p =>
    for w in p.warnings do
      Act.sayMarked ("[yellow]\tWarning: " ++ w.text ++ "[/yellow]")
    return p

/-- What is said about a run: its result, and whether it was cut short. -/
def verdict (maxSteps : Bound) (r : Report) : List String :=
  let result := match r.status, r.value with
    | .undefined, _ | _, none => "Undefined"
    | _, some n => toString n
  ("After " ++ toString r.steps ++ " steps, the result is: " ++ result) ::
    match r.status with
    | .loop => ["Stopped: the machine looks stuck in an infinite loop."]
    | .timeout =>
      match maxSteps with
      | .number n => ["Stopped after reaching the step limit (" ++ Text.grouped n ++ ")."]
      | .blank => []
    | _ => []

/-- Runs a program to its end, reports on it, and files the report if the settings say so. -/
def toEnd (p : Program) (s : Settings) (b : Bounds) (name day : String) : Act Unit := do
  let report ← Act.attempt .bound (p.machine.reportWithin b.maxSteps b.limit)
  for line in verdict b.maxSteps report do
    Act.sayPlain line
  if s.logRuns then
    let (files, journal) := Journal.start (← get).files s.folder s.stem day
    Act.setFiles files
    let journal ← Act.attempt .journal journal
    let (files, result) := journal.file files [report.fields.put "program" (.str name)]
    Act.setFiles files
    Act.attempt .journal result

/-- Leads a program through a dialogue, its description above. -/
def inDialogue (p : Program) (s : Settings) (limit : Bound) (player : Player) : Act Unit := do
  if let some text := p.description then
    Act.sayMarked ("[bold]" ++ text ++ "[/bold]")
  let (events, failure) ← Act.attempt (.bound ∘ .fault)
    (p.machine.dialogueWithin limit player.confirms player.choices)
  for e in events do
    for line in e.lines s.window do
      Act.sayPlain line
    if let some q := e.question? then
      Act.ask q
  if let some e := failure then throw (.failed (.bound e))

def command (args : List String) (player : Player) (day : String) : Act Unit := do
  let a ← Act.arguments (spec.read args)
  if a.has "libraries" then
    for line in Catalog.all.listing do
      Act.sayPlain line
  else
    match a.operand with
    | none | some "" => throw (.exit 2)
    | some path =>
      let s ← settings (a.text? "config")
      let b := bounds s a
      let p ← program path
      if a.has "interactive" then inDialogue p s b.limit player
      else toEnd p s b (Path.parse path).name day
  throw (.exit 0)

end TapeMachine.Play
