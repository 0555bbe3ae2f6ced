import TapeMachine.Library
import TapeMachine.Machine
import TapeMachine.Note

/-!
Programs. The records of a text take effect one after the other: libraries put their rules into the
table when they are composed, and a later rule replaces an earlier one for its state and symbol.
-/
namespace TapeMachine

structure Program where
  source : String
  description : Option String
  composed : List Library
  warnings : List Warning
  machine : Machine
  deriving DecidableEq, Repr

/-- A program in the making. -/
structure Draft where
  description : Option String
  tape : List Bool
  initial : String
  finals : List String
  composed : List Library
  table : Table
  /-- The rules of the program itself, with their places. -/
  own : List (Rule Bool × Span)
  deriving DecidableEq, Repr

/-- Drops every `///`, from left to right. -/
def dropSlashes : List Char → List Char
  | '/' :: '/' :: '/' :: cs => dropSlashes cs
  | c :: cs => c :: dropSlashes cs
  | [] => []

/-- What a description says: its token without slashes and outer blanks. -/
def descriptionText (token : String) : String :=
  String.ofList (Text.trim (dropSlashes token.toList))

namespace Draft

def empty : Draft := ⟨none, [], "", [], [], [], []⟩

/-- What linking a part of a program reports, and the draft it leaves. -/
abbrev Linked := List Note × Except Diagnostic Draft

variable (source : String) (registry : Registry) (d : Draft)

/-- Composes the libraries that tokens name, up to the first unknown name. -/
def compose (d : Draft) : List Token → Linked
  | [] => ([], .ok d)
  | t :: ts =>
    match registry.find? t.text with
    | none =>
      ([], .error (.inSource source (.unknownLibrary t.text registry.names) t.span))
    | some library =>
      let (notes, result) := compose
        { d with
          composed := d.composed ++ [library]
          table := d.table.insertAll library.rules } ts
      (.composed library.name library.rules.length :: notes, result)

/-- The effect of one record. -/
def take (r : Record) : Linked :=
  let malformed : Linked := ([], .error (.inSource source (.malformed r.kind) r.span))
  match r.kind with
  | .description =>
    let text := descriptionText r.first.text
    if text.isEmpty then ([], .ok d)
    else ([.description text], .ok { d with description := some text })
  | .tape =>
    ([.tape r.bits],
      if r.bits.contains true then .ok { d with tape := r.bits }
      else .error (.inSource source .blankTape r.span))
  | .initialState =>
    match r.names with
    | [name] => ([.initialState name.text], .ok { d with initial := name.text })
    | _ => malformed
  | .finalStates =>
    let names := r.names.map Token.text
    ([.finalStates names], .ok { d with finals := names })
  | .compose => compose source registry d r.names
  | .rule =>
    match r.rule? with
    | some rule =>
      ([.rule rule],
        .ok { d with table := d.table.insert rule, own := d.own ++ [(rule, r.span)] })
    | none => malformed

/-- The effects of records in order, up to the first that is at fault. -/
def link (handled : List RecordKind) (d : Draft) : List Record → Linked
  | [] => ([], .ok d)
  | r :: rs =>
    if handled.contains r.kind then
      match take source registry d r with
      | (notes, .error e) => (notes, .error e)
      | (notes, .ok next) =>
        let (more, result) := link handled next rs
        (notes ++ more, result)
    else ([], .error (.inSource source (.unhandled r.kind) r.span))

/-- The remark on a rule that reaches into the inner states of a library. -/
def collision? (library : Library) (r : Rule Bool) : Option String :=
  if library.used.contains r.source && r.source != library.final then
    some ("Instruction " ++ r.text ++ " starts from state " ++ Text.quoted r.source ++
      ", used internally by library " ++ Text.quoted library.name)
  else if library.used.contains r.target && r.target != library.initial then
    some ("Instruction " ++ r.text ++ " jumps to state " ++ Text.quoted r.target ++
      ", used internally by library " ++ Text.quoted library.name)
  else none

/-- The remarks on each composed library in turn, in the order of the rules. -/
def collisions : List Warning :=
  d.composed.flatMap fun library =>
    d.own.filterMap fun (rule, span) =>
      (collision? library rule).map fun message => ⟨message, some span⟩

def toProgram : Program where
  source := source
  description := d.description
  composed := d.composed
  warnings := d.collisions
  machine := .load d.tape d.initial d.finals d.table

end Draft

namespace Program

/-- Builds a program from its text, with what is reported on the way; only the handled kinds of
records are taken care of. -/
def buildWith (handled : List RecordKind) (registry : Registry) (source : String) :
    List Note × Except Diagnostic Program :=
  match Reading.program.parse source with
  | .error e => ([.readFailed e, .buildFailed e], .error e)
  | .ok outline =>
    match Draft.link source registry handled .empty outline.records with
    | (notes, .error e) => (notes ++ [.buildFailed e], .error e)
    | (notes, .ok d) =>
      let program := d.toProgram source
      (notes ++ program.warnings.map fun w => .collision w.message, .ok program)

def build (registry : Registry) (source : String) : Except Diagnostic Program :=
  (buildWith RecordKind.all registry source).2

end Program

/-- Kinds of records that nothing takes care of, by name. -/
def unhandledKinds (handled : List RecordKind) : List String :=
  Names.sorted ((RecordKind.all.filter fun kind => !handled.contains kind).map RecordKind.name)

/-- What is wrong with a set of handled kinds; none when it is complete. -/
def handlerFault? (handled : List RecordKind) : Option String :=
  match unhandledKinds handled with
  | [] => none
  | missing => some ("Grammar records without a handler: " ++ Names.joined ", " missing)

end TapeMachine
