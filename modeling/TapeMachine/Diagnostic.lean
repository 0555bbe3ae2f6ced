import TapeMachine.Names
import TapeMachine.Source.Outline
import TapeMachine.Text.Blank
import TapeMachine.Text.Lines
import TapeMachine.Text.Quoted

/-! Diagnostics: what is wrong with a program, where, and the line that shows it. -/
namespace TapeMachine

/-- What a diagnostic complains about. -/
inductive Complaint where
  /-- The text goes on with something that may not come. -/
  | unexpected (expected : List String) (found : String)
  /-- A tape without a one. -/
  | blankTape
  | unknownLibrary (name : String) (known : List String)
  /-- A kind of record that nothing takes care of. -/
  | unhandled (kind : RecordKind)
  /-- A record that does not hold what its kind asks for. -/
  | malformed (kind : RecordKind)
  /-- A program that reads well and means nothing. -/
  | invalid (message : String)
  | other (message : String)
  deriving DecidableEq, Repr

namespace Complaint

def message : Complaint → String
  | unexpected [] found => "Unexpected " ++ found
  | unexpected [one] found => "Expected " ++ one ++ ", found " ++ found
  | unexpected several found =>
    "Expected one of " ++ Names.joined ", " several ++ ", found " ++ found
  | blankTape => "Expected at least a 1 in the tape"
  | unknownLibrary name known =>
    "Unknown library " ++ Text.quoted name ++ ", expected one of: " ++ Names.joined ", " known
  | unhandled kind => "Unhandled record: " ++ kind.name
  | malformed kind => "Malformed record: " ++ kind.name
  | invalid message => message
  | other message => message

end Complaint

/-- Appends the place that a message is about. -/
def Position.cite (p : Position) (message : String) : String :=
  message ++ " (line " ++ toString p.line ++ ", column " ++ toString p.column ++ ")"

def Span.describe (s : Span) : String :=
  let place := fun (p : Position) => toString p.line ++ ":" ++ toString p.column
  match s.stop with
  | some stop => "From line " ++ place s.start ++ " to " ++ place stop ++ ". Found:"
  | none => "At line " ++ place s.start ++ " Found:"

structure Diagnostic where
  complaint : Complaint
  span : Span
  /-- The line of the text that is shown. -/
  code : String
  deriving DecidableEq, Repr

namespace Diagnostic

variable (d : Diagnostic)

def message : String := d.complaint.message

/-- The message with its place. -/
def text : String := d.span.start.cite d.message

/-- How many carets mark the span: up to its end, or to the end of the line if it goes on. -/
def width : Nat :=
  match d.span.stop with
  | none => 1
  | some stop =>
    if stop.line = d.span.start.line then max 1 (stop.column - d.span.start.column).toNat
    else max 1 (d.code.length + 1 - d.span.start.column).toNat

def underline : String :=
  String.ofList (List.replicate (d.span.start.column - 1).toNat ' ' ++ List.replicate d.width '^')

/-- The span, the line, its carets and the message, each on a line. -/
def render : String :=
  Names.joined "\n" [d.span.describe, "\t" ++ d.code, "\t" ++ d.underline, d.message]

/-- A diagnostic with the line of the source where its span starts. -/
def inSource (source : String) (complaint : Complaint) (span : Span) : Diagnostic :=
  ⟨complaint, span, Text.line source span.start.line.toNat⟩

/-- A refused text as a diagnostic: the names of what may come, sorted, and what was found. -/
def ofRefusal (source : String) (r : Refusal) : Diagnostic :=
  let found := match r.found with
    | .text cs => Text.quoted (String.ofList cs)
    | .endOfInput => "end of input"
  inSource source (.unexpected (Names.sorted (r.expected.map Terminal.readable)) found) r.span

end Diagnostic

/-- A remark on a program that builds all the same. -/
structure Warning where
  message : String
  span : Option Span
  deriving DecidableEq, Repr

def Warning.text (w : Warning) : String :=
  match w.span with
  | some span => span.start.cite w.message
  | none => w.message

/-- Reads a text as a program, a rule, or a block of rules. -/
def Reading.parse (r : Reading) (source : String) : Except Diagnostic Outline :=
  match r.tokens source.toList with
  | .ok tokens => .ok (.ofTokens r tokens)
  | .error refusal => .error (.ofRefusal source refusal)

/-- The rules of records, which are all rules. -/
def rulesOf (source : String) (records : List Record) : Except Diagnostic (List (Rule Bool)) :=
  records.mapM fun r =>
    match r.rule? with
    | some rule => .ok rule
    | none => .error (.inSource source (.malformed r.kind) r.span)

/-- Reads one rule; blanks around it do not count. -/
def Rule.parse (text : String) : Except Diagnostic (Rule Bool) := do
  let source := Text.trimmed text
  let outline ← Reading.rule.parse source
  match ← rulesOf source outline.records with
  | [rule] => return rule
  | _ => throw (.inSource source (.malformed .rule) ⟨.start, none⟩)

/-- Reads rules with a semicolon after each. -/
def Rule.parseBlock (text : String) : Except Diagnostic (List (Rule Bool)) := do
  let outline ← Reading.block.parse text
  rulesOf text outline.records

end TapeMachine
