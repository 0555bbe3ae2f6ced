import TapeMachine.Files.Access
import TapeMachine.Json.Dictionary
import TapeMachine.Json.Reader
import TapeMachine.Text.Lines

/-!
Settings: six fields that must be there with values of the right type, and any others. A file of
settings is laid over the defaults, its last value for a name being the one that counts.
-/
namespace TapeMachine

open Text (Letters)

/-- The settings that programs are run with. -/
structure Settings where
  /-- Entries of a state after which a machine seems to loop. -/
  limit : Int
  maxSteps : Int
  /-- Cells shown on each side of the head. -/
  window : Int
  logRuns : Bool
  folder : Letters
  stem : Letters
  deriving DecidableEq, Repr

inductive SettingsError where
  | missingFile (path : String)
  | file (e : FileError)
  | notJson (e : Json.SyntaxError)
  /-- A value that has no items to lay over the defaults. -/
  | notIterable (type : String)
  /-- An item that is no pair of a name and a value, nor anything with items. -/
  | notSequence (index : Nat)
  | notPair (index length : Nat)
  /-- A name that is a list or an object. -/
  | unhashable (type : String)
  | missingKey (key : String)
  | wrongType (key expected found : String)
  | notPositive (key : String) (value : Int)
  deriving DecidableEq, Repr

namespace SettingsError

def typeText (name : String) : String := "<class '" ++ name ++ "'>"

def message : SettingsError → String
  | missingFile path => "Configuration file not found at: " ++ path
  | file e => e.message
  | notJson e => e.message
  | notIterable type => "'" ++ type ++ "' object is not iterable"
  | notSequence index =>
    "cannot convert dictionary update sequence element #" ++ toString index ++ " to a sequence"
  | notPair index length =>
    "dictionary update sequence element #" ++ toString index ++ " has length " ++ toString length ++
      "; 2 is required"
  | unhashable type => "unhashable type: '" ++ type ++ "'"
  | missingKey key => "Missing required configuration key: " ++ key
  | wrongType key expected found =>
    "Config key '" ++ key ++ "' expected " ++ typeText expected ++ ", got " ++ typeText found ++ "."
  | notPositive key value =>
    "Config key '" ++ key ++ "' must be positive, got " ++ toString value ++ "."

end SettingsError

namespace Settings

open Json (Dictionary Entry Fields Key)

/-- The value of a field that has to be there and to be of a type. -/
def typed {α : Type} (type : String) (as? : Json → Option α) (fields : Fields) (key : String) :
    Except SettingsError α :=
  match fields.get? key with
  | none => .error (.missingKey key)
  | some v =>
    match as? v with
    | some a => .ok a
    | none => .error (.wrongType key type v.typeName)

/-- A whole number; a truth value is none. -/
def wholeNumber : Fields → String → Except SettingsError Int :=
  typed "int" fun
    | .int n => some n
    | _ => none

def truth : Fields → String → Except SettingsError Bool :=
  typed "bool" fun
    | .bool b => some b
    | _ => none

def words : Fields → String → Except SettingsError Letters :=
  typed "str" fun
    | .str s => some s
    | _ => none

def positive (key : String) (n : Int) : Except SettingsError Unit :=
  if n < 1 then .error (.notPositive key n) else .ok ()

/-- The settings in fields. Presence and types come first, in order, and only then the ranges. -/
def ofFields (fields : Fields) : Except SettingsError Settings := do
  let limit ← wholeNumber fields "threshold_inf_loop"
  let maxSteps ← wholeNumber fields "max_steps"
  let window ← wholeNumber fields "tape_window"
  let logRuns ← truth fields "log_runs"
  let folder ← words fields "output_directory"
  let stem ← words fields "log_file_prefix"
  positive "threshold_inf_loop" limit
  positive "max_steps" maxSteps
  return ⟨limit, maxSteps, window, logRuns, folder, stem⟩

def defaults : Fields :=
  [("threshold_inf_loop", .int 100), ("max_steps", .int 1000000), ("tape_window", .int 15),
    ("log_runs", .bool false), ("output_directory", .str "logs/"),
    ("log_file_prefix", .str "turing_")]

/-- The settings in a dictionary; only its texts name any. -/
def check (d : Dictionary) : Except SettingsError Settings := ofFields d.texts

/-- The name that a key is written as. -/
def nameOf : Json → Letters
  | .str s => s
  | v => v.compact

/-- The entry of a key and its value; lists and objects are no keys. -/
def entryOf (key value : Json) : Except SettingsError Entry :=
  match Key.of? key with
  | some k => .ok ⟨k, nameOf key, value⟩
  | none => .error (.unhashable key.typeName)

/-- The items of a value: of a list, the characters of a string, the names of an object. -/
def items? : Json → Option (List Json)
  | .arr vs => some vs
  | .str s => some (s.map fun l => .str [l])
  | .obj fields => some (fields.map fun (name, _) => .str name)
  | _ => none

/-- Lays pairs over a dictionary, counting them from `index`. -/
def overlayPairs (d : Dictionary) (index : Nat) : List Json → Except SettingsError Dictionary
  | [] => .ok d
  | v :: vs =>
    match items? v with
    | none => .error (.notSequence index)
    | some [key, value] => do
      let entry ← entryOf key value
      overlayPairs (d.put entry) (index + 1) vs
    | some others => .error (.notPair index others.length)

/-- Lays a value over a dictionary: an object, or anything whose items are pairs. -/
def overlay (d : Dictionary) (v : Json) : Except SettingsError Dictionary :=
  match v with
  | .obj fields => .ok (d.putAll (fields.map .ofField))
  | v =>
    match items? v with
    | some pairs => overlayPairs d 0 pairs
    | none => .error (.notIterable v.typeName)

/-- The dictionary of a text of settings, laid over the defaults and found valid. -/
def parse (text : List Char) : Except SettingsError Dictionary := do
  match Json.parse (String.ofList (Text.unifyBreaks text)) with
  | .error e => throw (.notJson e)
  | .ok v =>
    let d ← overlay (.ofFields defaults) v
    let _ ← check d
    return d

/-- Reads the settings in a file. -/
def read (files : Files) (path : String) : Except SettingsError Dictionary :=
  if !files.holds path then .error (.missingFile path)
  else match files.load path with
    | .ok text => parse text.toList
    | .error e => .error (.file e)

/-- Reads the settings in a file, with their keys as they are written. -/
def load (files : Files) (path : String) : Except SettingsError Fields :=
  (read files path).map Dictionary.fields

/-- Writes valid settings to a file, making its folder; invalid ones are refused before. What was
done before a failure stays. The settings are taken to have no whole number with more digits than a
program can write, and no nesting beyond its stack. -/
def store (files : Files) (fields : Fields) (path : String) : Files × Except SettingsError Unit :=
  match ofFields fields with
  | .error e => (files, .error e)
  | .ok _ =>
    let (files, made) := files.makeFolderFor path
    match made.bind fun _ => files.save path (Json.obj fields).pretty with
    | .error e => (files, .error (.file e))
    | .ok files => (files, .ok ())

/-- The files with valid settings written to one of them. -/
def save (files : Files) (fields : Fields) (path : String) : Except SettingsError Files :=
  match store files fields path with
  | (files, .ok ()) => .ok files
  | (_, .error e) => .error e

end Settings

end TapeMachine
