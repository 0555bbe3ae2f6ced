import TapeMachine.Files.Basic
import TapeMachine.Text.Quoted

/-!
Files by the texts of their paths. A path is walked part by part, so a double dot leads up only from
a folder that is there; messages quote the path as it was given.
-/
namespace TapeMachine

open Text (Letter Letters)

inductive FileError where
  | missing (path : String)
  /-- Something on the way, or before a slash at the end, is no folder. -/
  | notFolder (path : String)
  | isFolder (path : String)
  | taken (path : String)
  | tooLong (path : String)
  | nullByte
  /-- Halves of code units, the first of them given, from one index to another. -/
  | unencodable (unit first last : Nat)
  deriving DecidableEq, Repr

def FileError.message : FileError → String
  | missing path => "[Errno 2] No such file or directory: " ++ Text.quoted path
  | notFolder path => "[Errno 20] Not a directory: " ++ Text.quoted path
  | isFolder path => "[Errno 21] Is a directory: " ++ Text.quoted path
  | taken path => "[Errno 17] File exists: " ++ Text.quoted path
  | tooLong path => "[Errno 36] File name too long: " ++ Text.quoted path
  | nullByte => "embedded null byte"
  | unencodable unit first last =>
    let place :=
      if first = last then
        "character '" ++ String.ofList (Text.escapePoint unit) ++ "' in position " ++ toString first
      else "characters in position " ++ toString first ++ "-" ++ toString last
    "'utf-8' codec can't encode " ++ place ++ ": surrogates not allowed"

/-- Whether an error is about a text that can be no path at all. -/
def FileError.isNoPath : FileError → Bool
  | nullByte | unencodable .. => true
  | _ => false

/-- Whether a half stands for a byte that no character begins with. -/
def standsForByte (unit : Nat) : Bool := 0xdc80 ≤ unit && unit ≤ 0xdcff

/-- Refuses the halves in a text, whose first letter has an index. -/
def refuseHalves (index : Nat) : Letters → Except FileError Unit
  | [] => .ok ()
  | .char _ :: ls => refuseHalves (index + 1) ls
  | .half unit :: ls =>
    if standsForByte unit then refuseHalves (index + 1) ls
    else
      let more := ls.takeWhile fun
        | .half _ => true
        | .char _ => false
      .error (.unencodable unit index (index + more.length))

def byteCount (s : String) : Nat := s.utf8ByteSize

/-- The most bytes that a part of a path can have. -/
def longestPart : Nat := 255

/-- The least bytes that are too many for a path. -/
def pathBound : Nat := 4096

/-- A path ready to be walked: as it was given, from where, and by which parts. -/
structure Route where
  given : String
  start : Path
  parts : List String
  /-- Whether a slash at the end asks for a folder. -/
  toFolder : Bool
  deriving DecidableEq, Repr

/-- The route that a text describes, if it can be a path. -/
def Route.of (p : Letters) : Except FileError Route := do
  refuseHalves 0 p
  let cs := p.chars
  if cs.contains '\x00' then throw .nullByte
  if cs.isEmpty then throw (.missing "")
  let given := String.ofList cs
  if byteCount given ≥ pathBound then throw (.tooLong given)
  return ⟨given, if cs.head? = some '/' then ["/"] else [], Path.steps cs, cs.getLast? = some '/'⟩

namespace Files

variable (files : Files)

/-- Walks from a folder; `given` is the path as it was given. -/
def walk (given : String) (here : Path) : List String → Except FileError Spot
  | [] => .ok (.folder here)
  | part :: parts =>
    if part = "." then walk given here parts
    else if part = ".." then
      walk given (if here.all (· == "..") then here ++ [".."] else here.parent) parts
    else if byteCount part > longestPart then .error (.tooLong given)
    else
      match files.spot (here ++ [part]), parts with
      | .folder next, parts => walk given next parts
      | found, [] => .ok found
      | .text .., _ => .error (.notFolder given)
      | .free _, _ => .error (.missing given)

/-- What is at a path. -/
def find (p : Letters) : Except FileError Spot := do
  let r ← Route.of p
  files.walk r.given r.start (r.parts ++ if r.toFolder then ["."] else [])

/-- Whether there is a file or a folder at a path. -/
def holds (p : Letters) : Bool :=
  match files.find p with
  | .ok (.folder _) | .ok (.text ..) => true
  | _ => false

def holdsFolder (p : Letters) : Bool :=
  match files.find p with
  | .ok (.folder _) => true
  | _ => false

/-- The text of a file that has to be there. -/
def load (p : Letters) : Except FileError String := do
  match ← files.find p with
  | .text _ text => return text
  | .folder _ => throw (.isFolder p.text)
  | .free _ => throw (.missing p.text)

/-- Where a file is written that a path names; a slash at the end is for folders alone. -/
def target (p : Letters) : Except FileError Path := do
  let r ← Route.of p
  match ← files.walk r.given r.start (if r.toFolder then r.parts.dropLast else r.parts) with
  | .folder _ => throw (.isFolder r.given)
  | .text path _ => if r.toFolder then throw (.notFolder r.given) else return path
  | .free path => if r.toFolder then throw (.missing r.given) else return path

/-- Writes a text to the file that a path names. -/
def save (p : Letters) (text : String) : Except FileError Files :=
  (files.target p).map fun path => files.write path text

/-- Adds a text to the file that a path names. -/
def extend (p : Letters) (text : String) : Except FileError Files :=
  (files.target p).map fun path => files.append path text

/-- Makes one folder, within one that is there. -/
def makeFolder (p : Letters) : Except FileError Files := do
  let r ← Route.of p
  match ← files.walk r.given r.start r.parts with
  | .free path => return files.addFolder path
  | _ => throw (.taken r.given)

/-- Files after a change, and whether it failed; what was done before a failure stays. -/
abbrev Change := Files × Except FileError Unit

/-- Makes a folder unless it is there. -/
def ensureFolder (p : Letters) : Change :=
  match files.makeFolder p with
  | .ok files => (files, .ok ())
  | .error e => (files, if !e.isNoPath && files.holdsFolder p then .ok () else .error e)

/-- Makes a folder and those that lead to it, where they are missing. -/
def makeFolders (files : Files) : (fuel : Nat) → Letters → Change
  | 0, _ => (files, .ok ())
  | fuel + 1, p =>
    let (head, tail) := match PathText.split p with
      | (head, []) => PathText.split head
      | parts => parts
    if !head.isEmpty && !tail.isEmpty && !files.holds head then
      match makeFolders files fuel head with
      | (files, .ok ()) | (files, .error (.taken _)) =>
        if tail = [.char '.'] then (files, .ok ()) else files.ensureFolder p
      | failed => failed
    else files.ensureFolder p

/-- Makes the folder that a file is in, if its path names one. -/
def makeFolderFor (p : Letters) : Change :=
  let folder := (PathText.split p).1
  if folder.isEmpty then (files, .ok ()) else files.makeFolders p.length folder

/-- Makes a folder and its parents, these only once it turns out that they are missing. -/
def makePath (files : Files) : (fuel : Nat) → Path → Change
  | 0, _ => (files, .ok ())
  | fuel + 1, p =>
    match files.makeFolder p.text with
    | .error (.missing _) =>
      if p.parent = p then files.ensureFolder p.text
      else
        match makePath files fuel p.parent with
        | (files, .ok ()) => files.ensureFolder p.text
        | failed => failed
    | _ => files.ensureFolder p.text

end Files

end TapeMachine
