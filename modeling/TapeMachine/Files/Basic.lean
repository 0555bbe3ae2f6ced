import TapeMachine.Files.Path

/-! Text files in folders, as a value that operations change. -/
namespace TapeMachine

/-- Texts by path, in the order they were created, and the folders made for them. Paths are without
dots, but for double ones at their start. -/
structure Files where
  texts : List (Path × String)
  folders : List Path
  deriving DecidableEq, Repr

/-- What is found at a path. -/
inductive Spot where
  | folder (path : Path)
  | text (path : Path) (text : String)
  | free (path : Path)
  deriving DecidableEq, Repr

namespace Files

def empty : Files := ⟨[], []⟩

variable (files : Files)

/-- Puts a text at a path, in the place of the one that is there. -/
def putText (path : Path) (text : String) : List (Path × String) → List (Path × String)
  | [] => [(path, text)]
  | (p, t) :: rest => if p = path then (p, text) :: rest else (p, t) :: putText path text rest

def getText? (path : Path) : List (Path × String) → Option String
  | [] => none
  | (p, t) :: rest => if p = path then some t else getText? path rest

def read? (path : Path) : Option String := getText? path files.texts

def write (path : Path) (text : String) : Files :=
  { files with texts := putText path text files.texts }

/-- Adds a text at the end of a file, which is created if it is not there. -/
def append (path : Path) (text : String) : Files :=
  files.write path ((files.read? path).getD "" ++ text)

def addFolder (path : Path) : Files := { files with folders := files.folders ++ [path] }

/-- The top and what lies above it, and all folders on the way to a file or a folder. -/
def isFolder (path : Path) : Bool :=
  path.all (· == "..") || path == ["/"] || files.folders.any (path.isPrefixOf ·) ||
    files.texts.any fun (q, _) => path.isPrefixOf q.dropLast

def spot (path : Path) : Spot :=
  match files.read? path with
  | some text => .text path text
  | none => if files.isFolder path then .folder path else .free path

/-- Names of the files and folders right in a folder, in code point order. -/
def namesIn (folder : Path) : List String :=
  Names.sorted ((files.texts.map Prod.fst ++ files.folders).filterMap fun p =>
    if folder.isPrefixOf p then (p.drop folder.length).head? else none)

theorem getText?_putText (path other : Path) (text : String) (texts : List (Path × String)) :
    getText? other (putText path text texts) =
      if path = other then some text else getText? other texts := by
  induction texts with
  | nil => simp [putText, getText?]
  | cons x xs ih => grind [putText, getText?]

theorem read?_write (path other : Path) (text : String) :
    (files.write path text).read? other =
      if path = other then some text else files.read? other := by
  simp [write, read?, getText?_putText]

end Files

end TapeMachine
