import TapeMachine.Names
import TapeMachine.Text.Letters

/-!
Paths. A path is held as its parts; the text of a path is also cut and joined as it stands, without
regard to what it means.
-/
namespace TapeMachine

open Text (Letter Letters)

/-- The parts of a path; a path from the root starts with its slash, or two, as its first part. -/
abbrev Path := List String

namespace Path

/-- Cuts a text at its slashes; `part`, read backwards, comes before it. -/
def partsFrom (part : List Char) : List Char → List (List Char)
  | [] => [part.reverse]
  | c :: cs => if c = '/' then part.reverse :: partsFrom [] cs else partsFrom (c :: part) cs

/-- The parts of a text between slashes that are not empty. -/
def steps (cs : List Char) : List String :=
  ((partsFrom [] cs).filter (!·.isEmpty)).map String.ofList

/-- The root that a text begins with: two slashes are another root than one, or than more. -/
def root? (cs : List Char) : Option String :=
  match (cs.takeWhile (· == '/')).length with
  | 0 => none
  | 2 => some "//"
  | _ => some "/"

/-- Empty parts and single dots do not count. -/
def parse (s : String) : Path :=
  (root? s.toList).toList ++ (steps s.toList).filter (· != ".")

def isRoot (part : String) : Bool := part == "/" || part == "//"

def text (p : Path) : String :=
  match p with
  | [] => "."
  | root :: parts =>
    if isRoot root then root ++ Names.joined "/" parts else Names.joined "/" (root :: parts)

/-- The last part; empty if there is none but a root. -/
def name (p : Path) : String := (p.getLast?.filter (!isRoot ·)).getD ""

/-- A path without its last part; a root stays. -/
def parent (p : Path) : Path := if p.getLast?.any isRoot then p else p.dropLast

/-- Lets each double dot take back the part before it. -/
def resolve (p : Path) : Path :=
  (p.foldl (fun done part =>
    if part = ".." && !done.isEmpty && done.head? != some ".." then done.drop 1
    else part :: done) []).reverse

/-- A path from a folder; one from the root stays as it is. -/
def join (folder file : Path) : Path := if file.head?.any isRoot then file else folder ++ file

end Path

namespace PathText

def slash : Letter := .char '/'

/-- What comes before the last slash, without slashes at its end, and what comes after it. -/
def split (p : Letters) : Letters × Letters :=
  let tail := (p.reverse.takeWhile (· != slash)).reverse
  let head := p.take (p.length - tail.length)
  (if head.all (· == slash) then head else (head.reverse.dropWhile (· == slash)).reverse, tail)

/-- A path within a folder; one from the root stays as it is. -/
def join (folder file : Letters) : Letters :=
  if file.head? = some slash then file
  else if folder.isEmpty || folder.getLast? = some slash then folder ++ file
  else folder ++ slash :: file

end PathText

end TapeMachine
