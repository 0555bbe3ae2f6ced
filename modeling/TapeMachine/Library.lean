import TapeMachine.Diagnostic

/-!
Libraries of rules that programs compose, the registries that hold them by name, and the catalog
that comes with the interpreter. Libraries work on unary numbers, the head on the leftmost one.
-/
namespace TapeMachine

structure Library where
  name : String
  description : String
  initial : String
  final : String
  /-- States that a program should not use for rules of its own. -/
  used : List String
  rules : List (Rule Bool)
  deriving DecidableEq, Repr

/-- A library as it is written down, its rules still being text. -/
structure Library.Draft where
  name : String
  description : String
  initial : String
  final : String
  used : List String
  code : String
  deriving DecidableEq, Repr

def Library.Draft.read (d : Library.Draft) : Except Diagnostic Library :=
  (Rule.parseBlock d.code).map fun rules =>
    ⟨d.name, d.description, d.initial, d.final, d.used, rules⟩

/-- Libraries with distinct names, in catalog order. -/
abbrev Registry := List Library

namespace Registry

def find? (name : String) (r : Registry) : Option Library := List.find? (·.name == name) r

def names (r : Registry) : List String := r.map Library.name

end Registry

inductive RegistryError where
  | unreadable (d : Diagnostic)
  | duplicate (name : String)
  deriving DecidableEq, Repr

def RegistryError.message : RegistryError → String
  | unreadable d => d.text
  | duplicate name => "Duplicate library name: " ++ name

namespace Registry

/-- Adds libraries at the end, refusing a name that is taken. -/
def extend : Registry → List Library → Except RegistryError Registry
  | r, [] => .ok r
  | r, l :: ls =>
    if (r.find? l.name).isSome then .error (.duplicate l.name) else extend (r ++ [l]) ls

/-- Reads every library, then registers them in order. -/
def ofDrafts (drafts : List Library.Draft) : Except RegistryError Registry :=
  match drafts.mapM Library.Draft.read with
  | .ok libraries => extend [] libraries
  | .error d => .error (.unreadable d)

end Registry

namespace Catalog

/-- Adds the number under the head and the one on its right, separated by one blank. -/
def sum : Library where
  name := "sum"
  description := "Adds the two unary numbers under and right of the head"
  initial := "sum0"
  final := "sumf"
  used := ["sum0", "sum1", "sum2", "sum3", "sum4", "sumf"]
  rules :=
    [⟨"sum0", true, true, .right, "sum0"⟩, ⟨"sum0", false, true, .right, "sum1"⟩,
      ⟨"sum1", true, true, .right, "sum1"⟩, ⟨"sum1", false, false, .left, "sum2"⟩,
      ⟨"sum2", true, false, .left, "sum3"⟩, ⟨"sum3", true, false, .left, "sum4"⟩,
      ⟨"sum4", true, true, .left, "sum4"⟩, ⟨"sum4", false, false, .right, "sumf"⟩]

/-- Adds one, in the blank on the left of the number. -/
def inc : Library where
  name := "inc"
  description := "Adds one to the unary number under the head"
  initial := "inc0"
  final := "incf"
  used := ["inc0", "inc1", "incf"]
  rules := [⟨"inc0", true, true, .left, "inc1"⟩, ⟨"inc1", false, true, .halt, "incf"⟩]

/-- Takes one away, unless the number is zero. -/
def dec : Library where
  name := "dec"
  description := "Subtracts one from the unary number under the head (0 stays 0)"
  initial := "dec0"
  final := "decf"
  used := ["dec0", "dec1", "dec2", "decf"]
  rules :=
    [⟨"dec0", true, true, .right, "dec1"⟩, ⟨"dec1", true, true, .left, "dec2"⟩,
      ⟨"dec1", false, false, .left, "decf"⟩, ⟨"dec2", true, false, .right, "decf"⟩]

def next : Library where
  name := "next"
  description := "Moves the head to the start of the next unary number"
  initial := "next0"
  final := "nextf"
  used := ["next0", "nextf"]
  rules := [⟨"next0", true, true, .right, "next0"⟩, ⟨"next0", false, false, .right, "nextf"⟩]

def prev : Library where
  name := "prev"
  description := "Moves the head to the start of the previous unary number"
  initial := "prev0"
  final := "prevf"
  used := ["prev0", "prev1", "prev2", "prevf"]
  rules :=
    [⟨"prev0", true, true, .left, "prev1"⟩, ⟨"prev1", false, false, .left, "prev2"⟩,
      ⟨"prev2", true, true, .left, "prev2"⟩, ⟨"prev2", false, false, .right, "prevf"⟩]

def all : Registry := [sum, inc, dec, next, prev]

def sumCode : String :=
  "
(sum0, 1, 1, R, sum0);
(sum0, 0, 1, R, sum1);
(sum1, 1, 1, R, sum1);
(sum1, 0, 0, L, sum2);
(sum2, 1, 0, L, sum3);
(sum3, 1, 0, L, sum4);
(sum4, 1, 1, L, sum4);
(sum4, 0, 0, R, sumf);
"

def incCode : String :=
  "
(inc0, 1, 1, L, inc1);
(inc1, 0, 1, H, incf);
"

def decCode : String :=
  "
(dec0, 1, 1, R, dec1);
(dec1, 1, 1, L, dec2);
(dec1, 0, 0, L, decf);
(dec2, 1, 0, R, decf);
"

def nextCode : String :=
  "
(next0, 1, 1, R, next0);
(next0, 0, 0, R, nextf);
"

def prevCode : String :=
  "
(prev0, 1, 1, L, prev1);
(prev1, 0, 0, L, prev2);
(prev2, 1, 1, L, prev2);
(prev2, 0, 0, R, prevf);
"

/-- The catalog as it is written down; the codes are read when the interpreter starts. -/
def drafts : List Library.Draft :=
  [⟨"sum", "Adds the two unary numbers under and right of the head", "sum0", "sumf",
      ["sum0", "sum1", "sum2", "sum3", "sum4", "sumf"], sumCode⟩,
    ⟨"inc", "Adds one to the unary number under the head", "inc0", "incf",
      ["inc0", "inc1", "incf"], incCode⟩,
    ⟨"dec", "Subtracts one from the unary number under the head (0 stays 0)", "dec0", "decf",
      ["dec0", "dec1", "dec2", "decf"], decCode⟩,
    ⟨"next", "Moves the head to the start of the next unary number", "next0", "nextf",
      ["next0", "nextf"], nextCode⟩,
    ⟨"prev", "Moves the head to the start of the previous unary number", "prev0", "prevf",
      ["prev0", "prev1", "prev2", "prevf"], prevCode⟩]

end Catalog

end TapeMachine
