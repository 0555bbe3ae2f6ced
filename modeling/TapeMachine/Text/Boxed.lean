import TapeMachine.Names

/-! Boxed tables: a centred title, a heading, and rows, each column as wide as its widest cell. -/
namespace TapeMachine.Text

structure Column where
  heading : String
  isCentred : Bool
  deriving DecidableEq, Repr

def blanks (n : Nat) : String := String.ofList (List.replicate n ' ')

/-- A text with blanks on both sides, the odd one on the right. -/
def centred (width : Nat) (s : String) : String :=
  let excess := width - s.length
  blanks (excess / 2) ++ s ++ blanks (excess - excess / 2)

def Column.fit (c : Column) (width : Nat) (s : String) : String :=
  if c.isCentred then centred width s else s ++ blanks (width - s.length)

/-- Each column with its width. -/
def measured (columns : List Column) (rows : List (List String)) : List (Column × Nat) :=
  columns.mapIdx fun i c =>
    (c, rows.foldl (fun width row => max width (row.getD i "").length) c.heading.length)

/-- A line across the columns: its left end, filling, crossing and right end. -/
def ruler (left fill cross right : String) (columns : List (Column × Nat)) : String :=
  left ++ Names.joined cross (columns.map fun (_, width) =>
    String.join (List.replicate (width + 2) fill)) ++ right

/-- Cells between bars, with a blank on each side. -/
def rowLine (bar : String) (columns : List (Column × Nat)) (cells : List String) : String :=
  bar ++ String.join (columns.mapIdx fun i (c, width) =>
    " " ++ c.fit width (cells.getD i "") ++ " " ++ bar)

/-- The lines of a table. -/
def boxed (title : String) (columns : List Column) (rows : List (List String)) : List String :=
  let sized := measured columns rows
  let total := sized.foldl (fun sum (_, width) => sum + width + 3) 1
  [centred total title,
    ruler "┏" "━" "┳" "┓" sized,
    rowLine "┃" sized (columns.map Column.heading),
    ruler "┡" "━" "╇" "┩" sized] ++
  rows.map (rowLine "│" sized) ++
  [ruler "└" "─" "┴" "┘" sized]

end TapeMachine.Text
