import TableAudit.Console.Wrap

/-!
# Grids of text

A grid has a header, rows and frames around them. Columns share the width of the grid: those that
need little get what they need, the others divide the rest and wrap.
-/

namespace TableAudit.Console

inductive Alignment
  | left
  | center
  | right
deriving DecidableEq, Repr

/-- How a grid is drawn: the line between columns, whether lines separate the rows, and whether the
grid is widened to its full width. -/
structure Style where
  divider : String
  ruled : Bool
  full : Bool
deriving DecidableEq, Repr

structure Grid where
  alignments : List Alignment
  header : List String
  rows : List (List String)
  style : Style
  /-- The width of the whole grid. -/
  width : Nat

/-- A column of a grid: its cells and, once it is settled, its width without the margins. -/
structure Column where
  cells : List String
  width? : Option Nat

namespace Column

def lines (c : Column) : List String := c.cells.flatMap (Text.splitAt '\n')

def widest (lines : List String) : Nat := (lines.map Text.width).foldl max 0

def natural (c : Column) : Nat := max (widest c.lines) 1

end Column

/-- A line of a cell, wrapped if it is too long. -/
def wrapped (width : Nat) (line : String) : List String :=
  if Text.width line > width then wrap width line else [line]

/-- Room that is to be divided among columns. -/
structure Room where
  width : Nat
  /-- The number of columns that are not settled. -/
  waiting : Nat

namespace Room

def average (r : Room) : Nat := r.width / r.waiting

def take (r : Room) (width : Nat) : Room := ⟨r.width - width, r.waiting - 1⟩

/-- Parts that differ by at most one, the larger ones first. -/
def share (r : Room) (i : Nat) : Nat :=
  r.average + if i < r.width % r.waiting then 1 else 0

end Room

/-- Goes through the waiting columns from left to right and settles those for which `settle` finds a
width, given what an average column would get. -/
def settleOnce (settle : Nat → Column → Option Nat) : Room → List Column → Room × List Column
  | room, [] => (room, [])
  | room, c :: cs =>
    match c.width?, settle room.average c with
    | none, some width =>
      let (rest, cs) := settleOnce settle (room.take width) cs
      (rest, { c with width? := some width } :: cs)
    | _, _ =>
      let (rest, cs) := settleOnce settle room cs
      (rest, c :: cs)

/-- Settles columns until nothing changes, which takes at most one pass for each column. -/
def settleAll (settle : Nat → Column → Option Nat) (room : Room) (cs : List Column) :
    Room × List Column :=
  (List.range cs.length).foldl (fun (room, cs) _ => settleOnce settle room cs) (room, cs)

/-- A column that needs no more than the average gets what it needs. -/
def settleShort (average : Nat) (c : Column) : Option Nat :=
  if c.natural ≤ average then some c.natural else none

/-- A column that saves this much by wrapping gives it to the others. -/
def worthSaving : Nat := 3

/-- A column whose lines are clearly shorter than the average after wrapping gets their width. -/
def settleWrapped (average : Nat) (c : Column) : Option Nat :=
  let width := Column.widest (c.lines.flatMap (wrapped average))
  if width + worthSaving ≤ average then some width else none

/-- The widths of all columns when the `i`-th share goes to the first waiting one. -/
def dividedFrom (room : Room) (i : Nat) : List Column → List Nat
  | [] => []
  | c :: cs =>
    match c.width? with
    | some width => width :: dividedFrom room i cs
    | none => room.share i :: dividedFrom room (i + 1) cs

/-- Divides the remaining room among the waiting columns, each of which gets at least one. -/
def divide (room : Room) (cs : List Column) : List Nat :=
  dividedFrom { room with width := max room.width room.waiting } 0 cs

/-- Widens the columns of a grid that is to be as wide as it can. -/
def stretch (full : Bool) (room : Room) (widths : List Nat) : List Nat :=
  if full then
    let room := { room with waiting := widths.length }
    widths.zipIdx.map fun (width, i) => width + room.share i
  else widths

namespace Grid

def columns (g : Grid) : List Column :=
  g.header.zipIdx.map fun (title, i) => ⟨title :: g.rows.map (·.getD i ""), none⟩

/-- The widths of the columns: what remains of the grid's width without the frame and a margin on
both sides of every column. -/
def widths (g : Grid) : List Nat :=
  let cs := g.columns
  let n := cs.length
  let room : Room := ⟨g.width - (n + 1) - 2 * n, n⟩
  let (room, cs) := settleAll settleShort room cs
  let (room, cs) := if room.waiting = 0 then (room, cs) else settleAll settleWrapped room cs
  if room.waiting = 0 then stretch g.style.full room (cs.map fun c => c.width?.getD 1)
  else divide room cs

def spaces (n : Nat) : String := String.ofList (List.replicate n ' ')

/-- A line with its margins. Of an odd number of spaces around a centred line, the larger part
stands in front. -/
def aligned (a : Alignment) (width : Nat) (line : String) : String :=
  let free := width - Text.width line
  let body := match a with
    | .left => line ++ spaces free
    | .right => spaces free ++ line
    | .center => spaces ((free + 1) / 2) ++ line ++ spaces (free / 2)
  " " ++ body ++ " "

def cellLines (a : Alignment) (width : Nat) (cell : String) : List String :=
  ((Text.splitAt '\n' cell).flatMap (wrapped width)).map (aligned a width)

/-- The lines of a row; cells with fewer lines than others are filled up with blank ones. -/
def rowLines (g : Grid) (widths : List Nat) (cells : List String) : List String :=
  let cells := (cells.zip (g.alignments.zip widths)).map fun (cell, a, width) =>
    (cellLines a width cell, width)
  let height := (cells.map (·.1.length)).foldl max 0
  (List.range height).map fun i =>
    let parts := cells.map fun (lines, width) => lines.getD i (spaces (width + 2))
    "│" ++ g.style.divider.intercalate parts ++ "│"

/-- A line of the frame: its left end, its stroke, its crossings and its right end. -/
def rule (left stroke crossing right : String) (widths : List Nat) : String :=
  left ++ crossing.intercalate (widths.map fun width =>
    String.join (List.replicate (width + 2) stroke)) ++ right

def lines (g : Grid) : List String :=
  let widths := g.widths
  let rows := g.rows.map (g.rowLines widths)
  let separator := if g.style.ruled then [rule "├" "─" "┼" "┤" widths] else []
  [rule "╭" "─" "┬" "╮" widths] ++ g.rowLines widths g.header ++
    [rule "╞" "═" "╪" "╡" widths] ++ separator.intercalate rows ++
    [rule "╰" "─" "┴" "╯" widths]

def text (g : Grid) : String := "\n".intercalate g.lines

end Grid

end TableAudit.Console
