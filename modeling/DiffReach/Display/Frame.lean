import DiffReach.Display.Markup
import DiffReach.Text.Lines
import DiffReach.Text.Width

namespace DiffReach.Display

def terminalWidth : Nat := 160

def spaces (n : Nat) : List Char :=
  List.replicate n ' '

def padTo (width : Nat) (cs : List Char) : List Char :=
  cs ++ spaces (width - Text.width cs)

/-- A text in the middle of a width among fill characters, the odd one on the right. -/
def centre (fill : Char) (width : Nat) (cs : List Char) : List Char :=
  let excess := width - Text.width cs
  List.replicate (excess / 2) fill ++ cs ++ List.replicate (excess - excess / 2) fill

def expandTabs (column : Nat) : List Char → List Char
  | [] => []
  | c :: cs =>
      if c = '\t' then spaces (8 - column % 8) ++ expandTabs 0 cs
      else c :: expandTabs (column + Text.cellWidth c) cs

def shownLines (s : String) : Except Fault (List (List Char)) :=
  (Markup.read s >>= Markup.Shown.draw).map fun cs => (Text.splitOn '\n' cs).map (expandTabs 0)

abbrev Cell := List (List Char)

def Cell.draw (shown : Markup.Shown) : Except Fault Cell :=
  shown.draw.map (Text.splitOn '\n')

def Cell.width (c : Cell) : Nat :=
  c.foldl (fun w line => max w (Text.width line)) 0

def columnWidth (cells : List Cell) : Nat :=
  cells.foldl (fun w c => max w c.width) 0

def rule (left line joint right : Char) (widths : List Nat) : List Char :=
  left :: ([joint].intercalate (widths.map fun w => List.replicate (w + 2) line) ++ [right])

def rowLine (edge : Char) (widths : List Nat) (cells : List (List Char)) : List Char :=
  edge :: ([edge].intercalate ((widths.zip cells).map fun (w, cell) =>
    ' ' :: (padTo w (expandTabs 0 cell) ++ [' '])) ++ [edge])

def rowLines (edge : Char) (widths : List Nat) (cells : List Cell) : List (List Char) :=
  let height := cells.foldl (fun h c => max h c.length) 0
  (List.range height).map fun i => rowLine edge widths (cells.map fun cell => (cell[i]?).getD [])

structure Table where
  title : Option String
  columns : List String
  rows : List (List String)

namespace Table

def cells (t : Table) : List (List String) :=
  t.columns.mapIdx fun i column => column :: t.rows.map fun row => (row[i]?).getD ""

def lines (title : Option Cell) (columns : List (List Cell)) (height : Nat) : List (List Char) :=
  let widths := columns.map columnWidth
  let total := widths.foldl (fun n w => n + w + 3) 1
  let row i := columns.map fun column => (column[i]?).getD []
  (match title with
    | none => []
    | some title => title.map (centre ' ' total))
    ++ [rule '┏' '━' '┳' '┓' widths]
    ++ rowLines '┃' widths (row 0)
    ++ [rule '┡' '━' '╇' '┩' widths]
    ++ (List.range height).flatMap (fun i => rowLines '│' widths (row (i + 1)))
    ++ [rule '└' '─' '┴' '┘' widths]

/-- The lines of a table, each ended by a line feed. All cells are read by columns before any is
drawn. -/
def draw (t : Table) : Except Fault String := do
  let columns ← t.cells.mapM fun column => column.mapM Markup.read
  let title ← match t.title with
    | none => pure none
    | some title => (Markup.read title >>= Cell.draw).map some
  let columns ← columns.mapM fun column => column.mapM Cell.draw
  let shown := lines title columns t.rows.length
  pure (String.ofList (shown.flatMap fun line => line ++ ['\n']))

end Table

def panel (title body : String) : Except Fault String := do
  let title ← Markup.read title >>= Markup.Shown.draw
  let body ← shownLines body
  let inner := terminalWidth - 4
  let top := ['╭', '─'] ++ centre '─' inner (' ' :: (title ++ [' '])) ++ ['─', '╮']
  let lines := body.map fun line => ['│', ' '] ++ padTo inner line ++ [' ', '│']
  let bottom := ['╰'] ++ List.replicate (terminalWidth - 2) '─' ++ ['╯']
  pure (String.ofList (([top] ++ lines ++ [bottom]).flatMap fun line => line ++ ['\n']))

end DiffReach.Display
