import PanelLink.Text.Width

/-!
Tables in a frame of box-drawing characters. Every column is as wide as its widest line
and has a blank on each side; a cell with more than one line makes its row taller.
-/

namespace PanelLink.Text.Table

def cellLines : List Char → List (List Char)
  | [] => [[]]
  | character :: rest =>
      match cellLines rest with
      | [] => [[character]]
      | line :: others =>
          if character = '\n' then [] :: line :: others else (character :: line) :: others

abbrev Row := List (List (List Char))

def rowOf (cells : List String) : Row := cells.map fun cell => cellLines cell.toList

def cellWidth (lines : List (List Char)) : Nat := (lines.map width).foldl max 0

def columnWidths : List Row → List Nat
  | [] => []
  | [row] => row.map cellWidth
  | row :: rest => List.zipWith max (row.map cellWidth) (columnWidths rest)

structure Rule where
  left : Char
  fill : Char
  crossing : Char
  right : Char

def topRule : Rule := ⟨'┌', '─', '┬', '┐'⟩
def headerRule : Rule := ⟨'╞', '═', '╪', '╡'⟩
def rowRule : Rule := ⟨'├', '╌', '┼', '┤'⟩
def bottomRule : Rule := ⟨'└', '─', '┴', '┘'⟩

def enclose (left divider right : Char) (cells : List (List Char)) : List Char :=
  left :: ([divider].intercalate cells ++ [right])

def drawRule (rule : Rule) (widths : List Nat) : List Char :=
  enclose rule.left rule.crossing rule.right
    (widths.map fun width => List.replicate (width + 2) rule.fill)

def pad (columnWidth : Nat) (line : List Char) : List Char :=
  ' ' :: (line ++ List.replicate (columnWidth - width line + 1) ' ')

def drawRow (widths : List Nat) (row : Row) : List (List Char) :=
  let height := (row.map List.length).foldl max 0
  (List.range height).map fun index =>
    enclose '│' '┆' '│'
      (List.zipWith (fun columnWidth lines => pad columnWidth (lines.getD index []))
        widths row)

def drawRows (widths : List Nat) : List Row → List (List Char)
  | [] => []
  | [row] => drawRow widths row
  | row :: rest => drawRow widths row ++ drawRule rowRule widths :: drawRows widths rest

def draw (header : List String) (rows : List (List String)) : List (List Char) :=
  let header := rowOf header
  let rows := rows.map rowOf
  let widths := columnWidths (header :: rows)
  drawRule topRule widths :: drawRow widths header ++
    drawRule headerRule widths :: drawRows widths rows ++ [drawRule bottomRule widths]

def render (header : List String) (rows : List (List String)) : String :=
  String.ofList (['\n'].intercalate (draw header rows))

end PanelLink.Text.Table
