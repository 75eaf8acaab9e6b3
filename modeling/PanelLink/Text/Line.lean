/-! Lines, of characters or of anything else that has a mark for the end of a line. -/

namespace PanelLink.Text

/-- The runs between the marks. Behind the last mark there is a line only if something
stands there. -/
def splitLines {α : Type} [DecidableEq α] (mark : α) : List α → List (List α)
  | [] => []
  | item :: rest =>
      if item = mark then [] :: splitLines mark rest
      else match splitLines mark rest with
        | [] => [[item]]
        | line :: others => (item :: line) :: others

def withoutReturn (line : List Char) : List Char :=
  if line.getLast? = some '\r' then line.dropLast else line

def textLines (text : String) : List String :=
  (splitLines '\n' text.toList).map fun line => String.ofList (withoutReturn line)

end PanelLink.Text
