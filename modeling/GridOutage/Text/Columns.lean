import GridOutage.Text.Width

/-!
# Columns (tabwriter)

Aligning the cells of a text: tabs end cells and line breaks end lines. The last cell of a line
belongs to no column. Lines that follow one another and all have a cell in a column form a block,
whose cells are filled up to the width of the widest, with two blanks between columns.
-/
namespace GridOutage.Text

/-- The parts of a text between separators. -/
def splitAt (separator : Char) : List Char → List (List Char)
  | [] => [[]]
  | c :: cs =>
    if c = separator then [] :: splitAt separator cs
    else match splitAt separator cs with
      | part :: parts => (c :: part) :: parts
      | [] => [[c]]

namespace Columns

/-- The least width of a column. -/
def leastWidth : Nat := 2

/-- The blanks between two columns. -/
def padding : Nat := 2

/-- How wide a column is for the first of some lines: the widest cell down to the first line
without a cell in the column. -/
def blockWidth (column : Nat) (lines : List (List (List Char))) : Nat :=
  ((lines.takeWhile fun l => column + 1 < l.length).map fun l => width (l.getD column [])).foldl max
    leastWidth

/-- The widths of the cells of each line. A line that continues the block of the line above it has
the width of that block. -/
def widths : List Nat → List (List (List Char)) → List (List Nat)
  | _, [] => []
  | above, l :: ls =>
    let own := (List.range (l.length - 1)).map fun column =>
      match above[column]? with
      | some w => w
      | none => blockWidth column (l :: ls)
    own :: widths own ls

/-- A cell filled up to a width. -/
def filled (w : Nat) (cell : List Char) : List Char :=
  cell ++ List.replicate (w - width cell + padding) ' '

/-- The text of a line. -/
def lineText : List Nat → List (List Char) → List Char
  | w :: ws, cell :: cells => filled w cell ++ lineText ws cells
  | [], cells => cells.flatten
  | _ :: _, [] => []

end Columns

/-- A text with its columns aligned. -/
def aligned (text : List Char) : List Char :=
  let lines := (splitAt '\n' text).map (splitAt '\t')
  List.intercalate ['\n'] (List.zipWith Columns.lineText (Columns.widths [] lines) lines)

end GridOutage.Text
