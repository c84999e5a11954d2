import Jukebox.Text.Lines
import Jukebox.Text.Width

/-!
# Cells and lines

A screen is made of rows of cells, and a cell holds one grapheme cluster with its style.  What is
to be shown is given as lines of styled spans, which are cut to the width of their place.

* `Style`, `Cell` and `Span` are the parts.
* `fit` keeps the clusters of a line that there is room for.
* `row` is the row of cells that a line becomes.
* `rowText` and `styleRuns` are what can be read off a row.
-/

set_option autoImplicit false

namespace Jukebox
namespace Screen

/-- The colours in use. -/
inductive Color where
  | black | red | yellow | gray | darkGray
  deriving DecidableEq, Repr

/-- How a text looks; what is not said stays as it is. -/
structure Style where
  foreground : Option Color := none
  background : Option Color := none
  bold : Bool := false
  deriving DecidableEq, Repr, Inhabited

/-- The style that `s` gives to what looks like `base`. -/
def Style.over (s base : Style) : Style where
  foreground := s.foreground.or base.foreground
  background := s.background.or base.background
  bold := s.bold || base.bold

/-- What stands in one place of the screen. -/
structure Cell where
  symbol : String := " "
  style : Style := {}
  deriving DecidableEq, Repr, Inhabited

/-- A cell that nothing was drawn in. -/
def Cell.blank : Cell := {}

/-- A text in one style. -/
structure Span where
  text : String
  style : Style := {}
  deriving DecidableEq, Repr

/-- A line of spans. -/
abbrev Line := List Span

/-- A grapheme cluster in one style. -/
structure Styled where
  cluster : List Char
  style : Style

namespace Line

/-- A text without style as a line.  Line ends inside it do not show. -/
def plain (s : String) : Line := (Text.lines s).map fun piece => { text := piece }

/-- A text in one style as a line. -/
def styled (s : String) (style : Style) : Line :=
  (Text.lines s).map fun piece => { text := piece, style }

/-- The clusters of a line.  Spans are cut up one by one, and line feeds take no place. -/
def clusters (line : Line) : List Styled :=
  line.flatMap fun span =>
    ((Text.Chars.clusters span.text.toList).filter (· ≠ ['\n'])).map fun cluster =>
      { cluster, style := span.style }

end Line

/-! ## Rows -/

/-- The columns of a cluster, counted with 16 bits as the columns of a screen are. -/
def Styled.columns (g : Styled) : Nat := Text.Chars.clusterWidth g.cluster % UInt16.size

/-- The clusters that there is room for.  One that is wider than the whole row is passed over; the
first that does not fit into the rest of the row ends it. -/
def fit (width room : Nat) : List Styled → List Styled
  | [] => []
  | g :: gs =>
    if width < g.columns then fit width room gs
    else if room < g.columns then []
    else g :: fit width (room - g.columns) gs

/-- The cells of a cluster, one for each column; the symbol stands in the first. -/
def cellsOf (base : Style) (g : Styled) : List Cell :=
  match g.columns with
  | 0 => []
  | w + 1 =>
    { symbol := .ofList g.cluster, style := g.style.over base } ::
      List.replicate w { style := base }

/-- The cells up to a width, with blank ones in the style `base` behind them. -/
def padCells (width : Nat) (base : Style) (cells : List Cell) : List Cell :=
  cells ++ List.replicate (width - cells.length) { style := base }

/-- The row that a line becomes where everything looks like `base`. -/
def row (width : Nat) (base : Style) (line : Line) : List Cell :=
  padCells width base ((fit width width line.clusters).flatMap (cellsOf base))

/-- `height` rows for some lines: those there is room for, and blank ones below. -/
def rows (width height : Nat) (base : Style) (lines : List Line) : List (List Cell) :=
  ((lines.take height).map (row width base)) ++
    List.replicate (height - lines.length) (row width base [])

/-! ## Looking at a row -/

/-- The symbols of a row, without the spaces at its end. -/
def rowText (cells : List Cell) : String :=
  let cs := (cells.map (·.symbol)).flatMap String.toList
  .ofList (cs.reverse.dropWhile (· == ' ')).reverse

/-- The neighbouring cells of a row that have one style, with the column of the first. -/
def styleRuns (cells : List Cell) : List (Nat × List Cell) :=
  (cells.zipIdx.splitBy fun a b => a.1.style == b.1.style).map fun run =>
    ((run.head?.map Prod.snd).getD 0, run.map Prod.fst)

end Screen
end Jukebox
