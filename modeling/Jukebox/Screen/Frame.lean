import Jukebox.App
import Jukebox.Screen.Drawing

/-!
# The frame

The screen has three regions: what the server says about itself with a rule under it, the output
pane, and the mode line at the bottom.

* `regions` shares the height out.
* `statusRows`, `outputRows` and `modeRow` draw the regions.
* `outputLine` is a line of the output pane with the last search highlighted.
* `App.frame` is the whole screen with its cursor.
-/

set_option autoImplicit false

namespace Jukebox
namespace Screen

variable {σ : Type}

/-! ## Sharing the height out -/

/-- The height wanted for the server's status: one to three lines and the rule.  The number of
lines is taken as a number of 16 bits. -/
def statusHeight (lineCount : Nat) : Nat := max 1 (min 3 (lineCount % UInt16.size)) + 1

/-- The heights of the three regions.  The output pane comes first, then the rule, then the mode
line; only then does the status get room. -/
def regions (height wanted : Nat) : Nat × Nat × Nat :=
  match height with
  | 0 => (0, 0, 0)
  | 1 => (0, 1, 0)
  | 2 => (1, 1, 0)
  | h + 3 => (min wanted (h + 1), h + 2 - min wanted (h + 1), 1)

/-! ## The regions -/

/-- The style of what stays in the background. -/
def faint : Style := { foreground := some .darkGray }

/-- The style of the output pane. -/
def pane : Style := { foreground := some .gray }

/-- The style of a match. -/
def highlight : Style := { foreground := some .black, background := some .yellow }

/-- The style of an error. -/
def alarm : Style := { foreground := some .red, bold := true }

/-- The server's status over its rule. -/
def statusRows (c : Console σ) (width height : Nat) : List (List Cell) :=
  let lines : List Line :=
    if c.serverStatus = [] then [.styled "Not connected" faint]
    else c.serverStatus.map .plain
  match height with
  | 0 => []
  | h + 1 => rows width h {} lines ++ [List.replicate width { symbol := "─", style := faint }]

/-- A line cut at some ranges of its bytes, which are in order and apart: the text of a range is
highlighted, and what is between them is not.  `last` is where the range before ended. -/
def spansFrom (line : String) (last : Nat) : List Text.ByteRange → List Span
  | [] =>
    if last < line.utf8ByteSize then [{ text := Text.slice line ⟨last, line.utf8ByteSize⟩ }]
    else []
  | r :: rs =>
    let marked := { text := Text.slice line r, style := highlight } :: spansFrom line r.stop rs
    if last < r.start then { text := Text.slice line ⟨last, r.start⟩ } :: marked else marked

/-- A line of the output pane, with the last search highlighted if the user wants that. -/
def outputLine (c : Console σ) (line : String) : Line :=
  if c.settings.hlsearch = false ∨ c.search.query.isEmpty then .plain line
  else spansFrom line 0 (Text.matchRanges line c.search.query c.settings.ignorecase)

/-- The output pane, which leaves a column free at each side. -/
def outputRows (c : Console σ) (width height : Nat) : List (List Cell) :=
  let lines := (c.output.take height).map (outputLine c)
  (rows (width - 2) height pane lines).map fun cells =>
    padCells width {} (List.replicate (min 1 width) ({} : Cell) ++ cells)

/-- What stands on the bottom line: the input of the mode, the last message, or the mode's
name. -/
def modeLine (mode : Mode) (c : Console σ) : Line :=
  match c.modeLine, c.status with
  | some input, _ => ((Text.lines input).head?.map .plain).getD []
  | none, .error text => [{ text, style := alarm }]
  | none, .info text => .plain text
  | none, .clear => .styled ("-- " ++ mode.name ++ " --") faint

/-- The column of the cursor behind an input: not outside the screen. -/
def cursorColumn (width : Nat) (input : String) : Nat := min input.length width

end Screen

/-- A drawn screen. -/
structure Frame where
  rows : List (List Screen.Cell)
  /-- Column and row of the cursor, if it shows. -/
  cursor : Option (Nat × Nat)

open Screen in
/-- The screen of the application. -/
def App.frame {σ : Type} (app : App σ) (width height : Nat) : Frame :=
  let c := app.session.console
  let (top, middle, bottom) := regions height (statusHeight c.serverStatus.length)
  { rows :=
      shown width (statusRows c width top ++ outputRows c width middle ++
        Screen.rows width bottom {} [Screen.modeLine app.modes.active c])
    cursor := c.modeLine.map fun input => (cursorColumn width input, top + middle) }

end Jukebox
