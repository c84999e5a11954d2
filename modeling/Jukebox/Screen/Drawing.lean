import Jukebox.Screen.Basic

/-!
# Drawing

What shows of the rows that were laid out.  A screen starts blank, and a cell is sent to it only
where that changes something: a blank cell shows nothing, and the cell behind a wide symbol belongs
to the symbol.

The places of a screen are numbered row by row, with 16 bits.  From the 65536th place on, a cell is
drawn at the place that has its number, which is one of the first, and the place that it was meant
for stays blank.

* `drawn` is what is sent of a row.
* `overlayRounds` draws over cells, one round of numbers after the other.
* `shown` is the screen in the end; `length_shown` says that it has the rows it was given.
-/

set_option autoImplicit false

namespace Jukebox
namespace Screen

/-! ## What is sent -/

/-- What is sent of the cells of a row.  A blank cell is sent only where a symbol reached into it,
and the cell next to a wide symbol is not sent at all.  `reached` counts the cells ahead that the
symbols so far reach into, and `taken` says whether the next cell is one that is not sent. -/
def drawnFrom (reached : Nat) (taken : Bool) : List Cell → List (Option Cell)
  | [] => []
  | c :: cs =>
    let w := Text.Chars.clusterWidth c.symbol.toList
    (if taken || (c = .blank && reached = 0) then none else some c) ::
      drawnFrom (max w (max 1 reached) - 1) (2 ≤ w) cs

/-- What is sent of a row. -/
def drawn (cells : List Cell) : List (Option Cell) := drawnFrom 0 false cells

example : drawn [⟨"日", {}⟩, ⟨" ", {}⟩, ⟨"x", {}⟩, ⟨" ", {}⟩] =
    [some ⟨"日", {}⟩, none, some ⟨"x", {}⟩, none] := by
  decide +kernel

/-! ## Numbered places -/

/-- What is drawn over cells, from the first place on. -/
def overlay (below : List Cell) (above : List (Option Cell)) : List Cell :=
  List.zipWith (fun b a => a.getD b) below
    (above ++ List.replicate (below.length - above.length) none)

/-- Cells with what is sent drawn over them, one round of numbers after the other. -/
def overlayRounds (cells : List Cell) (sent : List (Option Cell)) : List Cell :=
  if sent = [] then cells
  else overlayRounds (overlay cells (sent.take UInt16.size)) (sent.drop UInt16.size)
termination_by sent.length
decreasing_by
  have : 0 < sent.length := List.length_pos_iff.2 ‹_›
  simp only [List.length_drop, UInt16.size]
  omega

/-- Rows of one width, cut from the cells of a screen. -/
def cutRows (width : Nat) : Nat → List Cell → List (List Cell)
  | 0, _ => []
  | height + 1, cells => cells.take width :: cutRows width height (cells.drop width)

theorem length_cutRows (width height : Nat) (cells : List Cell) :
    (cutRows width height cells).length = height := by
  induction height generalizing cells with
  | zero => rfl
  | succ height ih => rw [cutRows, List.length_cons, ih]

/-- The screen that shows when some rows are drawn on a blank one. -/
def shown (width : Nat) (rows : List (List Cell)) : List (List Cell) :=
  let places := width * rows.length
  cutRows width rows.length
    (overlayRounds (List.replicate (min places UInt16.size) .blank) (rows.flatMap drawn) ++
      List.replicate (places - UInt16.size) .blank)

theorem length_shown (width : Nat) (rows : List (List Cell)) :
    (shown width rows).length = rows.length :=
  length_cutRows ..

end Screen
end Jukebox
