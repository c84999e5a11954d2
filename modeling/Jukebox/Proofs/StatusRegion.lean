import Jukebox.Proofs.LineFeeds
import Jukebox.Screen.Frame

/-!
# Room for the server's status

At the top of the screen up to three lines of status are shown, with a rule under them.  The number of
lines is taken as a number of 16 bits before it is brought into range, so there is as much room as
that only if nothing that counts is lost.

* `Screen.statusHeight_eq_iff` says when that is, and `Screen.statusHeight_le` that the region is never
  higher than it should be.
* `Console.serverStatus_setServerStatus`: whatever lines there are to be, a client can print them.
* `App.room_for_status` is the outcome, on the screen.
* `Screen.no_room_for_status`: with 65536 lines there is room for one.
-/

set_option autoImplicit false

namespace Jukebox

/-! ## The lines of status -/

namespace Console

variable {σ : Type}

/-- Any lines can be the server's status, if none is empty or ends in a blank: those lines have to be
printed. -/
theorem serverStatus_setServerStatus (c : Console σ) {ls : List String}
    (h : ∀ line ∈ ls, '\n' ∉ line.toList ∧ Text.TrimmedEnd line ∧ line ≠ "") :
    (c.setServerStatus ("\n".intercalate ls)).serverStatus = ls := by
  have kept : ls.map Text.trimEnd = ls := by
    refine List.map_congr_left (g := id) (fun line hline ↦ ?_) |>.trans (List.map_id ls)
    obtain ⟨-, trimmed, -⟩ := h line hline
    rw [Text.trimEnd, Text.Chars.trimEnd_of_getLast? trimmed, String.ofList_toList, id]
  have nonempty : ∀ line ∈ ls, (!line.isEmpty) = true := by
    intro line hline
    simpa using (h line hline).2.2
  rw [setServerStatus, Text.lines_intercalate h, kept, List.filter_eq_self.2 nonempty]

end Console

namespace Screen

variable {σ : Type}

/-! ## The height of the region -/

/-- There is room for up to three lines of status and the rule exactly if the number of lines is one
of 16 bits, or is three at least when it is taken as one. -/
theorem statusHeight_eq_iff (n : Nat) :
    statusHeight n = min (max n 1) 3 + 1 ↔ n < UInt16.size ∨ 3 ≤ n % UInt16.size := by
  rw [statusHeight, UInt16.size]
  omega

theorem statusHeight_le (n : Nat) :
    2 ≤ statusHeight n ∧ statusHeight n ≤ min (max n 1) 3 + 1 := by
  have counted := Nat.mod_le n UInt16.size
  rw [statusHeight]
  omega

/-- On a screen of six rows or more the region gets the height that is wanted for it. -/
theorem regions_of_room {height wanted : Nat} (room : 6 ≤ height) (h : wanted ≤ 4) :
    regions height wanted = (wanted, height - 1 - wanted, 1) := by
  obtain ⟨rest, rfl⟩ := Nat.exists_eq_add_of_le room
  rw [show 6 + rest = rest + 3 + 3 by omega, regions, Nat.min_eq_left (by omega : wanted ≤ rest + 3 + 1)]
  exact congrArg (Prod.mk wanted) (congrArg (Prod.mk · 1) (by omega))

/-! ## What is shown in it -/

/-- The lines that are to be shown: at least one. -/
def statusLines (c : Console σ) : List Line :=
  if c.serverStatus = [] then [.styled "Not connected" faint] else c.serverStatus.map .plain

/-- The rule under the status. -/
def rule (width : Nat) : List Cell := List.replicate width { symbol := "─", style := faint }

theorem length_statusLines (c : Console σ) :
    (statusLines c).length = max c.serverStatus.length 1 := by
  rw [statusLines]
  cases c.serverStatus with
  | nil => rfl
  | cons line ls =>
    rw [if_neg (List.cons_ne_nil _ _), List.length_map, List.length_cons]
    omega

/-- A region shows as many lines as it has rows above the rule, if there are as many. -/
theorem statusRows_succ {c : Console σ} (width : Nat) {h : Nat} (enough : h ≤ (statusLines c).length) :
    statusRows c width (h + 1) = ((statusLines c).take h).map (row width {}) ++ [rule width] := by
  rw [statusRows, ← statusLines, ← rule, rows, Nat.sub_eq_zero_of_le enough, List.replicate_zero,
    List.append_nil]

/-- Where there is room for them, the first three lines of status are shown, and the rule under
them. -/
theorem statusRows_of_room (c : Console σ) (width : Nat) :
    statusRows c width (min (max c.serverStatus.length 1) 3 + 1) =
      ((statusLines c).take 3).map (row width {}) ++ [rule width] := by
  have all : (statusLines c).take (min (statusLines c).length 3) = (statusLines c).take 3 := by
    rw [List.take_eq_take_iff]
    omega
  rw [← length_statusLines, statusRows_succ width (Nat.min_le_left _ _), all]

end Screen

open Screen in
/-- **There is room for the server's status if its lines can be counted.**  The height that is asked
for is that of up to three lines and the rule exactly if the number of lines is one of 16 bits, or is
three at least when it is taken as one; otherwise it is less, but never less than a line and the rule.
Where nothing that counts is lost, what is drawn on a screen with six rows or more begins with the first
three lines of status and the rule under them. -/
theorem App.room_for_status {σ : Type} (app : App σ) :
    let c := app.session.console
    let n := c.serverStatus.length
    (statusHeight n = min (max n 1) 3 + 1 ↔ n < UInt16.size ∨ 3 ≤ n % UInt16.size) ∧
      2 ≤ statusHeight n ∧ statusHeight n ≤ min (max n 1) 3 + 1 ∧
      ((n < UInt16.size ∨ 3 ≤ n % UInt16.size) → ∀ width height, 6 ≤ height →
        ∃ below, (app.frame width height).rows =
          shown width (((statusLines c).take 3).map (row width {}) ++ rule width :: below)) := by
  intro c n
  refine ⟨statusHeight_eq_iff n, (statusHeight_le n).1, (statusHeight_le n).2, ?_⟩
  intro counted width height room
  have wanted : statusHeight n = min (max n 1) 3 + 1 := (statusHeight_eq_iff n).2 counted
  have shared := regions_of_room room (by omega : min (max n 1) 3 + 1 ≤ 4)
  rw [frame]
  dsimp only
  rw [wanted, shared, statusRows_of_room]
  rw [List.append_assoc, List.append_assoc]
  exact ⟨_, rfl⟩

/-- A client that prints 65536 lines has the same room as one that prints none: one line is shown. -/
theorem Screen.no_room_for_status :
    let printed := "\n".intercalate (List.replicate UInt16.size "x")
    let c : Console Unit := Console.setServerStatus printed { client := () }
    let n := c.serverStatus.length
    n = UInt16.size ∧ statusHeight n = 2 ∧ min (max n 1) 3 + 1 = 4 ∧
      statusRows c 1 (statusHeight n) = [row 1 {} (.plain "x"), rule 1] := by
  intro printed c n
  have lines : c.serverStatus = List.replicate UInt16.size "x" := by
    refine Console.serverStatus_setServerStatus _ fun line hline ↦ ?_
    obtain rfl := List.eq_of_mem_replicate hline
    refine ⟨by decide, fun ch hch ↦ ?_, by decide⟩
    obtain rfl : 'x' = ch := Option.some.inj hch
    decide
  have count : n = UInt16.size := by
    rw [show n = c.serverStatus.length from rfl, lines, List.length_replicate]
  have shown : statusLines c = List.replicate UInt16.size (.plain "x") := by
    rw [statusLines, lines, List.map_replicate]
    exact if_neg (List.cons_ne_nil "x" (List.replicate 65535 "x"))
  rw [count]
  refine ⟨rfl, rfl, rfl, ?_⟩
  rw [show statusHeight UInt16.size = 1 + 1 from rfl, statusRows_succ, shown, List.take_replicate]
  · rfl
  · rw [shown, List.length_replicate]
    decide

end Jukebox
