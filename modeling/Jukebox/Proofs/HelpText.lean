import Jukebox.Proofs.ByteOrder
import Jukebox.Proofs.Lookup
import Jukebox.Proofs.Occurrences
import Mathlib.Data.List.Forall2
import Mathlib.Data.List.MinMax

/-!
# The help text

The help text has one line for every operation, and all descriptions stand in one column.  That column
is found from the length of the names in bytes, while the spaces before it are counted in characters.
A name has no more characters than bytes, so there is room for every name.

* `Catalogue.Describes` says how an operation stands on a line, and `Catalogue.describes_line` that it
  does, wherever the column is, if only the name fits.
* `Catalogue.Longest` is the number of bytes that all names fit into.
* `Catalogue.mem_toList_registerAll_iff` says what a catalogue holds.
* `Catalogue.help_describes_every_operation` is the outcome.
-/

set_option autoImplicit false

namespace Jukebox

/-- No text has more characters than bytes. -/
theorem Text.length_le_utf8ByteSize (s : String) : s.length ≤ s.utf8ByteSize := by
  rw [← byteLength_toList, ← String.length_toList]
  induction s.toList with
  | nil => exact Nat.le_refl 0
  | cons c cs ih =>
    have pos := c.utf8Size_pos
    rw [Chars.byteLength_cons, List.length_cons]
    omega

namespace Catalogue

variable {σ : Type} {ops : List (Operation σ)} {op : Operation σ} {name : String} {width : Nat}

/-! ## One line -/

/-- The line of an operation: its name behind a colon, spaces, and its description in a column. -/
def Describes (column : Nat) (op : Operation σ) (line : String) : Prop :=
  ∃ spaces, (∀ c ∈ spaces.toList, c = ' ') ∧
    line = ":" ++ op.name ++ spaces ++ " " ++ op.description ∧
    (":" ++ op.name ++ spaces ++ " ").length = column

theorem describes_line (fits : op.name.length ≤ width) :
    Describes (width + 2) op (":" ++ pad width op.name ++ " " ++ op.description) := by
  refine ⟨.ofList (.replicate (width - op.name.length) ' '), ?_, ?_, ?_⟩
  · intro c hc
    rw [String.toList_ofList] at hc
    exact List.eq_of_mem_replicate hc
  · rw [pad, String.append_assoc]
    simp only [String.append_assoc]
  · have spaces : (String.ofList (.replicate (width - op.name.length) ' ')).length =
        width - op.name.length := by
      rw [← String.length_toList, String.toList_ofList, List.length_replicate]
    rw [String.length_append, String.length_append, String.length_append, spaces,
      show ":".length = 1 by decide, show " ".length = 1 by decide]
    omega

/-! ## The longest name -/

/-- The number of bytes that all names fit into, the longest one exactly. -/
structure Longest (ops : List (Operation σ)) (n : Nat) : Prop where
  fits : ∀ op ∈ ops, op.name.utf8ByteSize ≤ n
  attained : ops ≠ [] → ∃ op ∈ ops, op.name.utf8ByteSize = n

theorem foldr_max_mem {l : List Nat} (h : l ≠ []) : l.foldr max 0 ∈ l := by
  induction l with
  | nil => exact absurd rfl h
  | cons n l ih =>
    rcases eq_or_ne l [] with rfl | some_left
    · simp
    · rw [List.foldr_cons]
      rcases max_choice n (l.foldr max 0) with hmax | hmax
      · rw [hmax]
        exact List.mem_cons_self
      · rw [hmax]
        exact List.mem_cons_of_mem _ (ih some_left)

/-! ## What a catalogue holds -/

theorem names_eq (c : Catalogue σ) : c.names = c.table.toList.map Prod.fst :=
  Std.TreeMap.map_fst_toList_eq_keys.symm

theorem values_eq (c : Catalogue σ) : c.table.values = c.table.toList.map Prod.snd := by
  have folded : c.table.values = c.table.foldr (fun _ op l ↦ op :: l) [] := rfl
  rw [folded, Std.TreeMap.foldr_eq_foldr_toList, List.map_eq_foldr]

/-- What has been registered is held under its name, in the order of the names. -/
theorem mem_toList_registerAll_iff {p : String × Operation σ} :
    p ∈ (registerAll {} ops).table.toList ↔ Last ops p.1 p.2 := by
  rw [← get?_registerAll_eq_some_iff]
  exact Std.TreeMap.mem_toList_iff_getElem?_eq_some

theorem mem_names_registerAll_iff :
    name ∈ (registerAll {} ops).names ↔ ∃ op ∈ ops, op.name = name := by
  rw [mem_names, Option.isSome_iff_exists]
  constructor
  · rintro ⟨op, found⟩
    have last := get?_registerAll_eq_some_iff.1 found
    exact ⟨op, last.mem, last.name_eq⟩
  · intro registered
    obtain ⟨op, last⟩ := exists_last registered
    exact ⟨op, last.get?_registerAll _⟩

theorem longest_registerAll (ops : List (Operation σ)) :
    Longest ops (((registerAll {} ops).names.map String.utf8ByteSize).foldr max 0) := by
  constructor
  · intro op hop
    have listed : op.name ∈ (registerAll {} ops).names := mem_names_registerAll_iff.2 ⟨op, hop, rfl⟩
    exact List.le_max_of_le' 0 (List.mem_map_of_mem listed) (Nat.le_refl _)
  · intro some_op
    obtain ⟨op, hop⟩ := List.exists_mem_of_ne_nil ops some_op
    have listed : op.name ∈ (registerAll {} ops).names := mem_names_registerAll_iff.2 ⟨op, hop, rfl⟩
    have some_name := List.ne_nil_of_mem (List.mem_map_of_mem (f := String.utf8ByteSize) listed)
    obtain ⟨name, hname, size⟩ := List.mem_map.1 (foldr_max_mem some_name)
    obtain ⟨op', hop', rfl⟩ := mem_names_registerAll_iff.1 hname
    exact ⟨op', hop', size⟩

/-- **The help text describes every operation, once and in one column.**  Whatever operations are
registered, and in whatever order, the names of the catalogue are those that they have, each of them
once and in the order of their bytes.  The help text has one line for each of these names in turn: that
of the operation registered last under the name.  All descriptions begin in the column that leaves room
for the colon, the longest name in bytes, and one space. -/
theorem help_describes_every_operation (ops : List (Operation σ)) :
    (∀ name, name ∈ (registerAll {} ops).names ↔ ∃ op ∈ ops, op.name = name) ∧
      ((registerAll {} ops).names.Pairwise fun name name' ↦ Text.bytes name < Text.bytes name') ∧
      ∃ longest, Longest ops longest ∧
        List.Forall₂ (fun name line ↦ ∃ op, Last ops name op ∧ Describes (longest + 2) op line)
          (registerAll {} ops).names (registerAll {} ops).help := by
  refine ⟨fun name ↦ mem_names_registerAll_iff, names_sorted _, _, longest_registerAll ops, ?_⟩
  have longest := longest_registerAll ops
  rw [help]
  generalize ((registerAll {} ops).names.map String.utf8ByteSize).foldr max 0 = width at longest ⊢
  rw [values_eq, names_eq, List.map_map, List.forall₂_map_left_iff, List.forall₂_map_right_iff,
    List.forall₂_same]
  intro p hp
  have last := mem_toList_registerAll_iff.1 hp
  refine ⟨p.2, last, describes_line ?_⟩
  exact (Text.length_le_utf8ByteSize _).trans (longest.fits _ last.mem)

/-- A name with more bytes than characters moves the column, and not the descriptions apart. -/
example :
    (registerAll {} [⟨"né", "old", .player, fun _ _ ↦ pure ()⟩,
      ⟨"go", "walk", .standalone, fun _ _ ↦ pure ()⟩,
      ⟨"né", "born", .standalone, fun _ _ ↦ pure ()⟩] : Catalogue Unit).help =
      [":go  walk", ":né  born"] := by
  decide +kernel

end Catalogue
end Jukebox
