import Jukebox.Command.Builtin
import Mathlib.Data.List.Nodup
import Mathlib.Tactic.Common

/-!
# Looking operations up

An operation is found under the name that it was registered under, unless another one has been
registered under the same name since.

* `LastBy` is the last element of a list that has a key.
* `Catalogue.Last` says that an operation is the last one of its name, and
  `Catalogue.get?_registerAll_eq_some_iff` that exactly such operations are found.
* `Catalogue.get?_standard_eq_some_iff`: no two standard operations have the same name, so all of
  them are found.
* `Catalogue.forall_standard_named` goes through the standard operations with their names, and
  `Catalogue.forall_standard` without.
-/

set_option autoImplicit false

namespace Jukebox

/-! ## The last element with a key -/

section

variable {α κ : Type*} {key : α → κ} {l : List α} {k : κ} {a : α}

/-- An element of a list with one more at its end is that one, or an element of the list. -/
theorem concat_eq_append_cons_iff {earlier later : List α} {b : α} :
    l ++ [b] = earlier ++ a :: later ↔
      (earlier = l ∧ a = b ∧ later = []) ∨
        ∃ later', later = later' ++ [b] ∧ l = earlier ++ a :: later' := by
  constructor
  · intro split
    rcases List.eq_nil_or_concat' later with rfl | ⟨later, c, rfl⟩
    · obtain ⟨rfl, same⟩ := List.append_inj' split rfl
      exact .inl ⟨rfl, (List.singleton_inj.1 same).symm, rfl⟩
    · rw [← List.cons_append, ← List.append_assoc] at split
      obtain ⟨rfl, same⟩ := List.append_inj' split rfl
      obtain rfl := List.singleton_inj.1 same
      exact .inr ⟨later, rfl, rfl⟩
  · rintro (⟨rfl, rfl, rfl⟩ | ⟨later, rfl, rfl⟩)
    · rfl
    · rw [List.append_assoc, List.cons_append]

/-- The element is the last one of the list that has the key. -/
def LastBy (key : α → κ) (l : List α) (k : κ) (a : α) : Prop :=
  ∃ earlier later, l = earlier ++ a :: later ∧ key a = k ∧ ∀ b ∈ later, key b ≠ k

theorem LastBy.mem (h : LastBy key l k a) : a ∈ l := by
  obtain ⟨earlier, later, rfl, -⟩ := h
  simp

theorem exists_lastBy (h : ∃ a ∈ l, key a = k) : ∃ a, LastBy key l k a := by
  induction l with
  | nil => simp at h
  | cons first rest ih =>
    -- one of the rest comes later, so the first is the last with its key only if there is none
    by_cases hrest : ∃ a ∈ rest, key a = k
    · obtain ⟨a, earlier, later, rfl, hlast⟩ := ih hrest
      exact ⟨a, first :: earlier, later, rfl, hlast⟩
    · obtain ⟨b, hb, hkey⟩ := h
      rcases List.mem_cons.1 hb with rfl | hb
      · exact ⟨b, [], rest, rfl, hkey, fun c hc he ↦ hrest ⟨c, hc, he⟩⟩
      · exact absurd ⟨b, hb, hkey⟩ hrest

/-- Where all keys differ, every element is the last with its key. -/
theorem lastBy_of_mem (nodup : (l.map key).Nodup) (h : a ∈ l) : LastBy key l (key a) a := by
  obtain ⟨earlier, later, rfl⟩ := List.append_of_mem h
  refine ⟨earlier, later, rfl, rfl, fun b hb he ↦ ?_⟩
  rw [List.map_append, List.map_cons] at nodup
  have fresh : key a ∉ later.map key := (List.nodup_cons.1 nodup.of_append_right).1
  exact fresh (List.mem_map.2 ⟨b, hb, he⟩)

end

namespace Catalogue

variable {σ : Type} {ops : List (Operation σ)} {op op' : Operation σ} {name : String}

/-! ## The last operation of a name -/

/-- The operation is the last one that is registered under a name. -/
def Last (ops : List (Operation σ)) (name : String) (op : Operation σ) : Prop :=
  ∃ earlier later, ops = earlier ++ op :: later ∧ op.name = name ∧ ∀ o ∈ later, o.name ≠ name

theorem Last.mem (h : Last ops name op) : op ∈ ops := LastBy.mem h

theorem Last.name_eq (h : Last ops name op) : op.name = name := by
  obtain ⟨-, -, -, hname, -⟩ := h
  exact hname

theorem Last.not_unregistered (h : Last ops name op) : ¬ ∀ o ∈ ops, o.name ≠ name := by
  intro hnone
  exact hnone op h.mem h.name_eq

theorem exists_last (h : ∃ o ∈ ops, o.name = name) : ∃ op, Last ops name op := exists_lastBy h

/-- Where all names differ, every operation is the last of its name. -/
theorem last_of_mem (nodup : (ops.map Operation.name).Nodup) (h : op ∈ ops) :
    Last ops op.name op :=
  lastBy_of_mem nodup h

/-! ## What is found -/

theorem get?_register (c : Catalogue σ) (op : Operation σ) (name : String) :
    (c.register op).get? name = if op.name = name then some op else c.get? name := by
  rw [get?, register, Std.TreeMap.getElem?_insert]
  simp only [Std.LawfulEqOrd.compare_eq_iff_eq]
  rfl

/-- Registering operations makes no difference to other names. -/
theorem get?_registerAll_of_forall_ne (h : ∀ o ∈ ops, o.name ≠ name) (c : Catalogue σ) :
    (c.registerAll ops).get? name = c.get? name := by
  induction ops generalizing c with
  | nil => rfl
  | cons first rest ih =>
    have kept := ih (fun o ho ↦ h o (List.mem_cons_of_mem _ ho)) (c.register first)
    rw [get?_register, if_neg (h first List.mem_cons_self)] at kept
    exact kept

theorem Last.get?_registerAll (h : Last ops name op) (c : Catalogue σ) :
    (c.registerAll ops).get? name = some op := by
  obtain ⟨earlier, later, rfl, hname, hlater⟩ := h
  have split : c.registerAll (earlier ++ op :: later) =
      ((c.registerAll earlier).register op).registerAll later := by
    simp only [registerAll, List.foldl_append, List.foldl_cons]
  rw [split, get?_registerAll_of_forall_ne hlater, get?_register, if_pos hname]

/-- A name stands for one operation at most. -/
theorem Last.eq (h : Last ops name op) (h' : Last ops name op') : op = op' := by
  have found := h.get?_registerAll {}
  rw [h'.get?_registerAll] at found
  exact (Option.some.inj found).symm

/-- Nothing is found exactly if nothing is registered under the name. -/
theorem get?_registerAll_eq_none_iff :
    (registerAll {} ops).get? name = none ↔ ∀ o ∈ ops, o.name ≠ name := by
  constructor
  · intro h o ho hname
    obtain ⟨op, hlast⟩ := exists_last ⟨o, ho, hname⟩
    rw [hlast.get?_registerAll] at h
    cases h
  · intro h
    rw [get?_registerAll_of_forall_ne h, get?, Std.TreeMap.getElem?_emptyc]

/-- **What is found under a name is the last operation that is registered under it.** -/
theorem get?_registerAll_eq_some_iff :
    (registerAll {} ops).get? name = some op ↔ Last ops name op := by
  constructor
  · intro h
    have registered : ∃ o ∈ ops, o.name = name := by
      by_contra hnone
      rw [get?_registerAll_eq_none_iff.2 fun o ho hname ↦ hnone ⟨o, ho, hname⟩] at h
      cases h
    obtain ⟨op', hlast⟩ := exists_last registered
    rw [hlast.get?_registerAll] at h
    cases h
    exact hlast
  · intro h
    exact h.get?_registerAll _

/-! ## The standard operations -/

variable [Client σ]

variable (σ) in
/-- No two standard operations have the same name. -/
theorem nodup_standard : ((builtins σ ++ forwarders σ).map Operation.name).Nodup := by
  simp [builtins, forwarders, playerCommands]

/-- The standard operations are found under their own names. -/
theorem get?_standard_eq_some_iff :
    (standard σ).get? name = some op ↔ op ∈ builtins σ ++ forwarders σ ∧ op.name = name := by
  rw [standard, get?_registerAll_eq_some_iff]
  constructor
  · intro h
    exact ⟨h.mem, h.name_eq⟩
  · rintro ⟨hmem, rfl⟩
    exact last_of_mem (nodup_standard σ) hmem

/-- What holds of every standard action under its name holds of every operation of the standard
catalogue. -/
theorem forall_standard_named
    {P : String → OperationKind → (List String → String → CommandM σ Unit) → Prop}
    (set : P "set" .standalone fun _ ↦ Builtin.set) (mpc : P "mpc" .player fun _ ↦ Builtin.mpc)
    (manageAliases : P "alias" .standalone fun _ ↦ Builtin.manageAliases)
    (connect : P "connect" .connecting fun _ ↦ Builtin.connect)
    (echo : P "echo" .standalone fun _ ↦ Builtin.echo)
    (help : P "help" .standalone fun text _ ↦ Builtin.help text)
    (redraw : P "redraw" .standalone fun _ _ ↦ Builtin.redraw)
    (quit : ∀ name, P name .standalone fun _ _ ↦ Builtin.quit)
    (search : P "search" .player fun _ ↦ Builtin.search)
    (searchNext : P "searchnext" .standalone fun _ _ ↦ Builtin.searchMove .next)
    (searchPrevious : P "searchprev" .standalone fun _ _ ↦ Builtin.searchMove .previous)
    (pass : ∀ name word, P name .player fun _ ↦ Builtin.pass word)
    (h : (standard σ).get? name = some op) : P name op.kind op.run := by
  obtain ⟨hmem, rfl⟩ := get?_standard_eq_some_iff.1 h
  rcases List.mem_append.1 hmem with h | h
  · simp only [builtins, List.mem_cons, List.not_mem_nil, or_false] at h
    rcases h with rfl | rfl | rfl | rfl | rfl | rfl | rfl | rfl | rfl | rfl | rfl | rfl
    · exact set
    · exact mpc
    · exact manageAliases
    · exact connect
    · exact echo
    · exact help
    · exact redraw
    · exact quit _
    · exact quit _
    · dsimp only
      exact search
    · exact searchNext
    · exact searchPrevious
  · obtain ⟨⟨name, word, description⟩, -, rfl⟩ := List.mem_map.1 h
    exact pass name word

/-- What holds of every standard action holds of every operation of the standard catalogue. -/
theorem forall_standard {P : OperationKind → (List String → String → CommandM σ Unit) → Prop}
    (set : P .standalone fun _ ↦ Builtin.set) (mpc : P .player fun _ ↦ Builtin.mpc)
    (manageAliases : P .standalone fun _ ↦ Builtin.manageAliases)
    (connect : P .connecting fun _ ↦ Builtin.connect) (echo : P .standalone fun _ ↦ Builtin.echo)
    (help : P .standalone fun text _ ↦ Builtin.help text)
    (redraw : P .standalone fun _ _ ↦ Builtin.redraw) (quit : P .standalone fun _ _ ↦ Builtin.quit)
    (search : P .player fun _ ↦ Builtin.search)
    (searchNext : P .standalone fun _ _ ↦ Builtin.searchMove .next)
    (searchPrevious : P .standalone fun _ _ ↦ Builtin.searchMove .previous)
    (pass : ∀ word, P .player fun _ ↦ Builtin.pass word)
    (h : (standard σ).get? name = some op) : P op.kind op.run :=
  forall_standard_named (P := fun _ ↦ P) set mpc manageAliases connect echo help redraw
    (fun _ ↦ quit) search searchNext searchPrevious (fun _ ↦ pass) h

end Catalogue
end Jukebox
