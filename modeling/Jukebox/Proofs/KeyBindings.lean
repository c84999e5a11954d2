import Jukebox.Key.Keymap
import Jukebox.Proofs.ByteOrder
import Jukebox.Proofs.Lookup

/-!
# From a table of bindings to what a press does

A file has a table of bindings, which is laid over the default one, and of the chords that stand for
a press the first one in the order of their spellings decides.

* `Config.InForce` says which entries there are once the defaults are filled in, and
  `Config.getElem?_filled` that it is those.
* `Chord.StandsFor` and `Keymap.Decides` say which of them decides about a press, and
  `Keymap.bindingFor?_of_table` what the press does then.
* `Chord.Covers` says which chords take the press of another one; `Keymap.bindingFor?_press` is what
  comes of it.
-/

set_option autoImplicit false

namespace Jukebox

/-! ## The entries in force -/

namespace Config

open Std (TreeMap)

variable {table : List (String × String)} {bindings : TreeMap String String} {chord line : String}

/-- The line that a table has for a chord: the one of its last entry for the chord. -/
def Gives (table : List (String × String)) (chord line : String) : Prop :=
  LastBy Prod.fst table chord (chord, line)

/-- The entries of a table and the default ones that the table leaves in force. -/
inductive InForce (table : List (String × String)) (chord line : String) : Prop
  /-- An entry of the table, unless its line is blank. -/
  | written (gives : Gives table chord line) (nonblank : Text.isAllBlank line = false)
  /-- A default entry for a chord that the table does not mention. -/
  | byDefault (mem : (chord, line) ∈ defaultBindings) (unmentioned : ∀ e ∈ table, e.1 ≠ chord)

/-- If no chord is written twice, every entry counts. -/
theorem gives_iff_mem (h : (table.map Prod.fst).Nodup) :
    Gives table chord line ↔ (chord, line) ∈ table :=
  ⟨LastBy.mem, lastBy_of_mem h⟩

theorem gives_or_unmentioned (table : List (String × String)) (chord : String) :
    (∃ line, Gives table chord line) ∨ ∀ e ∈ table, e.1 ≠ chord := by
  by_cases mentioned : ∃ e ∈ table, e.1 = chord
  · obtain ⟨⟨_, line⟩, earlier, later, rfl, rfl, last⟩ := exists_lastBy mentioned
    exact .inl ⟨line, earlier, later, rfl, rfl, last⟩
  · exact .inr fun e he same ↦ mentioned ⟨e, he, same⟩

theorem getElem?_bind_self :
    (bind bindings (chord, line))[chord]? = if Text.isAllBlank line then none else some line := by
  rw [bind]
  split
  · exact TreeMap.getElem?_erase_self
  · exact TreeMap.getElem?_insert_self

theorem getElem?_bind_of_ne {e : String × String} (h : e.1 ≠ chord) :
    (bind bindings e)[chord]? = bindings[chord]? := by
  have other : compare e.1 chord ≠ .eq := mt Std.LawfulEqOrd.compare_eq_iff_eq.1 h
  rw [bind]
  split
  · rw [TreeMap.getElem?_erase, if_neg other]
  · rw [TreeMap.getElem?_insert, if_neg other]

theorem getElem?_foldl_bind_of_unmentioned (h : ∀ e ∈ table, e.1 ≠ chord) :
    (table.foldl bind bindings)[chord]? = bindings[chord]? := by
  induction table generalizing bindings with
  | nil => rfl
  | cons e table ih =>
    obtain ⟨he, rest⟩ := List.forall_mem_cons.1 h
    rw [List.foldl_cons, ih rest, getElem?_bind_of_ne he]

theorem Gives.getElem?_foldl_bind (h : Gives table chord line) :
    (table.foldl bind bindings)[chord]? = if Text.isAllBlank line then none else some line := by
  obtain ⟨earlier, later, rfl, -, last⟩ := h
  rw [List.foldl_append, List.foldl_cons, getElem?_foldl_bind_of_unmentioned last,
    getElem?_bind_self]

theorem getElem?_defaultBindings :
    (TreeMap.ofList defaultBindings)[chord]? = some line ↔ (chord, line) ∈ defaultBindings := by
  have found {line : String} (mem : (chord, line) ∈ defaultBindings) :
      (TreeMap.ofList defaultBindings)[chord]? = some line :=
    TreeMap.getElem?_ofList_of_mem Std.ReflCmp.compare_self (by decide +kernel) mem
  refine ⟨fun h ↦ ?_, found⟩
  -- what is found under a chord of the list is what the list has there
  by_cases known : (defaultBindings.map Prod.fst).contains chord = true
  · obtain ⟨⟨_, line'⟩, mem, rfl⟩ := List.mem_map.1 (List.contains_iff_mem.1 known)
    obtain rfl : line' = line := Option.some.inj ((found mem).symm.trans h)
    exact mem
  · rw [TreeMap.getElem?_ofList_of_contains_eq_false (Bool.not_eq_true _ ▸ known)] at h
    cases h

/-- **With the defaults filled in, there are the entries in force.** -/
theorem getElem?_filled (w : WrittenKeys) :
    w.filled.normal[chord]? = some line ↔ InForce w.normal chord line := by
  rw [WrittenKeys.filled]
  constructor
  · intro bound
    rcases gives_or_unmentioned w.normal chord with ⟨line', gives⟩ | unmentioned
    · rw [gives.getElem?_foldl_bind, Option.ite_none_left_eq_some] at bound
      obtain ⟨nonblank, same⟩ := bound
      obtain rfl := Option.some.inj same
      exact .written gives (Bool.eq_false_iff.2 nonblank)
    · rw [getElem?_foldl_bind_of_unmentioned unmentioned] at bound
      exact .byDefault (getElem?_defaultBindings.1 bound) unmentioned
  · rintro (⟨gives, nonblank⟩ | ⟨mem, unmentioned⟩)
    · rw [gives.getElem?_foldl_bind, nonblank]
      rfl
    · rw [getElem?_foldl_bind_of_unmentioned unmentioned]
      exact getElem?_defaultBindings.2 mem

theorem getElem?_filled_of_blank (w : WrittenKeys) (gives : Gives w.normal chord line)
    (blank : Text.isAllBlank line = true) : w.filled.normal[chord]? = none := by
  rw [WrittenKeys.filled, gives.getElem?_foldl_bind, if_pos blank]

end Config

/-! ## The entry that decides -/

/-- The text is a chord that stands for the press. -/
def Chord.StandsFor (written : String) (press : KeyPress) : Prop :=
  ∃ chord, parse? written = some chord ∧ chord.accepts press = true

theorem Chord.any_parse?_iff {written : String} {press : KeyPress} :
    ((parse? written).any fun c ↦ c.accepts press) = true ↔ StandsFor written press :=
  Option.any_eq_true _ _

namespace Binding

theorem ofLine_colon (rest : String) : ofLine (":" ++ rest) = .type rest := by
  rw [ofLine, String.toList_append]
  exact congrArg type String.ofList_toList

theorem ofLine_of_not_colon {line : String} (h : ∀ rest, line ≠ ":" ++ rest) :
    ofLine line = .run (Text.trim line) := by
  rw [ofLine]
  split
  · rename_i rest colon
    have same : line.toList = (":" ++ String.ofList rest).toList := by
      rw [colon, String.toList_append, String.toList_ofList, String.toList_ofList]
      rfl
    exact absurd (String.toList_inj.1 same) (h _)
  · rfl

end Binding

namespace Keymap

variable {names : KeyNames} {press : KeyPress} {binding : Binding} {chord line : String}

/-- The entry that decides about a press: of the entries whose chords stand for it, the one whose
spelling comes first. -/
structure Decides (entry : String → String → Prop) (press : KeyPress) (chord line : String) :
    Prop where
  bound : entry chord line
  standsFor : Chord.StandsFor chord press
  first : ∀ chord' line', entry chord' line' → Chord.StandsFor chord' press →
    chord' = chord ∨ Text.bytes chord < Text.bytes chord'

/-- In a list in some order, the first element with a property is the one that comes before all
others that have it. -/
theorem find?_eq_some_iff_of_pairwise {α : Type} {R : α → α → Prop} {p : α → Bool} {l : List α}
    {a : α} (sorted : l.Pairwise R) (asymm : ∀ {x y}, R x y → ¬ R y x) :
    l.find? p = some a ↔ a ∈ l ∧ p a = true ∧ ∀ b ∈ l, p b = true → b = a ∨ R a b := by
  constructor
  · intro h
    obtain ⟨hp, before, after, rfl, others⟩ := List.find?_eq_some_iff_append.1 h
    obtain ⟨later, -⟩ := List.pairwise_cons.1 (List.pairwise_append.1 sorted).2.1
    refine ⟨List.mem_append_right _ List.mem_cons_self, hp, fun b hb hpb ↦ ?_⟩
    rcases List.mem_append.1 hb with hb | hb
    · exact absurd hpb (by simpa using others b hb)
    · exact (List.mem_cons.1 hb).imp_right (later b)
  · rintro ⟨mem, hp, first⟩
    obtain ⟨before, after, rfl⟩ := List.append_of_mem mem
    refine List.find?_eq_some_iff_append.2 ⟨hp, before, after, rfl, fun b hb ↦ ?_⟩
    have earlier : R b a := (List.pairwise_append.1 sorted).2.2 b hb a List.mem_cons_self
    rw [Bool.not_eq_true', ← Bool.not_eq_true]
    intro hpb
    rcases first b (List.mem_append_left _ hb) hpb with rfl | later
    · exact asymm earlier earlier
    · exact asymm earlier later

/-- The entry that the scan of the bindings finds. -/
theorem find?_toList_eq_some_iff :
    (names.normal.toList.find? fun e ↦ (Chord.parse? e.1).any fun c ↦ c.accepts press) =
        some (chord, line) ↔
      Decides (fun chord line ↦ names.normal[chord]? = some line) press chord line := by
  have sorted : names.normal.toList.Pairwise fun e e' ↦ Text.bytes e.1 < Text.bytes e'.1 :=
    names.normal.ordered_keys_toList.imp fun h ↦ Text.bytes_lt (compareOfLessAndEq_eq_lt.mp h)
  rw [find?_eq_some_iff_of_pairwise sorted List.lt_asymm]
  simp only [Chord.any_parse?_iff, Prod.forall, Std.TreeMap.mem_toList_iff_getElem?_eq_some]
  constructor
  · rintro ⟨bound, standsFor, first⟩
    refine ⟨bound, standsFor, fun chord' line' bound' standsFor' ↦ ?_⟩
    exact (first chord' line' bound' standsFor').imp_left (congrArg Prod.fst)
  · rintro ⟨bound, standsFor, first⟩
    refine ⟨bound, standsFor, fun chord' line' bound' standsFor' ↦ ?_⟩
    rcases first chord' line' bound' standsFor' with rfl | later
    · -- a chord has one line only
      rw [bound] at bound'
      rw [Option.some.inj bound']
      exact .inl rfl
    · exact .inr later

/-- What a press does is what the line does of the entry that the scan finds. -/
theorem bindingFor?_eq (names : KeyNames) (press : KeyPress) :
    (ofNames names).bindingFor? press =
      (names.normal.toList.find? fun e ↦ (Chord.parse? e.1).any fun c ↦ c.accepts press).map
        fun e ↦ .ofLine e.2 := by
  have scan : (fun e ↦ Option.any (fun e ↦ e.1.accepts press) <| entry? e) =
      fun e ↦ (Chord.parse? e.1).any fun c ↦ c.accepts press := funext fun e ↦ Option.any_map
  rw [bindingFor?, ofNames, List.find?_filterMap, scan]
  cases found : names.normal.toList.find? fun e ↦
      (Chord.parse? e.1).any fun c ↦ c.accepts press with
  | none => rfl
  | some e =>
    have taken := List.find?_some found
    obtain ⟨chord, parsed, -⟩ := Chord.any_parse?_iff.1 taken
    rw [Option.bind_some, Option.map_some, entry?, parsed]
    rfl

theorem bindingFor?_eq_some_iff :
    (ofNames names).bindingFor? press = some binding ↔
      ∃ chord line, Decides (fun chord line ↦ names.normal[chord]? = some line) press chord line ∧
        .ofLine line = binding := by
  rw [bindingFor?_eq, Option.map_eq_some_iff]
  simp only [Prod.exists, find?_toList_eq_some_iff]

theorem bindingFor?_eq_none_iff :
    (ofNames names).bindingFor? press = none ↔
      ∀ chord line, names.normal[chord]? = some line → ¬ Chord.StandsFor chord press := by
  rw [bindingFor?_eq, Option.map_eq_none_iff, List.find?_eq_none]
  simp only [Chord.any_parse?_iff, Prod.forall, Std.TreeMap.mem_toList_iff_getElem?_eq_some]

/-- **From a table of bindings to what a press does.**  A press does what the chord says that is
spelled first of those that stand for it, among the entries of the table that are not blank and the
defaults for chords that the table does not mention; if there is none, it does nothing.  A blank
entry takes away the default that is spelled the same way, and puts nothing in its place.  A line
with a colon before it is typed, and any other is run. -/
theorem bindingFor?_of_table (w : Config.Written) (env : Config.Environment) (press : KeyPress) :
    (∀ binding, (ofNames (w.filled env).keys).bindingFor? press = some binding ↔
      ∃ chord line, Decides (Config.InForce w.keys.normal) press chord line ∧
        .ofLine line = binding) ∧
    ((ofNames (w.filled env).keys).bindingFor? press = none ↔
      ∀ chord line, Config.InForce w.keys.normal chord line → ¬ Chord.StandsFor chord press) ∧
    (∀ chord line, Config.Gives w.keys.normal chord line → Text.isAllBlank line = true →
      (w.filled env).keys.normal[chord]? = none) ∧
    (∀ rest, Binding.ofLine (":" ++ rest) = .type rest) ∧
    (∀ line, (∀ rest, line ≠ ":" ++ rest) → Binding.ofLine line = .run (Text.trim line)) := by
  have filled : (fun chord line ↦ (w.filled env).keys.normal[chord]? = some line) =
      Config.InForce w.keys.normal := by
    funext chord line
    exact propext (Config.getElem?_filled w.keys)
  refine ⟨fun binding ↦ ?_, ?_, fun chord line ↦ Config.getElem?_filled_of_blank w.keys,
    Binding.ofLine_colon, fun line ↦ Binding.ofLine_of_not_colon⟩
  · rw [bindingFor?_eq_some_iff, filled]
  · rw [bindingFor?_eq_none_iff, ← filled]

/-- The key `p` spelled another way, which comes before the default one, and the key `q` taken
away. -/
theorem bindingFor?_of_table_with_a_blank :
    let w : Config.Written := { keys := { normal := [(" p", ":add "), ("q", " ")] } }
    (∃ chord line, Decides (Config.InForce w.keys.normal) (.plain (.char 'p')) chord line ∧
      .ofLine line = Binding.type "add ") ∧
    (∀ chord line, Config.InForce w.keys.normal chord line →
      ¬ Chord.StandsFor chord (.plain (.char 'q'))) ∧
    (w.filled {}).keys.normal["q"]? = none ∧
    Binding.ofLine (":" ++ "add ") = .type "add " ∧ Binding.ofLine "pause" = .run "pause" := by
  intro w
  let keymap := ofNames (w.filled {}).keys
  have typed : keymap.bindingFor? (.plain (.char 'p')) = some (.type "add ") := by decide +kernel
  have nothing : keymap.bindingFor? (.plain (.char 'q')) = none := by decide +kernel
  have gives : Config.Gives w.keys.normal "q" " " :=
    (Config.gives_iff_mem (by decide)).2 (by decide)
  obtain ⟨decided, -, blank, colon, other⟩ := bindingFor?_of_table w {} (.plain (.char 'p'))
  obtain ⟨-, unbound, -⟩ := bindingFor?_of_table w {} (.plain (.char 'q'))
  refine ⟨(decided _).1 typed, unbound.1 nothing, blank _ _ gives (by decide), colon _, ?_⟩
  have plain (rest : String) : "pause" ≠ ":" ++ rest := fun h ↦ by
    have first := congrArg (·.toList.head?) h
    rw [String.toList_append] at first
    cases first
  rw [other "pause" plain]
  decide +kernel

end Keymap

/-! ## Chords that take the press of another one -/

namespace Chord

variable {c chord : Chord}

/-- A chord covers another one if it takes the other's press as well as its own: the chord of a
character with shift is covered by the one without. -/
def Covers (c chord : Chord) : Prop :=
  chord.key.isChar = true ∧ chord.shift = true ∧ c = { chord with shift := false }

/-- **The press of a chord is taken by the chord and by the one that covers it.** -/
theorem accepts_press_iff : c.accepts chord.press = true ↔ c = chord ∨ c.Covers chord := by
  obtain ⟨key, control, alt, shift, metaKey⟩ := c
  obtain ⟨key', control', alt', shift', metaKey'⟩ := chord
  simp only [accepts, press, Covers, Bool.and_eq_true, Bool.or_eq_true, Bool.or_false, beq_iff_eq,
    Bool.not_eq_true', mk.injEq]
  -- nothing but the shift can differ
  constructor
  · rintro ⟨⟨⟨⟨rfl, rfl⟩, rfl⟩, rfl⟩, rfl | ⟨isChar, rfl⟩⟩
    · exact .inl ⟨rfl, rfl, rfl, rfl, rfl⟩
    · cases shift' with
      | false => exact .inl ⟨rfl, rfl, rfl, rfl, rfl⟩
      | true => exact .inr ⟨isChar, rfl, rfl, rfl, rfl, rfl, rfl⟩
  · rintro (⟨rfl, rfl, rfl, rfl, rfl⟩ | ⟨isChar, rfl, rfl, rfl, rfl, rfl, rfl⟩)
    · exact ⟨⟨⟨⟨rfl, rfl⟩, rfl⟩, rfl⟩, .inl rfl⟩
    · exact ⟨⟨⟨⟨rfl, rfl⟩, rfl⟩, rfl⟩, .inr ⟨isChar, rfl⟩⟩

end Chord

namespace Keymap

/-- The first chord of the list that takes the press decides. -/
theorem bindingFor?_of_append {k : Keymap} {press : KeyPress} {first rest : List (Chord × Binding)}
    {chord : Chord} {binding : Binding} (entries : k.normal = first ++ (chord, binding) :: rest)
    (takes : chord.accepts press = true) (others : ∀ e ∈ first, e.1.accepts press ≠ true) :
    k.bindingFor? press = some binding := by
  rw [bindingFor?, entries, List.find?_append, List.find?_eq_none.2 others, Option.none_or,
    List.find?_cons, takes]
  rfl

/-- **What the press of a bound chord does.**  It does what the chord's binding says, unless the
chord is covered by one that is bound before it; then it does what the first such binding says. -/
theorem bindingFor?_press (names : KeyNames) (before after : List (Chord × Binding)) (chord : Chord)
    (binding : Binding) (entries : (ofNames names).normal = before ++ (chord, binding) :: after)
    (alone : ∀ e ∈ before ++ after, e.1 ≠ chord) :
    ((∀ e ∈ before, ¬ e.1.Covers chord) →
      (ofNames names).bindingFor? chord.press = some binding) ∧
    (∀ first cover covering rest, before = first ++ (cover, covering) :: rest →
      cover.Covers chord → (∀ e ∈ first, ¬ e.1.Covers chord) →
      (ofNames names).bindingFor? chord.press = some covering) := by
  have passed {first : List (Chord × Binding)} (part : ∀ e ∈ first, e ∈ before)
      (uncovered : ∀ e ∈ first, ¬ e.1.Covers chord) :
      ∀ e ∈ first, e.1.accepts chord.press ≠ true := by
    intro e he takes
    rcases Chord.accepts_press_iff.1 takes with same | covers
    · exact alone e (List.mem_append_left after (part e he)) same
    · exact uncovered e he covers
  constructor
  · intro uncovered
    exact bindingFor?_of_append entries (Chord.accepts_press chord)
      (passed (fun _ he ↦ he) uncovered)
  · rintro first cover covering rest rfl covers uncovered
    rw [List.append_assoc, List.cons_append] at entries
    exact bindingFor?_of_append entries (Chord.accepts_press_iff.2 (.inr covers))
      (passed (fun _ he ↦ List.mem_append_left _ he) uncovered)

/-- The letter `p` with and without shift.  Without shift its spelling comes first, and it takes
both presses. -/
theorem bindingFor?_press_of_p :
    let names : KeyNames :=
      { command := ":", search := "/", complete := "tab", escape := "esc"
        normal := .ofList [("p", "pause"), ("shift+p", "clear")] }
    let p : Chord := { key := .char 'p' }
    let shiftP : Chord := { key := .char 'p', shift := true }
    (ofNames names).normal = [(p, .run "pause"), (shiftP, .run "clear")] ∧ p.Covers shiftP ∧
      (ofNames names).bindingFor? p.press = some (.run "pause") ∧
      (ofNames names).bindingFor? shiftP.press = some (.run "pause") := by
  intro names p shiftP
  have entries : (ofNames names).normal = [(p, .run "pause"), (shiftP, .run "clear")] := by
    decide +kernel
  have covers : p.Covers shiftP := ⟨rfl, rfl, rfl⟩
  obtain ⟨own, -⟩ := bindingFor?_press names [] [(shiftP, .run "clear")] p (.run "pause") entries
    (by decide)
  obtain ⟨-, covered⟩ := bindingFor?_press names [(p, .run "pause")] [] shiftP (.run "clear")
    entries (by decide)
  exact ⟨entries, covers, own (List.forall_mem_nil _),
    covered [] p (.run "pause") [] rfl covers (List.forall_mem_nil _)⟩

/-- A press need not do what the binding of its own chord says, even if no other binding has that
chord. -/
theorem not_forall_bindingFor?_press :
    ¬ ∀ (names : KeyNames) (before after : List (Chord × Binding)) (chord : Chord)
        (binding : Binding), (ofNames names).normal = before ++ (chord, binding) :: after →
      (∀ e ∈ before ++ after, e.1 ≠ chord) →
      (ofNames names).bindingFor? chord.press = some binding := by
  intro all
  have clears := all
    { command := ":", search := "/", complete := "tab", escape := "esc"
      normal := .ofList [("p", "pause"), ("shift+p", "clear")] }
    [({ key := .char 'p' }, .run "pause")] [] { key := .char 'p', shift := true } (.run "clear")
    (by decide +kernel) (by decide)
  revert clears
  decide +kernel

end Keymap
end Jukebox
