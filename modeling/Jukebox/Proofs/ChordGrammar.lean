import Jukebox.Key.Chord
import Jukebox.Proofs.Trimming
import Jukebox.Proofs.Words
import Mathlib.Data.List.Forall2
import Mathlib.Tactic.MkIffOfInductiveProp

/-!
# The grammar of chords

A chord is written as parts with plus signs between them.  It has to be one key and any number of
modifiers, in any order, and nothing else about the way in which it is written makes a difference.

* `Chord.pieces` are the parts on lists of characters.  `Chord.pieces_append_plus` and
  `Chord.pieces_of_notMem` say all that there is to know of them, and `Chord.parts_pad` that plus
  signs and blanks around the parts are no parts.
* `Chord.IsSpelledBy` says which parts spell a chord, and `Chord.parse?_eq_some_iff` that those are
  the chords that are read.
* `Chord.parse?_grammar` is the outcome.
-/

set_option autoImplicit false

namespace Jukebox

/-! ## Taking a text apart -/

namespace Text

namespace Chars

variable {sep : Char} {cs ds bs : List Char}

theorem splitAll_ne_nil (sep : Char) (cs : List Char) : splitAll sep cs ≠ [] := by
  cases cs with
  | nil => exact List.cons_ne_nil _ _
  | cons c cs =>
    rw [splitAll]
    split
    · exact List.cons_ne_nil _ _
    · cases splitAll sep cs <;> exact List.cons_ne_nil _ _

theorem splitAll_append (sep : Char) (cs ds : List Char) :
    splitAll sep (cs ++ sep :: ds) = splitAll sep cs ++ splitAll sep ds := by
  induction cs with
  | nil => exact if_pos rfl
  | cons c cs ih =>
    rw [List.cons_append, splitAll, splitAll, ih]
    split
    · rfl
    · exact consHead_append (splitAll_ne_nil sep cs)

theorem splitAll_of_notMem (h : sep ∉ cs) : splitAll sep cs = [cs] := by
  induction cs with
  | nil => rfl
  | cons c cs ih =>
    obtain ⟨hc, hcs⟩ := not_or.1 fun hmem ↦ h (List.mem_cons.2 hmem)
    rw [splitAll, if_neg (Ne.symm hc), ih hcs]
    rfl

/-- Where a character occurs, there is a last occurrence. -/
theorem exists_last_occurrence (h : sep ∈ cs) : ∃ ds bs, cs = ds ++ sep :: bs ∧ sep ∉ bs := by
  obtain ⟨bs, ds, split, last⟩ := List.eq_append_cons_of_mem (List.mem_reverse.2 h)
  refine ⟨ds.reverse, bs.reverse, ?_, by rwa [List.mem_reverse]⟩
  rw [← List.reverse_reverse cs, split, List.reverse_append, List.reverse_cons, List.append_assoc,
    List.singleton_append]

end Chars

/-- A character and its lower-case form in ASCII have the same lower-case form. -/
theorem foldLetter_toLower (c : Char) : foldLetter c.toLower = foldLetter c := by
  rcases toLower_cases c with ⟨lower, upper, code⟩ | same
  · have letter {d : Char} (h : d.toNat < 128) : foldLetter d = d.toLower := by
      refine if_neg fun kelvin ↦ ?_
      rw [kelvin] at h
      exact absurd h (by decide)
    -- a small letter is no capital one, so that it stays as it is
    have again : c.toLower.toLower = c.toLower := by
      rcases toLower_cases c.toLower with ⟨-, upper', -⟩ | same
      · omega
      · exact same
    rw [letter (by omega), letter (by omega), again]
  · rw [same]

/-- Words that differ in the case of letters of ASCII are the same in lower case. -/
theorem foldWord_congr {s t : String} (h : lowerAscii s = lowerAscii t) :
    foldWord s = foldWord t := by
  have same : s.toList.map Char.toLower = t.toList.map Char.toLower := String.ofList_injective h
  have folded (s : String) : foldWord s = .ofList ((s.toList.map Char.toLower).map foldLetter) := by
    rw [foldWord, List.map_map]
    congr 1
    exact List.map_congr_left fun c _ ↦ (foldLetter_toLower c).symm
  rw [folded, folded, same]

theorem length_lowerAscii (s : String) : (lowerAscii s).length = s.length := by
  simp [lowerAscii, ← String.length_toList]

theorem length_foldWord (s : String) : (foldWord s).length = s.length := by
  simp [foldWord, ← String.length_toList]

end Text

/-! ## Parts -/

namespace Chord

open Text (isBlank)
open Text.Chars (trim splitAll)

variable {s t : String} {cs ds bs : List Char} {b : Char}

/-- The parts of a text: what stands between its plus signs, trimmed, and without the empty
pieces. -/
def pieces (cs : List Char) : List String :=
  ((splitAll '+' cs).map fun p ↦ .ofList (trim p)).filter (!·.isEmpty)

theorem pieces_append_plus (cs ds : List Char) :
    pieces (cs ++ '+' :: ds) = pieces cs ++ pieces ds := by
  simp only [pieces, Text.Chars.splitAll_append, List.map_append, List.filter_append]

theorem pieces_of_notMem (h : '+' ∉ cs) :
    pieces cs = [String.ofList (trim cs)].filter (!·.isEmpty) := by
  rw [pieces, Text.Chars.splitAll_of_notMem h, List.map_singleton]

theorem plus_notMem_of_blanks (h : ∀ b ∈ bs, isBlank b = true) : '+' ∉ bs := fun hmem ↦
  absurd (h '+' hmem) (by decide)

/-- Blanks behind a text are no part and belong to none. -/
theorem pieces_append_blanks (cs : List Char) (h : ∀ b ∈ bs, isBlank b = true) :
    pieces (cs ++ bs) = pieces cs := by
  -- the blanks reach no further than the last piece
  have tail {ds : List Char} (hds : '+' ∉ ds) : pieces (ds ++ bs) = pieces ds := by
    have none : '+' ∉ ds ++ bs := fun hmem ↦
      (List.mem_append.1 hmem).elim hds (plus_notMem_of_blanks h)
    rw [pieces_of_notMem none, pieces_of_notMem hds, Text.Chars.trim_append_blanks h]
  by_cases hplus : '+' ∈ cs
  · obtain ⟨as, ds, rfl, hds⟩ := Text.Chars.exists_last_occurrence hplus
    rw [List.append_assoc, List.cons_append, pieces_append_plus, pieces_append_plus, tail hds]
  · exact tail hplus

/-- Blanks before a text are no part and belong to none. -/
theorem pieces_blanks_append (cs : List Char) (h : ∀ b ∈ bs, isBlank b = true) :
    pieces (bs ++ cs) = pieces cs := by
  have head {ds : List Char} (hds : '+' ∉ ds) : pieces (bs ++ ds) = pieces ds := by
    have none : '+' ∉ bs ++ ds := fun hmem ↦
      (List.mem_append.1 hmem).elim (plus_notMem_of_blanks h) hds
    rw [pieces_of_notMem none, pieces_of_notMem hds, Text.Chars.trim_blanks_append h]
  by_cases hplus : '+' ∈ cs
  · obtain ⟨ds, as, rfl, hds⟩ := List.eq_append_cons_of_mem hplus
    rw [← List.append_assoc, pieces_append_plus, pieces_append_plus, head hds]
  · exact head hplus

theorem pieces_blanks (h : ∀ b ∈ bs, isBlank b = true) : pieces bs = [] := by
  rw [← List.append_nil bs, pieces_blanks_append [] h]
  rfl

theorem parts_eq (s : String) : parts s = pieces s.toList := by
  obtain ⟨bs, ds, split, hbs, hds⟩ := Text.Chars.exists_blanks_trim s.toList
  rw [split, pieces_blanks_append _ hbs, pieces_append_blanks _ hds, pieces, parts,
    Text.toList_trim]

/-! ## What stands around the parts -/

/-- A text of nothing but plus signs and blanks. -/
def IsPadding (s : String) : Prop := ∀ c ∈ s.toList, c = '+' ∨ isBlank c = true

/-- No part goes on behind the text: behind its last plus sign, or in all of it, there are only
blanks. -/
def EndsApart (s : String) : Prop :=
  ∃ bs, (∀ b ∈ bs, isBlank b = true) ∧ (s.toList = bs ∨ ∃ cs, s.toList = cs ++ '+' :: bs)

/-- No part begins before the text: before its first plus sign, or in all of it, there are only
blanks. -/
def BeginsApart (s : String) : Prop :=
  ∃ bs, (∀ b ∈ bs, isBlank b = true) ∧ (s.toList = bs ∨ ∃ cs, s.toList = bs ++ '+' :: cs)

theorem pieces_padding_append (cs : List Char) (h : ∀ c ∈ bs, c = '+' ∨ isBlank c = true) :
    pieces (bs ++ cs) = pieces cs := by
  induction bs with
  | nil => rfl
  | cons b bs ih =>
    obtain ⟨hb, hbs⟩ := List.forall_mem_cons.1 h
    rw [← ih hbs]
    rcases hb with rfl | hb
    · exact pieces_append_plus [] (bs ++ cs)
    · have blank : ∀ c ∈ [b], isBlank c = true := List.forall_mem_singleton.2 hb
      exact pieces_blanks_append (bs ++ cs) blank

theorem pieces_append_padding (cs : List Char) (h : ∀ c ∈ bs, c = '+' ∨ isBlank c = true) :
    pieces (cs ++ bs) = pieces cs := by
  induction bs generalizing cs with
  | nil => rw [List.append_nil]
  | cons b bs ih =>
    obtain ⟨hb, hbs⟩ := List.forall_mem_cons.1 h
    rcases hb with rfl | hb
    · have none : pieces bs = [] := by
        rw [← List.append_nil bs, pieces_padding_append [] hbs]
        rfl
      rw [pieces_append_plus, none, List.append_nil]
    · rw [List.append_cons, ih _ hbs, pieces_append_blanks cs (List.forall_mem_singleton.2 hb)]

theorem EndsApart.pieces_append (h : EndsApart s) (ds : List Char) :
    pieces (s.toList ++ ds) = pieces s.toList ++ pieces ds := by
  obtain ⟨bs, hbs, hs | ⟨cs, hs⟩⟩ := h
  · rw [hs, pieces_blanks_append ds hbs, pieces_blanks hbs, List.nil_append]
  · rw [hs, List.append_assoc, List.cons_append, pieces_append_plus, pieces_append_plus,
      pieces_blanks_append ds hbs, pieces_blanks hbs, List.append_nil]

theorem BeginsApart.pieces_append (h : BeginsApart s) (ds : List Char) :
    pieces (ds ++ s.toList) = pieces ds ++ pieces s.toList := by
  obtain ⟨bs, hbs, hs | ⟨cs, hs⟩⟩ := h
  · rw [hs, pieces_append_blanks ds hbs, pieces_blanks hbs, List.append_nil]
  · rw [hs, ← List.append_assoc, pieces_append_plus, pieces_append_plus,
      pieces_append_blanks ds hbs, pieces_blanks hbs, List.nil_append]

/-- **Plus signs and blanks around the parts are no parts.** -/
theorem parts_pad {w : String} (apart : EndsApart s ∨ BeginsApart t) (hw : IsPadding w) :
    parts (s ++ w ++ t) = parts (s ++ t) := by
  simp only [parts_eq, String.toList_append]
  rcases apart with h | h
  · rw [List.append_assoc, h.pieces_append, h.pieces_append, pieces_padding_append _ hw]
  · rw [h.pieces_append, h.pieces_append, pieces_append_padding _ hw]

end Chord

/-! ## Words -/

namespace ChordModifier

/-- The words for a modifier. -/
def words : ChordModifier → List String
  | control => ["ctrl", "control"]
  | alt => ["alt", "option"]
  | shift => ["shift"]
  | metaKey => ["meta", "cmd", "super"]

/-- A word for the modifier, in any case. -/
def IsNamed (m : ChordModifier) (word : String) : Prop := Text.foldWord word ∈ m.words

theorem ofWord?_eq_some_iff {m : ChordModifier} {word : String} :
    ofWord? word = some m ↔ m.IsNamed word := by
  unfold ofWord? IsNamed
  split <;> cases m <;> simp_all [words]

end ChordModifier

namespace Key

/-- The words for keys. -/
def names : List (String × Key) :=
  [("esc", escape), ("escape", escape), ("enter", enter), ("return", enter), ("cr", enter),
   ("tab", tab), ("backspace", backspace), ("bs", backspace), ("space", char ' '),
   ("spacebar", char ' '), ("up", up), ("down", down), ("left", left), ("right", right)]

/-- A word for the key in any case, or the character of the key as it is. -/
def IsNamed (key : Key) (word : String) : Prop :=
  (Text.foldWord word, key) ∈ names ∨ ∃ c, word.toList = [c] ∧ key = char c

theorem ofWord?_eq_some_iff {key : Key} {word : String} :
    ofWord? word = some key ↔ key.IsNamed word := by
  have single (h : 1 < (Text.foldWord word).length) (c : Char) : word.toList ≠ [c] := fun hc ↦ by
    rw [Text.length_foldWord, ← String.length_toList, hc] at h
    simp at h
  unfold ofWord? IsNamed
  split
  case h_15 =>
    have unnamed : (Text.foldWord word, key) ∉ names := by simp_all [names]
    split
    · rename_i c hc
      simp [unnamed, hc, eq_comm]
    · rename_i hc
      refine iff_of_false nofun ?_
      rintro (hname | ⟨c, h, -⟩)
      · exact unnamed hname
      · exact hc c h
  all_goals
    rename_i hname
    rw [hname] at single ⊢
    have other := single (by decide)
    simp [names, other, eq_comm (a := key)]

end Key

/-! ## Spelling -/

namespace Chord

/-- Whether the chord asks for a modifier. -/
def holds (chord : Chord) : ChordModifier → Bool
  | .control => chord.control
  | .alt => chord.alt
  | .shift => chord.shift
  | .metaKey => chord.metaKey

/-- A word for some modifier. -/
def IsModifier (word : String) : Prop := ∃ m : ChordModifier, m.IsNamed word

/-- The only part that is no modifier. -/
def IsOnlyKey (parts : List String) (part : String) : Prop :=
  ∃ others, parts.Perm (part :: others) ∧ (∀ p ∈ others, IsModifier p) ∧ ¬ IsModifier part

/-- The parts spell the chord: one of them is its key, and the others are its modifiers, each of
them as often as one likes. -/
@[mk_iff]
structure IsSpelledBy (chord : Chord) (parts : List String) : Prop where
  key : ∃ part, IsOnlyKey parts part ∧ chord.key.IsNamed part
  holds_iff : ∀ m, chord.holds m = true ↔ ∃ p ∈ parts, m.IsNamed p

variable {s t word part : String} {ps qs : List String} {chord chord' : Chord}

theorem isModifier_iff : IsModifier word ↔ (ChordModifier.ofWord? word).isSome = true := by
  rw [Option.isSome_iff_exists]
  exact exists_congr fun m ↦ ChordModifier.ofWord?_eq_some_iff.symm

theorem isNone_iff : (ChordModifier.ofWord? word).isNone = true ↔ ¬ IsModifier word := by
  rw [isModifier_iff, ← Option.not_isSome, Bool.not_eq_true', Bool.not_eq_true]

theorem isOnlyKey_iff :
    IsOnlyKey ps part ↔ (ps.filter fun p ↦ (ChordModifier.ofWord? p).isNone) = [part] := by
  constructor
  · rintro ⟨others, perm, modifiers, only⟩
    have kept : ((part :: others).filter fun p ↦ (ChordModifier.ofWord? p).isNone) = [part] := by
      rw [List.filter_cons, if_pos (isNone_iff.2 only), List.filter_eq_nil_iff.2]
      exact fun p hp ↦ mt isNone_iff.1 (not_not.2 (modifiers p hp))
    exact List.perm_singleton.1 (kept ▸ perm.filter _)
  · intro h
    have mem : part ∈ ps.filter fun p ↦ (ChordModifier.ofWord? p).isNone :=
      h ▸ List.mem_singleton_self part
    have perm := (List.filter_append_perm (fun p ↦ (ChordModifier.ofWord? p).isNone) ps).symm
    rw [h] at perm
    refine ⟨_, perm, fun p hp ↦ ?_, isNone_iff.1 (List.mem_filter.1 mem).2⟩
    have some : (ChordModifier.ofWord? p).isNone = false := by
      simpa using (List.mem_filter.1 hp).2
    exact not_not.1 (mt isNone_iff.2 (by rw [some]; exact Bool.false_ne_true))

/-- A chord is its key and its modifiers. -/
theorem ext_holds (key : chord.key = chord'.key) (holds : ∀ m, chord.holds m = chord'.holds m) :
    chord = chord' := by
  cases chord
  cases chord'
  obtain rfl := key
  exact congr (congr (congr (congrArg _ (holds .control)) (holds .alt)) (holds .shift))
    (holds .metaKey)

theorem contains_modifiers_iff {m : ChordModifier} :
    (ps.filterMap ChordModifier.ofWord?).contains m = true ↔ ∃ p ∈ ps, m.IsNamed p := by
  rw [List.contains_iff_mem, List.mem_filterMap]
  exact exists_congr fun p ↦ and_congr_right fun _ ↦ ChordModifier.ofWord?_eq_some_iff

/-- The chord of a key with the modifiers among some parts. -/
def ofParts (ps : List String) (key : Key) : Chord :=
  let modifiers := ps.filterMap ChordModifier.ofWord?
  { key
    control := modifiers.contains .control
    alt := modifiers.contains .alt
    shift := modifiers.contains .shift
    metaKey := modifiers.contains .metaKey }

theorem key_ofParts {key : Key} : (ofParts ps key).key = key := rfl

theorem holds_ofParts_iff {key : Key} {m : ChordModifier} :
    (ofParts ps key).holds m = true ↔ ∃ p ∈ ps, m.IsNamed p := by
  rw [← contains_modifiers_iff]
  cases m <;> rw [holds, ofParts]

theorem parse?_of_isOnlyKey (h : Text.trim s ≠ "+") (only : IsOnlyKey (parts s) part) :
    parse? s = (Key.ofWord? part).map (ofParts (parts s)) := by
  rw [parse?, if_neg h]
  dsimp only
  rw [isOnlyKey_iff.1 only]
  rfl

theorem parse?_of_forall_not_isOnlyKey (h : Text.trim s ≠ "+")
    (none : ∀ part, ¬ IsOnlyKey (parts s) part) : parse? s = Option.none := by
  rw [parse?, if_neg h]
  dsimp only
  split
  · rename_i part only
    exact absurd (isOnlyKey_iff.2 only) (none part)
  · rfl

theorem IsOnlyKey.unique {part' : String} (h : IsOnlyKey ps part) (h' : IsOnlyKey ps part') :
    part = part' := by
  rw [isOnlyKey_iff] at h h'
  exact List.singleton_inj.1 (h.symm.trans h')

/-- **A chord is read from the parts that spell it.** -/
theorem parse?_eq_some_iff (h : Text.trim s ≠ "+") :
    parse? s = some chord ↔ chord.IsSpelledBy (parts s) := by
  -- whether there is a chord is up to the only key, and which one it is to all parts
  by_cases hkey : ∃ part, IsOnlyKey (parts s) part
  · obtain ⟨part, only⟩ := hkey
    rw [parse?_of_isOnlyKey h only, Option.map_eq_some_iff]
    constructor
    · rintro ⟨key, named, rfl⟩
      exact ⟨⟨part, only, Key.ofWord?_eq_some_iff.1 named⟩, fun m ↦ holds_ofParts_iff⟩
    · rintro ⟨⟨part', only', named⟩, holds_iff⟩
      obtain rfl := only.unique only'
      have modifiers (m : ChordModifier) :
          (ofParts (parts s) chord.key).holds m = chord.holds m := by
        rw [Bool.eq_iff_iff, holds_iff, holds_ofParts_iff]
      exact ⟨chord.key, Key.ofWord?_eq_some_iff.2 named, ext_holds key_ofParts modifiers⟩
  · have none (part : String) : ¬ IsOnlyKey (parts s) part := fun only ↦ hkey ⟨part, only⟩
    rw [parse?_of_forall_not_isOnlyKey h none]
    refine iff_of_false nofun fun spelled ↦ ?_
    obtain ⟨part, only, -⟩ := spelled.key
    exact none part only

theorem isSome_parse?_iff (h : Text.trim s ≠ "+") :
    (parse? s).isSome = true ↔ ∃ part key, IsOnlyKey (parts s) part ∧ Key.IsNamed key part := by
  rw [Option.isSome_iff_exists]
  constructor
  · rintro ⟨chord, read⟩
    obtain ⟨part, only, named⟩ := ((parse?_eq_some_iff h).1 read).key
    exact ⟨part, chord.key, only, named⟩
  · rintro ⟨part, key, only, named⟩
    rw [parse?_of_isOnlyKey h only, Key.ofWord?_eq_some_iff.2 named]
    exact ⟨_, rfl⟩

/-! ## What makes no difference -/

theorem isSpelledBy_of_perm (h : ps.Perm qs) : chord.IsSpelledBy ps ↔ chord.IsSpelledBy qs := by
  have only (key : String) : IsOnlyKey ps key ↔ IsOnlyKey qs key :=
    exists_congr fun others ↦ and_congr_left fun _ ↦ h.congr_left (key :: others)
  simp only [isSpelledBy_iff, only, h.mem_iff]

theorem isSpelledBy_cons (mem : part ∈ ps) (modifier : IsModifier part) :
    chord.IsSpelledBy (part :: ps) ↔ chord.IsSpelledBy ps := by
  have only (key : String) : IsOnlyKey (part :: ps) key ↔ IsOnlyKey ps key := by
    rw [isOnlyKey_iff, isOnlyKey_iff, List.filter_cons,
      if_neg (mt isNone_iff.1 (not_not.2 modifier))]
  have named (m : ChordModifier) : (∃ p ∈ part :: ps, m.IsNamed p) ↔ ∃ p ∈ ps, m.IsNamed p := by
    refine exists_congr fun p ↦ and_congr_left fun _ ↦ ?_
    rw [List.mem_cons, or_iff_right_of_imp fun he ↦ he ▸ mem]
  simp only [isSpelledBy_iff, only, named]

/-- The same part, or one of more than one character with some letters of ASCII in the other
case. -/
def SameInAnyCase (word word' : String) : Prop :=
  word = word' ∨ 1 < word.length ∧ Text.lowerAscii word = Text.lowerAscii word'

namespace SameInAnyCase

theorem symm (h : SameInAnyCase s t) : SameInAnyCase t s := by
  rcases h with rfl | ⟨long, same⟩
  · exact .inl rfl
  · rw [← Text.length_lowerAscii, same, Text.length_lowerAscii] at long
    exact .inr ⟨long, same.symm⟩

theorem foldWord_eq (h : SameInAnyCase s t) : Text.foldWord s = Text.foldWord t := by
  rcases h with rfl | ⟨-, same⟩
  · rfl
  · exact Text.foldWord_congr same

theorem modifier_isNamed (h : SameInAnyCase s t) {m : ChordModifier} (named : m.IsNamed s) :
    m.IsNamed t := by
  rwa [ChordModifier.IsNamed, ← h.foldWord_eq]

theorem isModifier_iff (h : SameInAnyCase s t) : IsModifier s ↔ IsModifier t :=
  exists_congr fun _ ↦ ⟨h.modifier_isNamed, h.symm.modifier_isNamed⟩

theorem key_isNamed (h : SameInAnyCase s t) {key : Key} (named : key.IsNamed s) :
    key.IsNamed t := by
  rcases h with rfl | ⟨long, same⟩
  · exact named
  · rcases named with named | ⟨c, single, -⟩
    · rw [Text.foldWord_congr same] at named
      exact .inl named
    · rw [← String.length_toList, single] at long
      exact absurd long (Nat.lt_irrefl 1)

end SameInAnyCase

theorem exists_isNamed (h : List.Forall₂ SameInAnyCase ps qs) {m : ChordModifier}
    (named : ∃ p ∈ ps, m.IsNamed p) : ∃ q ∈ qs, m.IsNamed q := by
  induction h with
  | nil => exact named
  | cons same rest ih =>
    rw [List.exists_mem_cons_iff] at named ⊢
    exact named.imp same.modifier_isNamed ih

theorem exists_isOnlyKey (h : List.Forall₂ SameInAnyCase ps qs) (only : IsOnlyKey ps part) :
    ∃ part', SameInAnyCase part part' ∧ IsOnlyKey qs part' := by
  have keys := List.rel_filter (fun p q same ↦ isNone_iff.trans
    ((not_congr same.isModifier_iff).trans isNone_iff.symm)) h
  rw [isOnlyKey_iff.1 only, List.forall₂_cons_left_iff] at keys
  obtain ⟨part', none, same, hnone, hkeys⟩ := keys
  rw [List.forall₂_nil_left_iff.1 hnone] at hkeys
  exact ⟨part', same, isOnlyKey_iff.2 hkeys⟩

theorem isSpelledBy_of_forall₂ (h : List.Forall₂ SameInAnyCase ps qs) :
    chord.IsSpelledBy ps ↔ chord.IsSpelledBy qs := by
  have back : List.Forall₂ SameInAnyCase qs ps := h.flip.imp fun _ _ ↦ SameInAnyCase.symm
  have spelled {ps qs : List String} (h : List.Forall₂ SameInAnyCase ps qs)
      (back : List.Forall₂ SameInAnyCase qs ps) (spelled : chord.IsSpelledBy ps) :
      chord.IsSpelledBy qs := by
    obtain ⟨⟨part, only, named⟩, holds_iff⟩ := spelled
    obtain ⟨part', same, only'⟩ := exists_isOnlyKey h only
    exact ⟨⟨part', only', same.key_isNamed named⟩, fun m ↦
      (holds_iff m).trans ⟨exists_isNamed h, exists_isNamed back⟩⟩
  exact ⟨spelled h back, spelled back h⟩

/-! ## The outcome -/

theorem parts_of_plus (h : Text.trim s = "+") : parts s = [] := by
  rw [parts, h]
  rfl

/-- Two texts are read as the same chord if their parts spell the same chords. -/
theorem parse?_congr (hs : Text.trim s ≠ "+") (ht : Text.trim t ≠ "+")
    (h : ∀ chord : Chord, chord.IsSpelledBy (parts s) ↔ chord.IsSpelledBy (parts t)) :
    parse? s = parse? t := by
  refine Option.ext fun chord ↦ ?_
  rw [parse?_eq_some_iff hs, parse?_eq_some_iff ht, h]

theorem key_ne_null (h : parse? s = some chord) : chord.key ≠ .null := by
  by_cases plus : Text.trim s = "+"
  · rw [parse?, if_pos plus] at h
    cases h
    exact nofun
  · obtain ⟨part, -, named | ⟨c, -, hkey⟩⟩ := ((parse?_eq_some_iff plus).1 h).key
    · have words : ∀ e ∈ Key.names, e.2 ≠ .null := by decide
      exact words _ named
    · rw [hkey]
      exact nofun

/-- **A chord is read if it is one key and modifiers.**  A plus sign alone is a key.  Otherwise
exactly one of the parts is no modifier, and it is the name of a key or a character as it stands;
the modifiers are those that occur.  So the parts may change places, modifiers may be repeated,
names of more than one letter may be written in any case, and blanks and plus signs may stand around
the parts of a text that has some.  What is read has a key, and takes its own press. -/
theorem parse?_grammar (s : String) :
    (Text.trim s = "+" → parse? s = some (plain (.char '+'))) ∧
    (Text.trim s ≠ "+" →
      (∀ chord : Chord, parse? s = some chord ↔ chord.IsSpelledBy (parts s)) ∧
      ((parse? s).isSome = true ↔ ∃ part key, IsOnlyKey (parts s) part ∧ Key.IsNamed key part) ∧
      (∀ t, Text.trim t ≠ "+" → (parts t).Perm (parts s) → parse? t = parse? s) ∧
      (∀ t, Text.trim t ≠ "+" → ∀ part ∈ parts s, IsModifier part →
        (parts t).Perm (part :: parts s) → parse? t = parse? s) ∧
      (∀ t, Text.trim t ≠ "+" → List.Forall₂ SameInAnyCase (parts s) (parts t) →
        parse? t = parse? s)) ∧
    (∀ u v w, s = u ++ v → EndsApart u ∨ BeginsApart v → IsPadding w → parts s ≠ [] →
      parse? (u ++ w ++ v) = parse? s) ∧
    (∀ chord : Chord, parse? s = some chord →
      chord.key ≠ .null ∧ chord.accepts chord.press = true) := by
  refine ⟨fun plus ↦ if_pos plus, fun hs ↦ ⟨fun chord ↦ parse?_eq_some_iff hs,
    isSome_parse?_iff hs, ?_, ?_, ?_⟩, ?_, fun chord read ↦ ⟨key_ne_null read, accepts_press chord⟩⟩
  · intro t ht perm
    exact parse?_congr ht hs fun chord ↦ isSpelledBy_of_perm perm
  · intro t ht part mem modifier perm
    exact parse?_congr ht hs fun chord ↦
      (isSpelledBy_of_perm perm).trans (isSpelledBy_cons mem modifier)
  · intro t ht same
    exact parse?_congr ht hs fun chord ↦ (isSpelledBy_of_forall₂ same).symm
  · rintro u v w rfl apart padding some
    have padded : parts (u ++ w ++ v) = parts (u ++ v) := parts_pad apart padding
    refine parse?_congr (fun plus ↦ some ?_) (fun plus ↦ some (parts_of_plus plus)) fun chord ↦ ?_
    · rw [← padded, parts_of_plus plus]
    · rw [padded]

/-- Control and a letter, with the parts in another order, with control twice, with control in
capital letters, and with one more plus sign. -/
theorem parse?_grammar_of_control_n :
    let chord : Chord := { key := .char 'N', control := true }
    Text.trim "ctrl+N" ≠ "+" ∧ parse? "ctrl+N" = some chord ∧ parse? "N+ctrl" = some chord ∧
      parse? "ctrl+N+ctrl" = some chord ∧ parse? "CTRL+N" = some chord ∧
      parse? "ctrl+ +N" = some chord ∧ chord.accepts chord.press = true := by
  intro chord
  have nonplus : Text.trim "ctrl+N" ≠ "+" := by decide +kernel
  have read : parse? "ctrl+N" = some chord := by decide +kernel
  obtain ⟨-, grammar, pad, press⟩ := parse?_grammar "ctrl+N"
  obtain ⟨-, -, order, again, inAnyCase⟩ := grammar nonplus
  have modifier : IsModifier "ctrl" :=
    ⟨.control, (by decide +kernel : Text.foldWord "ctrl" ∈ ChordModifier.words .control)⟩
  have same : List.Forall₂ SameInAnyCase (parts "ctrl+N") (parts "CTRL+N") := by
    rw [show parts "ctrl+N" = ["ctrl", "N"] by decide +kernel,
      show parts "CTRL+N" = ["CTRL", "N"] by decide +kernel]
    exact .cons (.inr ⟨by decide, by decide +kernel⟩) (.cons (.inl rfl) .nil)
  have padding : IsPadding " +" := by
    intro c hc
    rcases List.mem_pair.1 (show c ∈ [' ', '+'] from hc) with rfl | rfl
    · exact .inr rfl
    · exact .inl rfl
  refine ⟨nonplus, read, ?_, ?_, ?_, ?_, (press chord read).2⟩
  · rw [order "N+ctrl" (by decide +kernel) (by decide +kernel), read]
  · rw [again "ctrl+N+ctrl" (by decide +kernel) "ctrl" (by decide +kernel) modifier
      (by decide +kernel), read]
  · rw [inAnyCase "CTRL+N" (by decide +kernel) same, read]
  · have apart : EndsApart "ctrl+" := ⟨[], nofun, .inr ⟨"ctrl".toList, rfl⟩⟩
    have padded := pad "ctrl+" "N" " +" rfl (.inl apart) padding (by decide +kernel)
    exact padded.trans read

end Chord
end Jukebox
