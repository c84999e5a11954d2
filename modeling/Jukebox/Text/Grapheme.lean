import Jukebox.Text.Blank
import Jukebox.Text.Property

/-!
# Extended grapheme clusters

A terminal cell holds one extended grapheme cluster: what a reader takes for one character.  The
rules look at the kinds of two neighbouring characters and at a little of what came before them:
whether the flag letters read so far pair up, whether a pictograph awaits its partner behind a
joiner, and whether a consonant has been linked by a virama.

* `Kind` sorts characters, `State` remembers what the rules need.
* `State.joins` is the rule for one boundary.
* `Chars.clusters` cuts a text into its clusters; `flatten_clusters` says that nothing is lost.
-/

set_option autoImplicit false

namespace Jukebox
namespace Text
namespace Grapheme

/-- What a character does at a cluster boundary. -/
inductive Kind where
  | carriageReturn | lineFeed | breaking | extend | joiner | regional | prepend | spacingMark
  | leading | vowel | trailing | syllableOpen | syllableClosed | other
  deriving DecidableEq, Repr

/-- The kind of a Hangul letter or syllable; a syllable is open when it has no final consonant.
The vowels of Kirat Rai join in the same way. -/
def hangulKind? (n : Nat) : Option Kind :=
  if (0x1100 ≤ n ∧ n ≤ 0x115F) ∨ (0xA960 ≤ n ∧ n ≤ 0xA97C) then some .leading
  else if (0x1160 ≤ n ∧ n ≤ 0x11A7) ∨ (0xD7B0 ≤ n ∧ n ≤ 0xD7C6) ∨
      n = 0x16D63 ∨ (0x16D67 ≤ n ∧ n ≤ 0x16D6A) then some .vowel
  else if (0x11A8 ≤ n ∧ n ≤ 0x11FF) ∨ (0xD7CB ≤ n ∧ n ≤ 0xD7FB) then some .trailing
  else if 0xAC00 ≤ n ∧ n ≤ 0xD7A3 then
    some (if (n - 0xAC00) % 28 = 0 then .syllableOpen else .syllableClosed)
  else none

/-- Whether a character is a letter of a flag. -/
def isRegional (c : Char) : Bool := 0x1F1E6 ≤ c.toNat && c.toNat ≤ 0x1F1FF

/-- Whether a character gives an emoji its skin tone. -/
def isModifier (c : Char) : Bool := 0x1F3FB ≤ c.toNat && c.toNat ≤ 0x1F3FF

/-- The kind of a character. -/
def Kind.of (c : Char) : Kind :=
  if c = '\r' then .carriageReturn
  else if c = '\n' then .lineFeed
  else if ' ' ≤ c ∧ c < '\x7f' then .other
  else if c = '\u200d' then .joiner
  else if Property.breaking.contains c then .breaking
  else if Property.graphemeExtend.contains c || isModifier c then .extend
  else if isRegional c then .regional
  else if Property.prepend.contains c then .prepend
  else if Property.spacingMark.contains c then .spacingMark
  else (hangulKind? c.toNat).getD .other

/-- A pictograph that may be linked to a later one. -/
inductive Pictograph where
  | absent | present | joined
  deriving DecidableEq, Repr

/-- A consonant that may be linked to a later one.  Marks may stand between them, but the
non-joiner keeps them apart. -/
inductive Consonant where
  | absent | present | linked
  deriving DecidableEq, Repr

/-- What the characters of a cluster so far say about the next boundary. -/
structure State where
  /-- The kind of the last character. -/
  kind : Kind
  /-- Whether the run of flag letters at the end has odd length. -/
  oddRegional : Bool
  pictograph : Pictograph
  consonant : Consonant
  deriving DecidableEq, Repr

namespace State

/-- The state after the first character of a cluster. -/
def start (c : Char) : State where
  kind := .of c
  oddRegional := isRegional c
  pictograph := if Property.pictographic.contains c then .present else .absent
  consonant := if Property.conjunctConsonant.contains c then .present else .absent

/-- The state after one more character of the same cluster. -/
def push (s : State) (c : Char) : State :=
  let k := Kind.of c
  { kind := k
    oddRegional := isRegional c && !s.oddRegional
    pictograph :=
      if Property.pictographic.contains c then .present
      else if s.pictograph = .present ∧ k = .extend then .present
      else if s.pictograph = .present ∧ k = .joiner then .joined
      else .absent
    consonant :=
      if Property.conjunctConsonant.contains c then .present
      else if s.consonant = .absent then .absent
      else if Property.conjunctLinker.contains c then .linked
      else if (k = .extend ∧ c ≠ '\u200c') ∨ k = .joiner then s.consonant
      else .absent }

/-- Whether a Hangul letter or syllable is continued by the next one. -/
def joinsHangul : Kind → Kind → Bool
  | .leading, .leading | .leading, .vowel | .leading, .syllableOpen
  | .leading, .syllableClosed => true
  | .syllableOpen, .vowel | .syllableOpen, .trailing | .vowel, .vowel | .vowel, .trailing => true
  | .syllableClosed, .trailing | .trailing, .trailing => true
  | _, _ => false

/-- Whether a kind stands alone: nothing joins it, except a line feed a carriage return. -/
def standsAlone : Kind → Bool
  | .carriageReturn | .lineFeed | .breaking => true
  | _ => false

/-- Whether a character continues the cluster.  The first rule that applies decides. -/
def joins (s : State) (c : Char) : Bool :=
  let k := Kind.of c
  if s.kind = .carriageReturn ∧ k = .lineFeed then true
  else if standsAlone s.kind || standsAlone k then false
  else if joinsHangul s.kind k then true
  else if k = .extend ∨ k = .joiner ∨ k = .spacingMark then true
  else if s.kind = .prepend then true
  else if s.consonant = .linked ∧ Property.conjunctConsonant.contains c then true
  else if s.pictograph = .joined ∧ Property.pictographic.contains c then true
  else s.oddRegional && isRegional c

end State
end Grapheme

namespace Chars

/-- The clusters of `c :: cs`, where `s` is the state after `c`. -/
def clustersFrom (s : Grapheme.State) (c : Char) : List Char → List (List Char)
  | [] => [[c]]
  | d :: ds =>
    if s.joins d then consHead c (clustersFrom (s.push d) d ds)
    else [c] :: clustersFrom (.start d) d ds

/-- The extended grapheme clusters of a text. -/
def clusters : List Char → List (List Char)
  | [] => []
  | c :: cs => clustersFrom (.start c) c cs

theorem flatten_consHead (c : Char) (pieces : List (List Char)) :
    (consHead c pieces).flatten = c :: pieces.flatten := by
  cases pieces <;> simp [consHead]

theorem flatten_clustersFrom (s : Grapheme.State) (c : Char) (cs : List Char) :
    (clustersFrom s c cs).flatten = c :: cs := by
  induction cs generalizing s c with
  | nil => simp [clustersFrom]
  | cons d ds ih =>
    rw [clustersFrom]
    split <;> simp [flatten_consHead, ih]

/-- The clusters of a text, one after the other, are the text. -/
theorem flatten_clusters (cs : List Char) : (clusters cs).flatten = cs := by
  cases cs with
  | nil => rfl
  | cons c cs => exact flatten_clustersFrom _ c cs

end Chars
end Text
end Jukebox
