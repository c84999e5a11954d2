import Jukebox.Key.Basic

/-!
# Input lines

A mode that takes a line of text keeps it behind a prompt character.  The line begins with its
prompt and is empty while the mode is not in use, so deleting the prompt gives the line up.
-/

set_option autoImplicit false

namespace Jukebox

/-- The prompt and what is typed behind it, or nothing. -/
structure InputLine where
  chars : List Char := []
  deriving DecidableEq, Repr, Inhabited

namespace InputLine

/-- The whole line. -/
def contents (l : InputLine) : String := .ofList l.chars

/-- What is typed, without the prompt. -/
def text (l : InputLine) : String := .ofList l.chars.tail

/-- Whether there is not even a prompt. -/
def isEmpty (l : InputLine) : Bool := l.chars.isEmpty

/-- A line with nothing typed.  The press that opens it gives the prompt, if it types a
character. -/
def opened (press : KeyPress) (fallback : Char) : InputLine :=
  ⟨[press.typed?.getD fallback]⟩

/-- The line with a character at its end. -/
def push (c : Char) (l : InputLine) : InputLine := ⟨l.chars ++ [c]⟩

/-- The line with a text at its end. -/
def append (s : String) (l : InputLine) : InputLine := ⟨l.chars ++ s.toList⟩

/-- The line without its last character, be it the prompt. -/
def backspace (l : InputLine) : InputLine := ⟨l.chars.dropLast⟩

/-- The line with another text behind its prompt. -/
def replaceText (s : String) (l : InputLine) : InputLine := ⟨l.chars.take 1 ++ s.toList⟩

/-- The line not in use. -/
def empty : InputLine := {}

/-! ## The prompt -/

section

variable {l : InputLine} {p : Char}

/-- A line with a prompt is not empty. -/
theorem isEmpty_of_head? (h : l.chars.head? = some p) : l.isEmpty = false := by
  obtain ⟨_ | ⟨c, cs⟩⟩ := l
  · cases h
  · rfl

theorem head?_push (h : l.chars.head? = some p) (c : Char) : (l.push c).chars.head? = some p := by
  rw [push, List.head?_append, h]
  rfl

theorem head?_append (h : l.chars.head? = some p) (s : String) :
    (l.append s).chars.head? = some p := by
  rw [append, List.head?_append, h]
  rfl

theorem head?_replaceText (h : l.chars.head? = some p) (s : String) :
    (l.replaceText s).chars.head? = some p := by
  obtain ⟨_ | ⟨c, cs⟩⟩ := l
  · cases h
  · exact h

/-- What is put behind a prompt stands behind it. -/
theorem chars_replaceText (h : l.chars.head? = some p) (s : String) :
    (l.replaceText s).chars = p :: s.toList := by
  obtain ⟨_ | ⟨c, cs⟩⟩ := l
  · cases h
  · cases h
    rfl

/-- What is put behind a prompt is what is typed then. -/
theorem text_replaceText (h : l.chars.head? = some p) (s : String) :
    (l.replaceText s).text = s := by
  rw [text, chars_replaceText h]
  exact String.ofList_toList

/-- What was put behind a prompt before makes no difference. -/
theorem replaceText_replaceText (h : l.chars.head? = some p) (s s' : String) :
    (l.replaceText s).replaceText s' = l.replaceText s' := by
  obtain ⟨_ | ⟨c, cs⟩⟩ := l
  · cases h
  · rfl

/-- As long as something is left of the line, the prompt is. -/
theorem head?_backspace (h : l.chars.head? = some p) (hne : l.backspace.isEmpty = false) :
    l.backspace.chars.head? = some p := by
  obtain ⟨_ | ⟨c, _ | ⟨c', cs⟩⟩⟩ := l
  · cases h
  · cases hne
  · exact h

end

end InputLine
end Jukebox
