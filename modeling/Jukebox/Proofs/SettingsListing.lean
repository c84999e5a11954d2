import Jukebox.Proofs.SettingChanges
import Jukebox.Proofs.Trimming

/-!
# Feeding the listing of the settings back

Without arguments `set` lists the options with their values, and what it lists is made of tokens that
`set` accepts.  So the listing can be given to it as arguments, and brings back the settings that
were listed, whatever they have become since.

* `Text.Chars.splitAt?_append` and `Text.trim_of_isWord` take a line of the listing apart.
* `Settings.apply_written` is what such a line does as a token, and `Builtin.applyAll_listing` what
  all of them do.
* `Builtin.set_listing` is the outcome for the operation.
-/

set_option autoImplicit false

namespace Jukebox

/-! ## Taking a line apart -/

namespace Text

/-- A text is cut where the first of its pieces ends. -/
theorem Chars.splitAt?_append {sep : Char} {cs : List Char} (h : sep ∉ cs) (ds : List Char) :
    splitAt? sep (cs ++ sep :: ds) = some (cs, ds) := by
  induction cs with
  | nil => exact if_pos rfl
  | cons c cs ih =>
    obtain ⟨hc, hcs⟩ := not_or.1 fun hmem ↦ h (List.mem_cons.2 hmem)
    rw [List.cons_append, splitAt?, if_neg (Ne.symm hc), ih hcs]
    rfl

theorem trim_of_isWord {s : String} (h : IsWord s) : trim s = s :=
  trim_of_trimmed
    ⟨fun c hc ↦ h.2 c (List.mem_of_head? hc), fun c hc ↦ h.2 c (List.mem_of_getLast? hc)⟩

end Text

/-! ## What is listed of an option -/

theorem Setting.ofName?_name (o : Setting) : Setting.ofName? o.name = some o := by
  cases o with
  | flag f => cases f <;> rfl
  | timeout => rfl

theorem Setting.isWord_name (o : Setting) : Text.IsWord o.name := by
  cases o with
  | flag f => cases f <;> decide
  | timeout => decide

theorem Setting.equals_notMem_name (o : Setting) : '=' ∉ o.name.toList := by
  cases o with
  | flag f => cases f <;> decide
  | timeout => decide

theorem SettingValue.isWord_text (v : SettingValue) : Text.IsWord v.text := by
  cases v with
  | truth b => cases b <;> decide
  | number n => exact Text.isWord_numeral _

theorem truthOfWord?_text (b : Bool) : truthOfWord? (SettingValue.truth b).text = some b := by
  cases b <;> rfl

/-- The change that gives an option the value that it has in some settings. -/
def Change.restore (s : Settings) : Setting → Change
  | .flag f => .flag f fun _ ↦ s.flag f
  | .timeout => .timeout s.timeout

namespace Settings

variable (s t : Settings)

/-- What is listed of an option. -/
def written (o : Setting) : String := o.name ++ "=" ++ (s.get o).text

theorem isWord_written (o : Setting) : Text.IsWord (s.written o) :=
  (o.isWord_name.append (by decide)).append (SettingValue.isWord_text _)

/-- **What is listed of an option gives it back its value.** -/
theorem apply_written (o : Setting) : t.apply (s.written o) = .ok ((Change.restore s o).make t) := by
  have pieces : Text.Chars.splitAt? '=' (s.written o).toList =
      some (o.name.toList, (s.get o).text.toList) := by
    rw [written, String.toList_append, String.toList_append, List.append_assoc]
    exact Text.Chars.splitAt?_append o.equals_notMem_name _
  have name : .ofList (Text.Chars.trim o.name.toList) = o.name := Text.trim_of_isWord o.isWord_name
  have value : .ofList (Text.Chars.trim (s.get o).text.toList) = (s.get o).text :=
    Text.trim_of_isWord (SettingValue.isWord_text _)
  rw [apply, pieces]
  dsimp only
  rw [name, value]
  cases o with
  | flag f =>
    have truth : truthOfWord? (s.get (.flag f)).text = some (s.flag f) := truthOfWord?_text _
    simp only [assign, Setting.ofName?_name, truth, Change.restore, Change.make]
  | timeout =>
    have number : Text.uint64? (s.get .timeout).text = some s.timeout := Text.uint64?_numeral _
    simp only [assign, Setting.ofName?_name, number, Change.restore, Change.make]

theorem listing_eq : s.listing = Setting.all.map s.written := rfl

end Settings

namespace Builtin

/-- The tokens of a listing bring back the settings that were listed. -/
theorem applyAll_listing (s t : Settings) : applyAll t s.listing = .ok s := by
  have restored (os : List Setting) : applyAll t (os.map s.written) =
      .ok (os.foldl (fun t o ↦ (Change.restore s o).make t) t) := by
    induction os generalizing t with
    | nil => rfl
    | cons o os ih =>
      rw [List.map_cons, applyAll_cons_of_ok (s.apply_written t o), ih]
      rfl
  rw [s.listing_eq, restored]
  rfl

/-! ## The operation -/

open CommandM

variable {σ : Type} {blank : String}

/-- **The listing of the settings can be fed back.**  Without arguments `set` shows lines which, with
spaces in between, it accepts as arguments at any other time, and which bring back the settings that
they were made from. -/
theorem set_listing (s t : Scope σ) (h : Text.isAllBlank blank = true) :
    (act (set blank) s).1 = .ok () ∧
      act (set (" ".intercalate (act (set blank) s).2.console.output)) t =
        (.ok (), t.withSettings s.console.settings) := by
  have listed : act (set blank) s =
      (.ok (), s.mapConsole (.showOutput s.console.settings.listing)) := by
    rw [act_set, h, if_pos rfl]
  have shown : (act (set blank) s).2.console.output = s.console.settings.listing := by
    rw [listed, Scope.mapConsole, Console.showOutput]
    refine List.take_of_length_le ?_
    rw [Settings.listing_eq, List.length_map]
    decide
  have found : Text.words (" ".intercalate s.console.settings.listing) =
      s.console.settings.listing := by
    refine Text.words_intercalate fun w hw ↦ ?_
    rw [Settings.listing_eq] at hw
    obtain ⟨o, -, rfl⟩ := List.mem_map.1 hw
    exact Settings.isWord_written _ o
  have nonblank : Text.isAllBlank (" ".intercalate s.console.settings.listing) = false := by
    rw [Text.isAllBlank_eq_false_iff, found]
    exact List.cons_ne_nil _ _
  refine ⟨by rw [listed], ?_⟩
  rw [shown, act_set_of_nonblank t nonblank, found, applyAll_listing]

/-- The longest time-out that there can be is read as it was written. -/
theorem set_listing_of_longest_timeout :
    let s : Scope Canned :=
      ⟨{ client := ⟨[], false⟩
         settings := { polling := false, timeout := 18446744073709551615 } }, ∅⟩
    let t : Scope Canned := ⟨{ client := ⟨[], false⟩ }, ∅⟩
    Text.isAllBlank "" = true ∧
      act (set ("hlsearch=true ignorecase=true polling=false skipconfigconnects=false " ++
        "timeout=18446744073709551615")) t = (.ok (), t.withSettings s.console.settings) := by
  intro s t
  have blank : Text.isAllBlank "" = true := rfl
  obtain ⟨-, restored⟩ := set_listing s t blank
  have joined : " ".intercalate (act (set "") s).2.console.output =
      "hlsearch=true ignorecase=true polling=false skipconfigconnects=false " ++
        "timeout=18446744073709551615" := by decide +kernel
  rw [joined] at restored
  exact ⟨blank, restored⟩

end Builtin
end Jukebox
