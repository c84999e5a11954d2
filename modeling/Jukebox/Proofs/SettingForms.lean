import Jukebox.Proofs.SettingsListing

/-!
# The forms of a change

A written change is taken apart at its first equals sign, and what stands around it is trimmed.
There are five forms that it can have then, and no other change is accepted.

* `Settings.TakenApart` is the key and the value of a token, `SettingForm.Fits` what they have to be
  for each of the forms, and `SettingForm.change` what the form asks for; `SettingForm.value` is the
  value that the option has then.
* `SettingForm.Fits.unique`: the forms do not overlap.
* `Settings.Refusal` is the reason for refusing a token, and `Settings.fits_or_refused` says that a
  token without a form is refused for it.
* `Settings.apply_by_form` is the outcome.
-/

set_option autoImplicit false

namespace Jukebox

/-! ## Numerals -/

namespace Text

/-- A numeral of a number: decimal digits, at least one of them, with or without a plus sign before
them. -/
def IsNumeral (n : Nat) (s : String) : Prop :=
  ∃ ds : List Char, (s.toList = ds ∨ s.toList = '+' :: ds) ∧ ds ≠ [] ∧
    (∀ c ∈ ds, c.isDigit = true) ∧ Nat.ofDigitChars 10 ds 0 = n

theorem Chars.digits?_eq_some_iff {cs : List Char} {n : Nat} :
    digits? cs = some n ↔
      cs ≠ [] ∧ (∀ c ∈ cs, c.isDigit = true) ∧ Nat.ofDigitChars 10 cs 0 = n := by
  rw [digits?, Option.ite_none_right_eq_some, List.all_eq_true, Option.some.injEq, and_assoc]

theorem Chars.natural?_eq_some_iff {s : String} {n : Nat} :
    natural? s.toList = some n ↔ IsNumeral n s := by
  rw [IsNumeral]
  generalize s.toList = cs
  constructor
  · intro h
    unfold natural? at h
    split at h
    · exact ⟨_, .inr rfl, digits?_eq_some_iff.1 h⟩
    · exact ⟨_, .inl rfl, digits?_eq_some_iff.1 h⟩
  · rintro ⟨ds, rfl | rfl, hds⟩
    · -- a plus sign is no digit, so a run of digits does not begin with one
      unfold natural?
      split
      · exact absurd (hds.2.1 '+' List.mem_cons_self) (by decide)
      · exact digits?_eq_some_iff.2 hds
    · exact digits?_eq_some_iff.2 hds

/-- What is read as a time-out is the numeral of a number that is not too large for one. -/
theorem uint64?_eq_some_iff {s : String} {n : UInt64} :
    uint64? s = some n ↔ IsNumeral n.toNat s := by
  rw [uint64?, ← Chars.natural?_eq_some_iff]
  cases Chars.natural? s.toList with
  | none => simp
  | some m =>
    rw [Option.bind_some, Option.ite_none_right_eq_some, Option.some.injEq, Option.some.injEq]
    constructor
    · rintro ⟨hm, rfl⟩
      exact (UInt64.toNat_ofNat_of_lt' hm).symm
    · rintro rfl
      exact ⟨n.toNat_lt, UInt64.ofNat_toNat⟩

theorem IsNumeral.unique {s : String} {m n : Nat} (h : IsNumeral m s) (h' : IsNumeral n s) :
    m = n :=
  Option.some.inj ((Chars.natural?_eq_some_iff.2 h).symm.trans (Chars.natural?_eq_some_iff.2 h'))

theorem Chars.splitAt?_of_notMem {sep : Char} {cs : List Char} (h : sep ∉ cs) :
    splitAt? sep cs = none := by
  induction cs with
  | nil => rfl
  | cons c cs ih =>
    obtain ⟨hc, hcs⟩ := not_or.1 fun hmem ↦ h (List.mem_cons.2 hmem)
    rw [splitAt?, if_neg (Ne.symm hc), ih hcs]
    rfl

end Text

/-! ## Key and value -/

namespace Settings

/-- The key and the value of a token: what stands before and behind its first equals sign, trimmed.
A token without one is trimmed and has no value. -/
inductive TakenApart (token : String) : String → Option String → Prop
  | bare (h : '=' ∉ token.toList) : TakenApart token (Text.trim token) none
  | valued {key raw : String} (split : token = key ++ "=" ++ raw) (first : '=' ∉ key.toList) :
      TakenApart token (Text.trim key) (some (Text.trim raw))

variable {s r : Settings} {token key key' : String} {value value' : Option String}

theorem exists_takenApart (token : String) : ∃ key value, TakenApart token key value := by
  by_cases h : '=' ∈ token.toList
  · obtain ⟨cs, ds, split, first⟩ := List.eq_append_cons_of_mem h
    have joined : token = String.ofList cs ++ "=" ++ String.ofList ds := by
      rw [← String.toList_inj, split]
      simp
    exact ⟨_, _, .valued joined (by rwa [String.toList_ofList])⟩
  · exact ⟨_, _, .bare h⟩

theorem splitAt?_of_split {raw : String} (split : token = key ++ "=" ++ raw)
    (first : '=' ∉ key.toList) :
    Text.Chars.splitAt? '=' token.toList = some (key.toList, raw.toList) := by
  rw [split, String.toList_append, String.toList_append, List.append_assoc]
  exact Text.Chars.splitAt?_append first _

theorem TakenApart.apply_eq (h : TakenApart token key value) (s : Settings) :
    s.apply token = s.assign key value := by
  cases h with
  | bare h => rw [apply, Text.Chars.splitAt?_of_notMem h]
  | valued split first =>
    rw [apply, splitAt?_of_split split first]
    rfl

/-- There is one way only to take a token apart. -/
theorem TakenApart.unique (h : TakenApart token key value) (h' : TakenApart token key' value') :
    key = key' ∧ value = value' := by
  cases h with
  | bare h =>
    cases h' with
    | bare => exact ⟨rfl, rfl⟩
    | valued split => exact absurd (by simp [split]) h
  | valued split first =>
    cases h' with
    | bare h => exact absurd (by simp [split]) h
    | valued split' first' =>
      have same := (splitAt?_of_split split first).symm.trans (splitAt?_of_split split' first')
      simp only [Option.some.injEq, Prod.mk.injEq, String.toList_inj] at same
      obtain ⟨rfl, rfl⟩ := same
      exact ⟨rfl, rfl⟩

end Settings

/-! ## Forms -/

/-- A way to write a change: the name of a flag, `no` before it, an exclamation mark behind it, a
flag with a truth value, or the time-out with a number. -/
inductive SettingForm where
  | name (f : Flag)
  | negation (f : Flag)
  | toggle (f : Flag)
  | truth (f : Flag) (b : Bool)
  | number (n : UInt64)

/-- The words for a truth value. -/
def truthWords : Bool → List String
  | true => ["true", "on", "yes", "1"]
  | false => ["false", "off", "no", "0"]

namespace SettingForm

/-- What a change of the form asks for: a flag is set, cleared, turned over or given a value, or the
time-out is given one. -/
def change : SettingForm → Change
  | name f => .flag f fun _ ↦ true
  | negation f => .flag f fun _ ↦ false
  | toggle f => .flag f not
  | truth f b => .flag f fun _ ↦ b
  | number n => .timeout n

/-- The value that the option has after a change of the form: true, false, the opposite of what it was,
or the one that is given. -/
def value (s : Settings) : SettingForm → SettingValue
  | name _ => .truth true
  | negation _ => .truth false
  | toggle f => .truth !s.flag f
  | truth _ b => .truth b
  | number n => .number n

/-- What key and value are in a change of the form.  A word for a truth value may have its letters
in any case. -/
def Fits (key : String) (value : Option String) : SettingForm → Prop
  | name f => key = f.name ∧ value = none
  | negation f => key = "no" ++ f.name ∧ value = none
  | toggle f => key = f.name ++ "!" ∧ value = none
  | truth f b => key = f.name ∧ ∃ raw, value = some raw ∧ Text.lowerAscii raw ∈ truthWords b
  | number n => key = Setting.timeout.name ∧ ∃ raw, value = some raw ∧ Text.IsNumeral n.toNat raw

/-- A token of the form. -/
def IsFormOf (form : SettingForm) (token : String) : Prop :=
  ∃ key value, Settings.TakenApart token key value ∧ form.Fits key value

end SettingForm

/-! ## Names and words -/

theorem truthOfWord?_eq_some_iff {raw : String} {b : Bool} :
    truthOfWord? raw = some b ↔ Text.lowerAscii raw ∈ truthWords b := by
  unfold truthOfWord?
  split <;> cases b <;> simp_all [truthWords]

theorem truthWords_disjoint {word : String} {b b' : Bool} (h : word ∈ truthWords b)
    (h' : word ∈ truthWords b') : b = b' := by
  cases b <;> cases b' <;> grind [truthWords]

theorem Setting.ofName?_eq_some_iff {key : String} {o : Setting} :
    Setting.ofName? key = some o ↔ key = o.name := by
  refine ⟨fun h ↦ ?_, fun h ↦ h ▸ o.ofName?_name⟩
  rw [ofName?, List.find?_eq_some_iff_append] at h
  exact (beq_iff_eq.1 h.1).symm

theorem Setting.ofName?_eq_none_iff {key : String} :
    Setting.ofName? key = none ↔ ∀ o : Setting, key ≠ o.name := by
  rw [Option.eq_none_iff_forall_ne_some]
  exact forall_congr' fun o ↦ not_congr ofName?_eq_some_iff

theorem Setting.name_inj {o o' : Setting} : o.name = o'.name ↔ o = o' := by
  refine ⟨fun h ↦ ?_, congrArg name⟩
  exact Option.some.inj (o.ofName?_name.symm.trans (ofName?_eq_some_iff.2 h))

namespace Flag

variable {f g : Flag} {word : String}

theorem name_inj : f.name = g.name ↔ f = g :=
  ⟨fun h ↦ Setting.flag.inj (Setting.name_inj.1 h), congrArg name⟩

theorem negation_inj : "no" ++ f.name = "no" ++ g.name ↔ f = g :=
  (String.append_right_inj _).trans name_inj

theorem toggle_inj : f.name ++ "!" = g.name ++ "!" ↔ f = g :=
  (String.append_left_inj _).trans name_inj

theorem name_ne_timeout (f : Flag) : f.name ≠ Setting.timeout.name := by
  cases f <;> decide

/-- A flag that is to be turned over is found, and the word is no name. -/
theorem ofToggle?_toggle (f : Flag) :
    Setting.ofName? (f.name ++ "!") = none ∧ ofToggle? (f.name ++ "!") = some f := by
  cases f <;> decide

/-- A flag that is to be cleared is found, and the word is no name and turns no flag over. -/
theorem ofNegation?_negation (f : Flag) :
    Setting.ofName? ("no" ++ f.name) = none ∧ ofToggle? ("no" ++ f.name) = none ∧
      ofNegation? ("no" ++ f.name) = some f := by
  cases f <;> decide

theorem eq_of_ofToggle? (h : ofToggle? word = some f) : word = f.name ++ "!" := by
  rw [ofToggle?, List.find?_eq_some_iff_append] at h
  exact (beq_iff_eq.1 h.1).symm

theorem eq_of_ofNegation? (h : ofNegation? word = some f) : word = "no" ++ f.name := by
  rw [ofNegation?, List.find?_eq_some_iff_append] at h
  exact (beq_iff_eq.1 h.1).symm

theorem negation_ne_name (f g : Flag) : "no" ++ f.name ≠ g.name :=
  Setting.ofName?_eq_none_iff.1 f.ofNegation?_negation.1 (.flag g)

theorem toggle_ne_name (f g : Flag) : f.name ++ "!" ≠ g.name :=
  Setting.ofName?_eq_none_iff.1 f.ofToggle?_toggle.1 (.flag g)

theorem toggle_ne_negation (f g : Flag) : f.name ++ "!" ≠ "no" ++ g.name := by
  intro h
  cases g.ofNegation?_negation.2.1.symm.trans (h ▸ f.ofToggle?_toggle.2)

end Flag

namespace Settings

variable {s r : Settings} {token key : String} {value : Option String} {e e' : SettingsError}
  {form form' : SettingForm}

/-- A change of one of the forms is accepted, and does what it asks for. -/
theorem assign_of_fits (h : form.Fits key value) (s : Settings) :
    s.assign key value = .ok (form.change.make s) := by
  cases form with
  | name f =>
    obtain ⟨rfl, rfl⟩ := h
    simp only [assign, show Setting.ofName? f.name = _ from (Setting.flag f).ofName?_name]
    rfl
  | negation f =>
    obtain ⟨rfl, rfl⟩ := h
    obtain ⟨noName, noToggle, found⟩ := f.ofNegation?_negation
    simp only [assign, assignWord, noName, noToggle, found]
    rfl
  | toggle f =>
    obtain ⟨rfl, rfl⟩ := h
    obtain ⟨noName, found⟩ := f.ofToggle?_toggle
    simp only [assign, assignWord, noName, found]
    rfl
  | truth f b =>
    obtain ⟨rfl, raw, rfl, word⟩ := h
    simp only [assign, show Setting.ofName? f.name = _ from (Setting.flag f).ofName?_name,
      truthOfWord?_eq_some_iff.2 word]
    rfl
  | number n =>
    obtain ⟨rfl, raw, rfl, numeral⟩ := h
    simp only [assign, Setting.ofName?_name, Text.uint64?_eq_some_iff.2 numeral]
    rfl

/-- Why a key and a value that have none of the forms are refused. -/
inductive Refusal (key : String) : Option String → SettingsError → Prop
  /-- The time-out has to be given a value. -/
  | missing (h : key = Setting.timeout.name) : Refusal key none (.missingValue key)
  /-- The option exists, but not with this value. -/
  | invalid {raw : String} (o : Setting) (h : key = o.name) :
      Refusal key (some raw) (.invalidValue key raw)
  /-- There is no option of this name. -/
  | unknown {value : Option String} (h : ∀ o : Setting, key ≠ o.name) :
      Refusal key value (.unknownOption key)

theorem Refusal.unique (h : Refusal key value e) (h' : Refusal key value e') : e = e' := by
  cases h with
  | missing h =>
    cases h' with
    | missing => rfl
    | unknown h' => exact absurd h (h' .timeout)
  | invalid o h =>
    cases h' with
    | invalid => rfl
    | unknown h' => exact absurd h (h' o)
  | unknown h =>
    cases h' with
    | missing h' => exact absurd h' (h .timeout)
    | invalid o h' => exact absurd h' (h o)
    | unknown => rfl

/-- A key and a value have one of the forms, or are refused whatever the settings are. -/
theorem fits_or_refused (key : String) (value : Option String) :
    (∃ form : SettingForm, form.Fits key value) ∨
      ∃ e, Refusal key value e ∧ ∀ s : Settings, s.assign key value = .error e := by
  -- the lookups in their order: a name first, and without a value an exclamation mark and `no`
  cases hname : Setting.ofName? key with
  | some o =>
    have hkey : key = o.name := Setting.ofName?_eq_some_iff.1 hname
    cases o with
    | flag f =>
      cases value with
      | none => exact .inl ⟨.name f, hkey, rfl⟩
      | some raw =>
        cases hraw : truthOfWord? raw with
        | some b => exact .inl ⟨.truth f b, hkey, raw, rfl, truthOfWord?_eq_some_iff.1 hraw⟩
        | none =>
          exact .inr ⟨_, .invalid (.flag f) hkey, fun s ↦ by simp only [assign, hname, hraw]⟩
    | timeout =>
      cases value with
      | none => exact .inr ⟨_, .missing hkey, fun s ↦ by simp only [assign, hname]⟩
      | some raw =>
        cases hraw : Text.uint64? raw with
        | some n => exact .inl ⟨.number n, hkey, raw, rfl, Text.uint64?_eq_some_iff.1 hraw⟩
        | none => exact .inr ⟨_, .invalid .timeout hkey, fun s ↦ by simp only [assign, hname, hraw]⟩
  | none =>
    have unknown : Refusal key value (.unknownOption key) :=
      .unknown (Setting.ofName?_eq_none_iff.1 hname)
    cases value with
    | some raw => exact .inr ⟨_, unknown, fun s ↦ by simp only [assign, hname]⟩
    | none =>
      cases htoggle : Flag.ofToggle? key with
      | some f => exact .inl ⟨.toggle f, Flag.eq_of_ofToggle? htoggle, rfl⟩
      | none =>
        cases hnegation : Flag.ofNegation? key with
        | some f => exact .inl ⟨.negation f, Flag.eq_of_ofNegation? hnegation, rfl⟩
        | none =>
          exact .inr ⟨_, unknown, fun s ↦ by
            simp only [assign, assignWord, hname, htoggle, hnegation]⟩

end Settings

/-- The forms do not overlap: no key is the name of a flag in two ways, and no value is two words or
two numerals. -/
theorem SettingForm.Fits.unique {form form' : SettingForm} {key : String} {value : Option String}
    (h : form.Fits key value) (h' : form'.Fits key value) : form = form' := by
  cases form <;> cases form' <;> simp only [Fits] at h h' <;>
    grind [Flag.name_inj, Flag.negation_inj, Flag.toggle_inj, Flag.name_ne_timeout,
      Flag.negation_ne_name, Flag.toggle_ne_name, Flag.toggle_ne_negation, truthWords_disjoint,
      Text.IsNumeral.unique, UInt64.toNat_inj]

/-! ## The outcome -/

namespace Settings

variable (s : Settings) (f : Flag) (b b' : Bool)

theorem get_setFlag_self : (s.setFlag f b).get (.flag f) = .truth b := by
  rw [get, flag_setFlag, if_pos rfl]

theorem setFlag_setFlag : (s.setFlag f b).setFlag f b' = s.setFlag f b' := by
  cases f <;> rfl

theorem setFlag_flag : s.setFlag f (s.flag f) = s := by
  cases f <;> rfl

end Settings

namespace SettingForm

variable {form : SettingForm} {token : String}

theorem IsFormOf.apply_eq (h : form.IsFormOf token) (s : Settings) :
    s.apply token = .ok (form.change.make s) := by
  obtain ⟨key, value, apart, fits⟩ := h
  rw [apart.apply_eq s, Settings.assign_of_fits fits]

theorem IsFormOf.unique {form' : SettingForm} (h : form.IsFormOf token)
    (h' : form'.IsFormOf token) : form = form' := by
  obtain ⟨key, value, apart, fits⟩ := h
  obtain ⟨key', value', apart', fits'⟩ := h'
  obtain ⟨rfl, rfl⟩ := apart.unique apart'
  exact fits.unique fits'

/-- The option has the value that the form gives it. -/
theorem get_make (form : SettingForm) (s : Settings) :
    (form.change.make s).get form.change.option = form.value s := by
  cases form with
  | name f => exact s.get_setFlag_self f true
  | negation f => exact s.get_setFlag_self f false
  | toggle f => exact s.get_setFlag_self f !s.flag f
  | truth f b => exact s.get_setFlag_self f b
  | number n => rfl

/-- To turn a flag over twice is to leave it as it is. -/
theorem make_make_toggle (f : Flag) (s : Settings) :
    (toggle f).change.make ((toggle f).change.make s) = s := by
  show (s.setFlag f !s.flag f).setFlag f (!(s.setFlag f !s.flag f).flag f) = s
  rw [Settings.flag_setFlag, if_pos rfl, Bool.not_not, Settings.setFlag_setFlag,
    Settings.setFlag_flag]

/-- To ask for anything else twice is to ask for it once. -/
theorem make_make (h : ∀ f, form ≠ toggle f) (s : Settings) :
    form.change.make (form.change.make s) = form.change.make s := by
  cases form with
  | toggle f => exact absurd rfl (h f)
  | name f => exact s.setFlag_setFlag f true true
  | negation f => exact s.setFlag_setFlag f false false
  | truth f b => exact s.setFlag_setFlag f b b
  | number n => rfl

end SettingForm

namespace Settings

open Builtin CommandM

variable {s r : Settings} {token : String} {e : SettingsError}

theorem apply_eq_ok_iff :
    s.apply token = .ok r ↔
      ∃ form : SettingForm, form.IsFormOf token ∧ r = form.change.make s := by
  constructor
  · intro h
    obtain ⟨key, value, apart⟩ := exists_takenApart token
    rcases fits_or_refused key value with ⟨form, fits⟩ | ⟨e, -, refused⟩
    · have isForm : form.IsFormOf token := ⟨key, value, apart, fits⟩
      rw [isForm.apply_eq s] at h
      exact ⟨form, isForm, (Except.ok.inj h).symm⟩
    · rw [apart.apply_eq s, refused s] at h
      cases h
  · rintro ⟨form, isForm, rfl⟩
    exact isForm.apply_eq s

theorem apply_eq_error_iff :
    s.apply token = .error e ↔ (∀ form : SettingForm, ¬ form.IsFormOf token) ∧
      ∃ key value, TakenApart token key value ∧ Refusal key value e := by
  obtain ⟨key, value, apart⟩ := exists_takenApart token
  constructor
  · intro h
    have formless (form : SettingForm) : ¬ form.IsFormOf token := fun isForm ↦ by
      cases h.symm.trans (isForm.apply_eq s)
    rcases fits_or_refused key value with ⟨form, fits⟩ | ⟨e', refusal, refused⟩
    · exact absurd ⟨key, value, apart, fits⟩ (formless form)
    · rw [apart.apply_eq s, refused s] at h
      exact ⟨formless, key, value, apart, Except.error.inj h ▸ refusal⟩
  · rintro ⟨formless, key', value', apart', refusal⟩
    obtain ⟨rfl, rfl⟩ := apart.unique apart'
    rcases fits_or_refused key value with ⟨form, fits⟩ | ⟨e', refusal', refused⟩
    · exact absurd ⟨key, value, apart, fits⟩ (formless form)
    · rw [apart.apply_eq s, refused s, refusal.unique refusal']

/-- **A written change is accepted if it has one of the five forms.**  It cannot have two of them.
Then it gives the option that it names the value that it asks for, and changes no other; asked for
twice it comes to the same as asked for once, but for a flag that is turned over, which is back where
it was.  Any other change is refused for the reason that its key and value give, and as a command it
leaves everything as it was. -/
theorem apply_by_form (token : String) :
    (∀ s r : Settings, s.apply token = .ok r ↔
      ∃ form : SettingForm, form.IsFormOf token ∧ r = form.change.make s) ∧
    (∀ form form' : SettingForm, form.IsFormOf token → form'.IsFormOf token → form = form') ∧
    (∀ (form : SettingForm) (s r : Settings), form.IsFormOf token → s.apply token = .ok r →
      r.get form.change.option = form.value s) ∧
    (∀ (form : SettingForm) (s r : Settings) (o : Setting), form.IsFormOf token →
      s.apply token = .ok r → o ≠ form.change.option → r.get o = s.get o) ∧
    (∀ (s : Settings) (e : SettingsError), s.apply token = .error e ↔
      (∀ form : SettingForm, ¬ form.IsFormOf token) ∧
        ∃ key value, TakenApart token key value ∧ Refusal key value e) ∧
    (∀ (σ : Type) (scope : Scope σ) (e : SettingsError), Text.IsWord token →
      scope.console.settings.apply token = .error e →
      act (set token) scope = (.error (.badSetting e), scope)) ∧
    (∀ (f : Flag) (s r : Settings), (SettingForm.toggle f).IsFormOf token →
      s.apply token = .ok r → r.apply token = .ok s) ∧
    ((∀ f : Flag, ¬ (SettingForm.toggle f).IsFormOf token) →
      ∀ s r : Settings, s.apply token = .ok r → r.apply token = .ok r) := by
  refine ⟨fun s r ↦ apply_eq_ok_iff, fun form form' ↦ SettingForm.IsFormOf.unique, ?_, ?_,
    fun s e ↦ apply_eq_error_iff, ?_, ?_, ?_⟩
  · intro form s r isForm h
    cases (isForm.apply_eq s).symm.trans h
    exact form.get_make s
  · intro form s r o isForm h other
    cases (isForm.apply_eq s).symm.trans h
    exact Change.get_make_of_ne other.symm
  · intro σ scope e word refused
    refine act_set_eq_error_iff_fst.2 ⟨rfl, ?_⟩
    exact (act_set_word_fst_eq_error_iff word).2 ⟨e, refused, rfl⟩
  · intro f s r isForm h
    cases (isForm.apply_eq s).symm.trans h
    rw [isForm.apply_eq, SettingForm.make_make_toggle]
  · intro noToggle s r h
    obtain ⟨form, isForm, rfl⟩ := apply_eq_ok_iff.1 h
    rw [isForm.apply_eq, SettingForm.make_make fun f hf ↦ noToggle f (hf ▸ isForm)]

/-- A flag that is turned over twice, and the least number that is too large for a time-out. -/
theorem apply_by_form_at_the_bound :
    let s : Settings := {}
    let token := "timeout = 18446744073709551616"
    (SettingForm.toggle .hlsearch).IsFormOf "hlsearch!" ∧
      s.apply "hlsearch!" = .ok { hlsearch := false } ∧
      Settings.apply { hlsearch := false } "hlsearch!" = .ok s ∧
      s.apply token = .error (.invalidValue "timeout" "18446744073709551616") ∧
      ∀ form : SettingForm, ¬ form.IsFormOf token := by
  intro s token
  have isForm : (SettingForm.toggle .hlsearch).IsFormOf "hlsearch!" :=
    ⟨_, _, .bare (by decide), by decide, rfl⟩
  have turned : s.apply "hlsearch!" = .ok { hlsearch := false } := by decide +kernel
  have refused : s.apply token = .error (.invalidValue "timeout" "18446744073709551616") := by
    decide +kernel
  obtain ⟨-, -, -, -, -, -, twice, -⟩ := apply_by_form "hlsearch!"
  obtain ⟨-, -, -, -, refusals, -⟩ := apply_by_form token
  exact ⟨isForm, turned, twice .hlsearch _ _ isForm turned, refused, ((refusals _ _).1 refused).1⟩

end Settings
end Jukebox
