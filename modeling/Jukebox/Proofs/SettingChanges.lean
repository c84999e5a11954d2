import Jukebox.Client.Canned
import Jukebox.Proofs.Effect
import Jukebox.Proofs.Words

/-!
# Changing settings token by token

The arguments of `set` are tokens, each of which changes one option.  The changes are tried out on a
copy of the settings first, and the copy is put in place only if all of them have been accepted.
This file says what that comes to in terms of the tokens taken as commands of their own.

* `Setting.addressed?` is the option that a token is about, and `Change` what an accepted token does
  to it.  `Settings.reading`: whether a token is accepted, and as which change, has nothing to do
  with the settings.
* `Builtin.applyAll_eq_error_iff` and `exists_applyAll_iff` say when several tokens are accepted, and
  `get_applyAll_congr` which of them an option depends on.
* `Builtin.SetInTurn` is setting tokens as separate commands, and `Builtin.set_token_by_token` is the
  outcome.
-/

set_option autoImplicit false

namespace Jukebox

/-! ## What a token comes to -/

/-- The option that a token is about: the one whose name stands before the first equals sign, or, if
there is none, is the token itself, but for an exclamation mark behind it or `no` before it. -/
def Setting.addressed? (token : String) : Option Setting :=
  match Text.Chars.splitAt? '=' token.toList with
  | some (key, _) => Setting.ofName? (.ofList (Text.Chars.trim key))
  | none =>
    (Setting.ofName? (Text.trim token)).or
      (((Flag.ofToggle? (Text.trim token)).or (Flag.ofNegation? (Text.trim token))).map .flag)

/-- A change of one option: a flag is turned in some way, or there is another time-out. -/
inductive Change where
  | flag (f : Flag) (turn : Bool → Bool)
  | timeout (n : UInt64)

namespace Change

/-- The option that is changed. -/
def option : Change → Setting
  | flag f _ => .flag f
  | timeout _ => .timeout

/-- The settings with the change made. -/
def make (s : Settings) : Change → Settings
  | flag f turn => s.setFlag f (turn (s.flag f))
  | timeout n => { s with timeout := n }

variable {s s' : Settings} {o : Setting} {c : Change}

/-- A change leaves the other options alone. -/
theorem get_make_of_ne (h : c.option ≠ o) : (c.make s).get o = s.get o := by
  cases c with
  | flag f turn =>
    cases o with
    | flag g =>
      have hne : f ≠ g := fun he ↦ h (congrArg Setting.flag he)
      show SettingValue.truth ((s.setFlag f _).flag g) = .truth (s.flag g)
      rw [Settings.flag_setFlag, if_neg hne]
    | timeout => cases f <;> rfl
  | timeout n =>
    cases o with
    | flag g => cases g <;> rfl
    | timeout => exact absurd rfl h

/-- What a change makes of an option depends on nothing but the option. -/
theorem get_make_congr (h : s.get o = s'.get o) : (c.make s).get o = (c.make s').get o := by
  by_cases ho : c.option = o
  · subst ho
    cases c with
    | flag f turn =>
      have hflag : s.flag f = s'.flag f := SettingValue.truth.inj h
      show SettingValue.truth ((s.setFlag f _).flag f) = .truth ((s'.setFlag f _).flag f)
      rw [Settings.flag_setFlag, Settings.flag_setFlag, hflag]
    | timeout n => rfl
  · rw [get_make_of_ne ho, get_make_of_ne ho, h]

end Change

namespace Settings

variable {s s' r r' : Settings} {o : Setting} {token : String}

/-- Settings are no more than the values of the options. -/
theorem ext_get (h : ∀ o, s.get o = s'.get o) : s = s' := by
  have flags (f : Flag) : s.flag f = s'.flag f := SettingValue.truth.inj (h (.flag f))
  have hlsearch : s.hlsearch = s'.hlsearch := flags .hlsearch
  have ignorecase : s.ignorecase = s'.ignorecase := flags .ignorecase
  have polling : s.polling = s'.polling := flags .polling
  have skipconfigconnects : s.skipconfigconnects = s'.skipconfigconnects := flags .skipconfigconnects
  have timeout : s.timeout = s'.timeout := SettingValue.number.inj (h .timeout)
  cases s
  cases s'
  simp_all

/-- What a token comes to, whatever the settings are. -/
inductive Reading (token : String) : Prop
  /-- It is refused. -/
  | refused (e : SettingsError) (apply_eq : ∀ s : Settings, s.apply token = .error e)
  /-- It is accepted, as a change of the option that it is about. -/
  | accepted (c : Change) (addressed : Setting.addressed? token = some c.option)
      (apply_eq : ∀ s : Settings, s.apply token = .ok (c.make s))

theorem reading_of_value (key raw : String)
    (happly : ∀ s : Settings, s.apply token = s.assign key (some raw))
    (haddressed : Setting.addressed? token = Setting.ofName? key) : Reading token := by
  cases hname : Setting.ofName? key with
  | none => exact .refused (.unknownOption key) fun s ↦ by simp only [happly, assign, hname]
  | some o =>
    rw [hname] at haddressed
    cases o with
    | flag f =>
      cases hraw : truthOfWord? raw with
      | none =>
        exact .refused (.invalidValue key raw) fun s ↦ by simp only [happly, assign, hname, hraw]
      | some b =>
        exact .accepted (.flag f fun _ ↦ b) haddressed fun s ↦ by
          simp only [happly, assign, hname, hraw, Change.make]
    | timeout =>
      cases hraw : Text.uint64? raw with
      | none =>
        exact .refused (.invalidValue key raw) fun s ↦ by simp only [happly, assign, hname, hraw]
      | some n =>
        exact .accepted (.timeout n) haddressed fun s ↦ by
          simp only [happly, assign, hname, hraw, Change.make]

theorem reading_of_word (word : String) (happly : ∀ s : Settings, s.apply token = s.assign word none)
    (haddressed : Setting.addressed? token = (Setting.ofName? word).or
      (((Flag.ofToggle? word).or (Flag.ofNegation? word)).map .flag)) : Reading token := by
  cases hname : Setting.ofName? word with
  | some o =>
    rw [hname, Option.some_or] at haddressed
    cases o with
    | flag f =>
      exact .accepted (.flag f fun _ ↦ true) haddressed fun s ↦ by
        simp only [happly, assign, hname, Change.make]
    | timeout => exact .refused (.missingValue word) fun s ↦ by simp only [happly, assign, hname]
  | none =>
    have hword (s : Settings) : s.apply token = s.assignWord word := by
      simp only [happly, assign, hname]
    rw [hname, Option.none_or] at haddressed
    cases htoggle : Flag.ofToggle? word with
    | some f =>
      rw [htoggle] at haddressed
      exact .accepted (.flag f not) haddressed fun s ↦ by
        simp only [hword, assignWord, htoggle, Change.make]
    | none =>
      rw [htoggle, Option.none_or] at haddressed
      cases hnegation : Flag.ofNegation? word with
      | some f =>
        rw [hnegation] at haddressed
        exact .accepted (.flag f fun _ ↦ false) haddressed fun s ↦ by
          simp only [hword, assignWord, htoggle, hnegation, Change.make]
      | none =>
        exact .refused (.unknownOption word) fun s ↦ by
          simp only [hword, assignWord, htoggle, hnegation]

/-- **Whether a token is accepted, and as which change, has nothing to do with the settings.** -/
theorem reading (token : String) : Reading token := by
  cases hsplit : Text.Chars.splitAt? '=' token.toList with
  | some pieces =>
    refine reading_of_value (.ofList (Text.Chars.trim pieces.1))
      (.ofList (Text.Chars.trim pieces.2)) (fun s ↦ ?_) ?_
    · rw [apply, hsplit]
    · rw [Setting.addressed?, hsplit]
  | none =>
    refine reading_of_word (Text.trim token) (fun s ↦ ?_) ?_
    · rw [apply, hsplit]
    · rw [Setting.addressed?, hsplit]

/-- A token that is accepted, as one and the same change whatever the settings are. -/
def Accepted (token : String) : Prop := ∃ c : Change, ∀ s : Settings, s.apply token = .ok (c.make s)

theorem accepted_of_apply (h : s.apply token = .ok r) : Accepted token := by
  cases reading token with
  | refused e happly => cases (happly s).symm.trans h
  | accepted c _ happly => exact ⟨c, happly⟩

/-- A token that is about another option leaves an option alone. -/
theorem get_apply_of_ne (h : s.apply token = .ok r) (hne : Setting.addressed? token ≠ some o) :
    r.get o = s.get o := by
  cases reading token with
  | refused e happly => cases (happly s).symm.trans h
  | accepted c addressed happly =>
    cases (happly s).symm.trans h
    exact Change.get_make_of_ne fun he ↦ hne (he ▸ addressed)

/-- What a token makes of an option depends on nothing but the option. -/
theorem get_apply_congr (h : s.apply token = .ok r) (h' : s'.apply token = .ok r')
    (same : s.get o = s'.get o) : r.get o = r'.get o := by
  obtain ⟨c, happly⟩ := accepted_of_apply h
  cases (happly s).symm.trans h
  cases (happly s').symm.trans h'
  exact Change.get_make_congr same

end Settings

/-! ## Several tokens -/

/-- The tokens that are about an option, in their order. -/
def Setting.tokensAbout (o : Setting) (tokens : List String) : List String :=
  tokens.filter fun token ↦ Setting.addressed? token = some o

/-- Tokens about different options may change places. -/
theorem Setting.tokensAbout_swap {o : Setting} {t u : String}
    (hne : Setting.addressed? t ≠ Setting.addressed? u) (before after : List String) :
    o.tokensAbout (before ++ u :: t :: after) = o.tokensAbout (before ++ t :: u :: after) := by
  by_cases ht : Setting.addressed? t = some o
  · have hu : Setting.addressed? u ≠ some o := fun hu ↦ hne (ht.trans hu.symm)
    simp [tokensAbout, ht, hu]
  · simp [tokensAbout, List.filter_cons, ht]

namespace Builtin

variable {s s' r r' : Settings} {o : Setting} {token : String} {tokens : List String}
  {e : SettingsError}

theorem applyAll_cons_of_ok (h : s.apply token = .ok r) :
    applyAll s (token :: tokens) = applyAll r tokens := by
  rw [applyAll, List.foldlM_cons, h]
  rfl

theorem applyAll_cons_of_error (h : s.apply token = .error e) :
    applyAll s (token :: tokens) = .error e := by
  rw [applyAll, List.foldlM_cons, h]
  rfl

theorem applyAll_cons_eq_ok_iff :
    applyAll s (token :: tokens) = .ok r ↔
      ∃ first, s.apply token = .ok first ∧ applyAll first tokens = .ok r := by
  cases htoken : s.apply token with
  | error e => simp [applyAll_cons_of_error htoken]
  | ok first => simp [applyAll_cons_of_ok htoken]

theorem applyAll_cons_eq_error_iff :
    applyAll s (token :: tokens) = .error e ↔ s.apply token = .error e ∨
      ∃ first, s.apply token = .ok first ∧ applyAll first tokens = .error e := by
  cases htoken : s.apply token with
  | error e' => simp [applyAll_cons_of_error htoken]
  | ok first => simp [applyAll_cons_of_ok htoken]

theorem applyAll_singleton (s : Settings) (token : String) :
    applyAll s [token] = s.apply token := by
  cases h : s.apply token with
  | error e => exact applyAll_cons_of_error h
  | ok r => exact applyAll_cons_of_ok h

/-- Tokens are accepted if each of them is. -/
theorem exists_applyAll_iff :
    (∃ r, applyAll s tokens = .ok r) ↔ ∀ token ∈ tokens, Settings.Accepted token := by
  induction tokens generalizing s with
  | nil => exact ⟨fun _ ↦ nofun, fun _ ↦ ⟨s, rfl⟩⟩
  | cons token tokens ih =>
    rw [List.forall_mem_cons]
    constructor
    · rintro ⟨r, h⟩
      obtain ⟨first, hfirst, hrest⟩ := applyAll_cons_eq_ok_iff.1 h
      exact ⟨Settings.accepted_of_apply hfirst, ih.1 ⟨r, hrest⟩⟩
    · rintro ⟨⟨c, hc⟩, rest⟩
      rw [applyAll_cons_of_ok (hc s)]
      exact ih.2 rest

/-- What is refused is the first token that the settings refuse as the ones before it leave them. -/
theorem applyAll_eq_error_iff :
    applyAll s tokens = .error e ↔ ∃ before token after r, tokens = before ++ token :: after ∧
      applyAll s before = .ok r ∧ r.apply token = .error e := by
  induction tokens generalizing s with
  | nil => simp [applyAll, pure, Except.pure]
  | cons token tokens ih =>
    rw [applyAll_cons_eq_error_iff]
    constructor
    · rintro (htoken | ⟨first, hfirst, hrest⟩)
      · exact ⟨[], token, tokens, s, rfl, rfl, htoken⟩
      · obtain ⟨before, u, after, r, rfl, hbefore, hu⟩ := ih.1 hrest
        exact ⟨token :: before, u, after, r, rfl,
          applyAll_cons_eq_ok_iff.2 ⟨first, hfirst, hbefore⟩, hu⟩
    · rintro ⟨_ | ⟨t, before⟩, u, after, r, htokens, hbefore, hu⟩
      · obtain ⟨rfl, rfl⟩ := List.cons.inj htokens
        cases hbefore
        exact .inl hu
      · obtain ⟨rfl, rfl⟩ := List.cons.inj htokens
        obtain ⟨first, hfirst, hbefore⟩ := applyAll_cons_eq_ok_iff.1 hbefore
        exact .inr ⟨first, hfirst, ih.2 ⟨before, u, after, r, rfl, hbefore, hu⟩⟩

/-- Tokens that are not about an option may be left out as far as it is concerned. -/
theorem get_applyAll_tokensAbout (h : applyAll s tokens = .ok r)
    (h' : applyAll s' (o.tokensAbout tokens) = .ok r') (same : s.get o = s'.get o) :
    r.get o = r'.get o := by
  induction tokens generalizing s s' with
  | nil =>
    cases h
    cases h'
    exact same
  | cons token tokens ih =>
    obtain ⟨c, hc⟩ := exists_applyAll_iff.1 ⟨r, h⟩ token List.mem_cons_self
    rw [applyAll_cons_of_ok (hc s)] at h
    by_cases ho : Setting.addressed? token = some o
    · rw [Setting.tokensAbout, List.filter_cons_of_pos (by simpa using ho),
        applyAll_cons_of_ok (hc s')] at h'
      exact ih h h' (Settings.get_apply_congr (hc s) (hc s') same)
    · rw [Setting.tokensAbout, List.filter_cons_of_neg (by simpa using ho)] at h'
      exact ih h h' ((Settings.get_apply_of_ne (hc s) ho).trans same)

/-- **An option depends on its old value and the tokens about it only.** -/
theorem get_applyAll_congr {tokens' : List String} (h : applyAll s tokens = .ok r)
    (h' : applyAll s' tokens' = .ok r') (same : s.get o = s'.get o)
    (about : o.tokensAbout tokens = o.tokensAbout tokens') : r.get o = r'.get o := by
  have accepted : ∀ token ∈ o.tokensAbout tokens, Settings.Accepted token := fun token ht ↦
    exists_applyAll_iff.1 ⟨r, h⟩ token (List.mem_filter.1 ht).1
  obtain ⟨r₀, h₀⟩ : ∃ r₀, applyAll s (o.tokensAbout tokens) = .ok r₀ :=
    exists_applyAll_iff.2 accepted
  have left := get_applyAll_tokensAbout h h₀ rfl
  rw [about] at h₀
  exact left.trans (get_applyAll_tokensAbout h' h₀ same.symm).symm

/-- Tokens that are accepted may change places if they are about different options. -/
theorem applyAll_swap {t u : String} {before after : List String}
    (h : applyAll s (before ++ t :: u :: after) = .ok r)
    (hne : Setting.addressed? t ≠ Setting.addressed? u) :
    applyAll s (before ++ u :: t :: after) = .ok r := by
  have accepted : ∀ token ∈ before ++ u :: t :: after, Settings.Accepted token := fun token ht ↦
    exists_applyAll_iff.1 ⟨r, h⟩ token
      (((List.Perm.swap t u after).append_left before).mem_iff.1 ht)
  obtain ⟨r', h'⟩ : ∃ r', applyAll s (before ++ u :: t :: after) = .ok r' :=
    exists_applyAll_iff.2 accepted
  rw [h', Settings.ext_get fun o ↦
    get_applyAll_congr h' h rfl (Setting.tokensAbout_swap hne before after)]

end Builtin

/-! ## The operation -/

/-- The scope with other settings. -/
def Scope.withSettings {σ : Type} (settings : Settings) (s : Scope σ) : Scope σ :=
  s.mapConsole fun c ↦ { c with settings }

namespace Builtin

open CommandM

variable {σ : Type} {s s' : Scope σ} {args token : String} {tokens : List String}
  {e : CommandError}

theorem act_set_of_nonblank (s : Scope σ) (h : Text.isAllBlank args = false) :
    act (set args) s =
      match applyAll s.console.settings (Text.words args) with
      | .ok settings => (.ok (), s.withSettings settings)
      | .error e => (.error (.badSetting e), s) := by
  rw [act_set, h, if_neg Bool.false_ne_true]
  rfl

theorem act_set_eq_ok_iff_applyAll (h : Text.isAllBlank args = false) :
    act (set args) s = (.ok (), s') ↔
      ∃ r, applyAll s.console.settings (Text.words args) = .ok r ∧ s' = s.withSettings r := by
  rw [act_set_of_nonblank s h]
  cases applyAll s.console.settings (Text.words args) with
  | error e => simp
  | ok r => simp [eq_comm]

theorem act_set_fst_eq_error_iff_applyAll (h : Text.isAllBlank args = false) :
    (act (set args) s).1 = .error e ↔
      ∃ e', applyAll s.console.settings (Text.words args) = .error e' ∧ e = .badSetting e' := by
  rw [act_set_of_nonblank s h]
  cases applyAll s.console.settings (Text.words args) with
  | error e' => simp [eq_comm]
  | ok r => simp

/-- Setting that fails changes nothing. -/
theorem act_set_of_failed (h : (act (set args) s).1 ≠ .ok ()) : (act (set args) s).2 = s := by
  rw [act_set] at h ⊢
  split at h
  · exact absurd rfl h
  · rename_i nonblank
    rw [if_neg nonblank]
    cases hr : applyAll s.console.settings (Text.words args) with
    | ok r =>
      rw [hr] at h
      exact absurd rfl h
    | error e => rfl

theorem act_set_eq_error_iff_fst :
    act (set args) s = (.error e, s') ↔ s' = s ∧ (act (set args) s).1 = .error e := by
  have unchanged (h : (act (set args) s).1 = .error e) : (act (set args) s).2 = s :=
    act_set_of_failed (by rw [h]; exact nofun)
  constructor
  · intro h
    have refused : (act (set args) s).1 = .error e := congrArg Prod.fst h
    exact ⟨(congrArg Prod.snd h).symm.trans (unchanged refused), refused⟩
  · rintro ⟨rfl, h⟩
    exact Prod.ext h (unchanged h)

/-! A token that is a command of its own is the only one of that command. -/

theorem act_set_word_eq_ok_iff (h : Text.IsWord token) :
    act (set token) s = (.ok (), s') ↔
      ∃ r, s.console.settings.apply token = .ok r ∧ s' = s.withSettings r := by
  rw [act_set_eq_ok_iff_applyAll (Text.isAllBlank_of_isWord h), Text.words_of_isWord h,
    applyAll_singleton]

theorem act_set_word_fst_eq_error_iff (h : Text.IsWord token) :
    (act (set token) s).1 = .error e ↔
      ∃ e', s.console.settings.apply token = .error e' ∧ e = .badSetting e' := by
  rw [act_set_fst_eq_error_iff_applyAll (Text.isAllBlank_of_isWord h), Text.words_of_isWord h,
    applyAll_singleton]

/-- Setting tokens as separate commands, one after the other, goes well with each of them. -/
inductive SetInTurn : List String → Scope σ → Scope σ → Prop
  | nil (s : Scope σ) : SetInTurn [] s s
  | cons {token : String} {tokens : List String} {s s' s'' : Scope σ}
      (first : act (set token) s = (.ok (), s')) (rest : SetInTurn tokens s' s'') :
      SetInTurn (token :: tokens) s s''

/-- Separate commands come to what all tokens come to together. -/
theorem setInTurn_iff (h : ∀ token ∈ tokens, Text.IsWord token) :
    SetInTurn tokens s s' ↔
      ∃ r, applyAll s.console.settings tokens = .ok r ∧ s' = s.withSettings r := by
  induction tokens generalizing s with
  | nil =>
    constructor
    · intro h
      cases h
      exact ⟨_, rfl, rfl⟩
    · rintro ⟨r, hr, rfl⟩
      cases hr
      exact .nil s
  | cons token tokens ih =>
    obtain ⟨word, words⟩ := List.forall_mem_cons.1 h
    constructor
    · rintro (_ | ⟨first, rest⟩)
      obtain ⟨r, hr, rfl⟩ := (act_set_word_eq_ok_iff word).1 first
      obtain ⟨r', hr', rfl⟩ := (ih words).1 rest
      exact ⟨r', applyAll_cons_eq_ok_iff.2 ⟨r, hr, hr'⟩, rfl⟩
    · rintro ⟨r', hr', rfl⟩
      obtain ⟨r, hr, hrest⟩ := applyAll_cons_eq_ok_iff.1 hr'
      exact .cons ((act_set_word_eq_ok_iff word).2 ⟨r, hr, rfl⟩) ((ih words).2 ⟨r', hrest, rfl⟩)

/-- Setting succeeds with just the settings that its tokens come to. -/
theorem applyAll_of_act_set (h : act (set args) s = (.ok (), s')) :
    applyAll s.console.settings (Text.words args) = .ok s'.console.settings := by
  cases blank : Text.isAllBlank args with
  | true =>
    rw [act_set, blank, if_pos rfl] at h
    cases h
    rw [Text.words_eq_nil_iff.2 blank, Scope.mapConsole]
    rw [Console.showOutput]
    rfl
  | false =>
    obtain ⟨r, hr, rfl⟩ := (act_set_eq_ok_iff_applyAll blank).1 h
    exact hr

/-- Setting succeeds if setting the tokens as separate commands does, and comes to the same. -/
theorem act_set_eq_ok_iff (h : Text.isAllBlank args = false) :
    act (set args) s = (.ok (), s') ↔ SetInTurn (Text.words args) s s' := by
  rw [setInTurn_iff fun _ ↦ Text.isWord_of_mem_words, act_set_eq_ok_iff_applyAll h]

/-- Setting fails as the first of the separate commands that fails, and changes nothing. -/
theorem act_set_eq_error_iff (h : Text.isAllBlank args = false) :
    act (set args) s = (.error e, s') ↔ s' = s ∧
      ∃ before token after s₁, Text.words args = before ++ token :: after ∧
        SetInTurn before s s₁ ∧ (act (set token) s₁).1 = .error e := by
  have word {before after : List String} {token : String}
      (split : Text.words args = before ++ token :: after) : Text.IsWord token :=
    Text.isWord_of_mem_words (split ▸ List.mem_append_right _ List.mem_cons_self)
  have words {before after : List String} (split : Text.words args = before ++ after) :
      ∀ token ∈ before, Text.IsWord token := fun _ ht ↦
    Text.isWord_of_mem_words (split ▸ List.mem_append_left _ ht)
  rw [act_set_eq_error_iff_fst, act_set_fst_eq_error_iff_applyAll h]
  refine and_congr_right fun _ ↦ ⟨?_, ?_⟩
  · rintro ⟨e', refused, rfl⟩
    obtain ⟨before, token, after, r, split, hbefore, htoken⟩ := applyAll_eq_error_iff.1 refused
    exact ⟨before, token, after, s.withSettings r, split,
      (setInTurn_iff (words split)).2 ⟨r, hbefore, rfl⟩,
      (act_set_word_fst_eq_error_iff (word split)).2 ⟨e', htoken, rfl⟩⟩
  · rintro ⟨before, token, after, s₁, split, hbefore, failed⟩
    obtain ⟨r, hr, rfl⟩ := (setInTurn_iff (words split)).1 hbefore
    obtain ⟨e', htoken, rfl⟩ := (act_set_word_fst_eq_error_iff (word split)).1 failed
    exact ⟨e', applyAll_eq_error_iff.2 ⟨before, token, after, r, split, hr, htoken⟩, rfl⟩

/-- Tokens that have been accepted may change places if they are about different options. -/
theorem act_set_swap_of_ok {before after : List String} {t u args' : String}
    (hargs : Text.words args = before ++ t :: u :: after)
    (hargs' : Text.words args' = before ++ u :: t :: after)
    (hne : Setting.addressed? t ≠ Setting.addressed? u) (accepted : (act (set args) s).1 = .ok ()) :
    act (set args') s = act (set args) s := by
  have nonblank {text first : String} {before after : List String}
      (split : Text.words text = before ++ first :: after) : Text.isAllBlank text = false := by
    rw [Text.isAllBlank_eq_false_iff, split]
    exact List.append_ne_nil_of_right_ne_nil _ (List.cons_ne_nil _ _)
  have hr : applyAll s.console.settings (Text.words args) =
      .ok (act (set args) s).2.console.settings := applyAll_of_act_set (Prod.ext accepted rfl)
  rw [act_set_of_nonblank s (nonblank hargs'), act_set_of_nonblank s (nonblank hargs), hr]
  rw [hargs] at hr
  rw [hargs', applyAll_swap hr hne]

/-- Two tokens in the other order succeed or fail as they did before, and leave the same behind. -/
theorem act_set_swap {before after : List String} {t u args' : String}
    (hargs : Text.words args = before ++ t :: u :: after)
    (hargs' : Text.words args' = before ++ u :: t :: after)
    (hne : Setting.addressed? t ≠ Setting.addressed? u) :
    ((act (set args') s).1 = .ok () ↔ (act (set args) s).1 = .ok ()) ∧
      (act (set args') s).2 = (act (set args) s).2 := by
  by_cases accepted : (act (set args) s).1 = .ok ()
  · rw [act_set_swap_of_ok hargs hargs' hne accepted]
    exact ⟨.rfl, rfl⟩
  · have refused : (act (set args') s).1 ≠ .ok () := by
      intro accepted'
      rw [act_set_swap_of_ok hargs' hargs hne.symm accepted'] at accepted
      exact accepted accepted'
    exact ⟨iff_of_false refused accepted, by
      rw [act_set_of_failed refused, act_set_of_failed accepted]⟩

/-- **Setting several tokens is setting one after the other, or nothing at all.**  It succeeds if
setting them as separate commands succeeds every time, and comes to the same.  Otherwise nothing has
happened, and the error is that of the first token that fails as a separate command.  After a
success an option depends on its old value and the tokens about it only; so two tokens next to each
other that are about different options may change places. -/
theorem set_token_by_token (s : Scope σ) (h : Text.isAllBlank args = false) :
    (∀ s', act (set args) s = (.ok (), s') ↔ SetInTurn (Text.words args) s s') ∧
    (∀ e s', act (set args) s = (.error e, s') ↔ s' = s ∧
      ∃ before token after s₁, Text.words args = before ++ token :: after ∧
        SetInTurn before s s₁ ∧ (act (set token) s₁).1 = .error e) ∧
    (∀ (o : Setting) (args' : String) (s₁ s' s₁' : Scope σ),
      act (set args) s = (.ok (), s') → act (set args') s₁ = (.ok (), s₁') →
      s.console.settings.get o = s₁.console.settings.get o →
      o.tokensAbout (Text.words args) = o.tokensAbout (Text.words args') →
      s'.console.settings.get o = s₁'.console.settings.get o) ∧
    (∀ before t u after args', Text.words args = before ++ t :: u :: after →
      Text.words args' = before ++ u :: t :: after →
      Setting.addressed? t ≠ Setting.addressed? u →
      ((act (set args') s).1 = .ok () ↔ (act (set args) s).1 = .ok ()) ∧
        (act (set args') s).2 = (act (set args) s).2) := by
  refine ⟨fun s' ↦ act_set_eq_ok_iff h, fun e s' ↦ act_set_eq_error_iff h, ?_, ?_⟩
  · intro o args' s₁ s' s₁' hs hs₁ same about
    exact get_applyAll_congr (applyAll_of_act_set hs) (applyAll_of_act_set hs₁) same about
  · intro before t u after args' hargs hargs' hne
    exact act_set_swap hargs hargs' hne

/-- Three tokens about three options, and two of them in the other order. -/
theorem set_three_tokens :
    let s : Scope Canned := ⟨{ client := ⟨[], false⟩ }, ∅⟩
    let settings : Settings := { timeout := 250, polling := false, hlsearch := false }
    Text.isAllBlank "timeout=250 nopolling hlsearch!" = false ∧
      SetInTurn ["timeout=250", "nopolling", "hlsearch!"] s (s.withSettings settings) ∧
      (act (set "nopolling timeout=250 hlsearch!") s).2.console.settings = settings := by
  intro s settings
  have nonblank : Text.isAllBlank "timeout=250 nopolling hlsearch!" = false := by decide
  obtain ⟨succeeds, -, -, swap⟩ := set_token_by_token s nonblank
  have done : act (set "timeout=250 nopolling hlsearch!") s = (.ok (), s.withSettings settings) := by
    rfl
  have swapped := swap [] "timeout=250" "nopolling" ["hlsearch!"] "nopolling timeout=250 hlsearch!"
    (by decide) (by decide) (by decide)
  refine ⟨nonblank, (succeeds _).1 done, ?_⟩
  rw [swapped.2, done]
  rfl

end Builtin
end Jukebox
