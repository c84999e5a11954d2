import Jukebox.Proofs.AliasChain
import Jukebox.Proofs.Courses
import Jukebox.Proofs.Splitting

/-!
# An alias means its expansion

Invoking an alias does what executing the line behind it does, whatever the arguments are, and up to
the bound on expansions: the alias itself counts as one of them.  The line that a definition stores
is not the one that was written, since blanks are trimmed from it, but the two are the same command.

* `Session.Means` is what invoking a name comes to; `Session.means_of_getElem?` says that every alias
  means the line behind it.
* `Command.ofLine_behindWord`: what is stored by a definition is the same command as what was
  written in it.
* `Session.alias_means_its_expansion` is the outcome.
-/

set_option autoImplicit false

namespace Jukebox

/-! ## Reading a definition -/

namespace Text

namespace Chars

/-- What stands behind the first word is the same for the text trimmed, but for blanks at the end. -/
theorem exists_dropWhile_trimStart (cs : List Char) :
    ∃ bs, (trimStart cs).dropWhile (!isBlank ·) = (trim cs).dropWhile (!isBlank ·) ++ bs ∧
      ∀ b ∈ bs, isBlank b = true := by
  obtain ⟨bs, hbs, blank⟩ := exists_append_blanks (trimStart cs)
  refine ⟨bs, ?_, blank⟩
  -- if there is one word only, the blanks behind it are all there is behind it
  have none_dropped : bs.dropWhile (!isBlank ·) = bs := by
    cases bs with
    | nil => rfl
    | cons b bs => simp [blank b List.mem_cons_self]
  conv_lhs => rw [hbs]
  rw [List.dropWhile_append, none_dropped]
  split
  · rename_i empty
    rw [trim, List.isEmpty_iff.1 empty, List.nil_append]
  · rfl

end Chars

/-- What is written behind the first word, blanks included. -/
def behindWord (s : String) : String :=
  .ofList ((Chars.trimStart s.toList).dropWhile (!isBlank ·))

theorem trim_behindWord (s : String) :
    Chars.trim (behindWord s).toList =
      Chars.trim ((Chars.trim s.toList).dropWhile (!isBlank ·)) := by
  obtain ⟨bs, hbs, blank⟩ := Chars.exists_dropWhile_trimStart s.toList
  rw [behindWord, String.toList_ofList, hbs]
  exact Chars.trim_append_blanks blank

end Text

namespace Command

/-- Blanks around a line make no difference to the command on it. -/
theorem ofLine_ofList_trim (cs : List Char) :
    ofLine (.ofList (Text.Chars.trim cs)) = ofLine (.ofList cs) := by
  simp only [ofLine, String.toList_ofList, Text.Chars.trim_trim]

/-- The arguments on a line are what is written behind the name, trimmed. -/
theorem args_ofLine (line : String) : (ofLine line).args = Text.trim (Text.behindWord line) := by
  rw [Text.trim, Text.trim_behindWord]
  rfl

/-- **What a definition stores is the same command as what is written in it.** -/
theorem ofLine_behindWord {text name line : String}
    (h : aliasDefinition? text = some (name, line)) :
    ofLine (Text.behindWord text) = ofLine line := by
  have stored : line = Text.trim (Text.behindWord text) := by
    rw [← args_ofLine, ofLine_of_aliasDefinition? h]
  rw [stored, Text.trim, ofLine_ofList_trim, String.ofList_toList]

end Command

namespace Session

variable {σ : Type} [Client σ]

/-! ## One alias -/

/-- What invoking a name comes to: executing a line, unless what is on the line takes more expansions
than are left behind the first one. -/
structure Means (s : Session σ) (name line : String) : Prop where
  within {k : Nat} {d : Command} (hk : k ≤ 15)
    (leads : s.interpreter.aliases.Leads (.ofLine line) k d) (args : String) :
    s.execute ⟨name, args⟩ = s.executeLine line
  beyond (far : ∀ k ≤ 15, ∀ d, ¬ s.interpreter.aliases.Leads (.ofLine line) k d) (args : String) :
    s.execute ⟨name, args⟩ = (.error (.aliasCycle name 16), s)

theorem execute_congr {s : Session σ} {c c' : Command}
    (h : s.interpreter.aliases.resolve c = s.interpreter.aliases.resolve c') :
    s.execute c = s.execute c' := by
  rw [execute, execute, h]

/-- Every alias means the line behind it. -/
theorem means_of_getElem? {s : Session σ} {name line : String}
    (h : s.interpreter.aliases[name]? = some line) : s.Means name line := by
  have expand (args : String) :
      s.interpreter.aliases.expand? ⟨name, args⟩ = some (.ofLine line) := by
    rw [AliasTable.expand?, h]
    rfl
  constructor
  · intro k d hk leads args
    have resolved : s.interpreter.aliases.resolve ⟨name, args⟩ = .ok d :=
      AliasTable.resolve_eq_ok_iff.2
        ⟨k + 1, Nat.succ_le_succ hk, (AliasTable.leads_succ_iff (expand args)).2 leads⟩
    have read : s.interpreter.aliases.resolve (.ofLine line) = .ok d :=
      AliasTable.resolve_eq_ok_iff.2 ⟨k, Nat.le_succ_of_le hk, leads⟩
    exact execute_congr (resolved.trans read.symm)
  · intro far args
    have endless (d : Command) : s.interpreter.aliases.resolve ⟨name, args⟩ ≠ .ok d := by
      intro hd
      obtain ⟨k, hk, leads⟩ := AliasTable.resolve_eq_ok_iff.1 hd
      -- the alias is not the end of its chain, so the rest of the chain is shorter by one
      cases k with
      | zero => exact AliasTable.not_leads_zero (expand args) leads
      | succ k =>
        exact far k (Nat.le_of_succ_le_succ hk) d ((AliasTable.leads_succ_iff (expand args)).1 leads)
    rw [execute, AliasTable.resolve_eq_error endless]
    rfl

/-- Two lines with the same command on them mean the same. -/
theorem Means.of_ofLine_eq {s : Session σ} {name line line' : String} (h : s.Means name line)
    (same : Command.ofLine line' = .ofLine line) : s.Means name line' where
  within hk leads args := by
    rw [same] at leads
    rw [h.within hk leads args, executeLine, executeLine, same]
  beyond far args := by
    rw [same] at far
    exact h.beyond far args

/-! ## Definitions -/

/-- The operation that defines aliases. -/
theorem get?_alias : (Catalogue.standard σ).get? "alias" =
    some ⟨"alias", "Define an alias: alias <name> <command>", .standalone,
      fun _ ↦ Builtin.manageAliases⟩ :=
  Catalogue.get?_standard_eq_some_iff.2 ⟨by simp [Catalogue.builtins], rfl⟩

/-- A definition stores the line, and does nothing else. -/
theorem execute_definition {s : Session σ} {c : Command} {args name line : String}
    (standard : s.interpreter.catalogue.get? "alias" = (Catalogue.standard σ).get? "alias")
    (resolve : s.interpreter.aliases.resolve c = .ok ⟨"alias", args⟩)
    (definition : aliasDefinition? args = some (name, line)) (line_ne : line ≠ "") :
    s.execute c = (.ok (),
      (s.withScope ⟨s.console, s.interpreter.aliases.insert name line⟩).remember
        ⟨"alias", args⟩) := by
  have stored : CommandM.act (Builtin.manageAliases args) s.scope =
      (.ok (), ⟨s.console, s.interpreter.aliases.insert name line⟩) := by
    rw [Builtin.act_manageAliases, definition]
    dsimp only
    rw [if_neg line_ne]
    rfl
  have found := standard.trans get?_alias
  have performed : s.invoke ⟨"alias", args⟩ = s.perform ⟨"alias", args⟩ :=
    invoke_of_free found (fun holds ↦ holds.2 rfl) (fun connects ↦ by cases connects)
  rw [execute_of_resolve resolve (by simp), performed,
    perform_of_ready found (fun player ↦ by cases player), runOperation_eq stored]

/-- **An alias means its expansion.**  In every session, invoking an alias with any arguments is the
same as executing the line behind it, if what is on the line takes at most fifteen expansions more,
and is refused for the name given otherwise.  A definition stores a line such that from then on the
name means what was written in the definition, blanks included, in the same sense. -/
theorem alias_means_its_expansion (s : Session σ) :
    (∀ name line, s.interpreter.aliases[name]? = some line → s.Means name line) ∧
      ∀ c args name line,
        s.interpreter.catalogue.get? "alias" = (Catalogue.standard σ).get? "alias" →
        s.interpreter.aliases.resolve c = .ok ⟨"alias", args⟩ →
        aliasDefinition? args = some (name, line) → line ≠ "" →
        ∃ s', s.execute c = (.ok (), s') ∧
          s'.interpreter.aliases = s.interpreter.aliases.insert name line ∧
          s'.Means name (Text.behindWord args) := by
  refine ⟨fun name line ↦ means_of_getElem?, ?_⟩
  intro c args name line standard resolve definition line_ne
  refine ⟨_, execute_definition standard resolve definition line_ne, rfl, ?_⟩
  have stored : (s.interpreter.aliases.insert name line)[name]? = some line :=
    Std.TreeMap.getElem?_insert_self
  exact (means_of_getElem? stored).of_ofLine_eq (Command.ofLine_behindWord definition)

/-- Where an alias is one more than the bound allows, the line behind it still is within it. -/
theorem alias_means_its_expansion_up_to_the_bound :
    let chain : AliasTable := (List.range 16).foldl
      (fun t i ↦ t.insert ("a" ++ toString i) ("a" ++ toString (i + 1)))
      ((∅ : AliasTable).insert "a16" "echo at last")
    let s : Session Canned :=
      { interpreter := { catalogue := .standard Canned, aliases := chain }
        console := { client := ⟨[], false⟩ } }
    let near := (s.execute ⟨"alias", "near \t a2  "⟩).2
    let far := (s.execute ⟨"alias", "far  a1 "⟩).2
    near.execute ⟨"near", "x"⟩ = near.executeLine " \t a2  " ∧
      (near.execute ⟨"near", "x"⟩).2.console.status = .info "at last" ∧
      far.execute ⟨"far", "x"⟩ = (.error (.aliasCycle "far" 16), far) ∧
      (far.executeLine "  a1 ").2.console.status = .info "at last" := by
  intro chain s near far
  obtain ⟨near', defined, -, means⟩ := (alias_means_its_expansion s).2 ⟨"alias", "near \t a2  "⟩
    "near \t a2  " "near" "a2" rfl (by decide +kernel) (by decide +kernel) (by decide)
  obtain ⟨far', defined', -, means'⟩ := (alias_means_its_expansion s).2 ⟨"alias", "far  a1 "⟩
    "far  a1 " "far" "a1" rfl (by decide +kernel) (by decide +kernel) (by decide)
  have near_eq : near' = near := congrArg Prod.snd defined.symm
  have far_eq : far' = far := congrArg Prod.snd defined'.symm
  have written : Text.behindWord "near \t a2  " = " \t a2  " := by decide +kernel
  have written' : Text.behindWord "far  a1 " = "  a1 " := by decide +kernel
  rw [near_eq, written] at means
  rw [far_eq, written'] at means'
  have fifteen : near.interpreter.aliases.resolveWithin 15 (.ofLine " \t a2  ") =
      some ⟨"echo", "at last"⟩ := by decide +kernel
  have sixteen : far.interpreter.aliases.resolveWithin 15 (.ofLine "  a1 ") = none := by
    decide +kernel
  obtain ⟨k, hk, leads⟩ := AliasTable.resolveWithin_eq_some_iff.1 fifteen
  refine ⟨means.within hk leads "x", by decide +kernel, means'.beyond (fun k hk d leads ↦ ?_) "x",
    by decide +kernel⟩
  cases sixteen.symm.trans (AliasTable.resolveWithin_eq_some_iff.2 ⟨k, hk, leads⟩)

end Session
end Jukebox
