import Jukebox.Session
import Mathlib.Data.Nat.Init
import Mathlib.Tactic.Common

/-!
# The chain of an alias

`AliasTable.resolve` follows aliases with a bound on the number of expansions.  This file says what
it computes without the bound: the *chain* of a command is what comes of expanding it again and
again, for as long as its name is an alias.

* `AliasTable.chain` is the chain, which may go on for ever, and `AliasTable.Leads` says that it
  ends and where.
* `resolveWithin_eq_some_iff` relates the two: what `n` expansions find is the end of a chain that
  takes no more.
* `leads_nodup_passed`: a chain that ends passes no alias twice.  The reason is
  `chain_add_eq_of_name_eq`: what follows a command depends on its name only, so a name that
  returns brings everything behind it back as well.
* `execute_follows_chain` puts this together for a session.
-/

set_option autoImplicit false

namespace Jukebox
namespace AliasTable

variable {t : AliasTable} {c d : Command}

/-! ## One expansion -/

theorem expand?_eq_none_iff : t.expand? c = none ↔ c.name ∉ t := by
  rw [expand?, Option.map_eq_none_iff, ← Option.not_isSome_iff_eq_none,
    Std.TreeMap.isSome_getElem?_iff_mem]

theorem mem_of_expand?_eq_some (h : t.expand? c = some d) : c.name ∈ t := by
  by_contra hc
  rw [expand?_eq_none_iff.2 hc] at h
  cases h

/-- The arguments of an alias are dropped. -/
theorem expand?_congr (h : c.name = d.name) : t.expand? c = t.expand? d := by
  rw [expand?, expand?, h]

/-! ## The chain -/

/-- The command that `k` expansions of `c` lead to, if there are so many.  An expansion goes to the
command on the line that the table has under the name. -/
def chain (t : AliasTable) (c : Command) : Nat → Option Command
  | 0 => some c
  | k + 1 => (t.chain c k).bind fun a ↦ t[a.name]?.map Command.ofLine

/-- Each step of the chain is an expansion. -/
theorem chain_step (t : AliasTable) (c : Command) (k : Nat) :
    t.chain c (k + 1) = (t.chain c k).bind t.expand? := rfl

/-- The chain of `c` ends after `k` expansions with `d`, whose name is no alias. -/
structure Leads (t : AliasTable) (c : Command) (k : Nat) (d : Command) : Prop where
  /-- The chain gets there. -/
  reaches : t.chain c k = some d
  /-- And no further. -/
  ends : d.name ∉ t

/-- The chain of `c` comes back to a name. -/
def Cycles (t : AliasTable) (c : Command) : Prop :=
  ∃ i j a b, i < j ∧ t.chain c i = some a ∧ t.chain c j = some b ∧ a.name = b.name

/-- The names that the first `k` expansions of `c` expand. -/
def passed (t : AliasTable) (c : Command) (k : Nat) : List String :=
  (List.range k).filterMap fun i ↦ (t.chain c i).map Command.name

theorem chain_succ (t : AliasTable) (c : Command) (k : Nat) :
    t.chain c (k + 1) = (t.expand? c).bind (t.chain · k) := by
  induction k with
  | zero =>
    rw [chain_step]
    cases h : t.expand? c <;> simp [chain, h]
  | succ k ih => rw [chain_step, ih, Option.bind_assoc]; rfl

/-- A chain that gets to `j` gets to everything before. -/
theorem isSome_chain_of_le {i j : Nat} (hij : i ≤ j) (h : (t.chain c j).isSome) :
    (t.chain c i).isSome := by
  induction j, hij using Nat.le_induction with
  | base => exact h
  | succ j _ ih =>
    refine ih ?_
    rw [chain_step] at h
    cases hj : t.chain c j with
    | none => simp [hj] at h
    | some b => rfl

/-- Only the last command of a chain can be one that is no alias. -/
theorem mem_of_chain_succ {i : Nat} {a : Command} (ha : t.chain c i = some a)
    (h : (t.chain c (i + 1)).isSome) : a.name ∈ t := by
  rw [chain_step, ha, Option.bind_some] at h
  obtain ⟨b, hb⟩ := Option.isSome_iff_exists.1 h
  exact mem_of_expand?_eq_some hb

theorem Leads.chain_succ_eq_none {k : Nat} (h : t.Leads c k d) : t.chain c (k + 1) = none := by
  rw [chain_step, h.reaches, Option.bind_some]
  exact expand?_eq_none_iff.2 h.ends

/-- Behind a name, the chain goes on in the same way wherever the name stands in it. -/
theorem chain_add_eq_of_name_eq {i j : Nat} {a b : Command} (ha : t.chain c i = some a)
    (hb : t.chain c j = some b) (hab : a.name = b.name) (m : Nat) :
    t.chain c (i + 1 + m) = t.chain c (j + 1 + m) := by
  induction m with
  | zero =>
    rw [Nat.add_zero, Nat.add_zero, chain_step, chain_step, ha, hb]
    exact expand?_congr hab
  | succ m ih => rw [← Nat.add_assoc, ← Nat.add_assoc, chain_step, chain_step, ih]

/-- A chain that comes back to a name has no end. -/
theorem Cycles.isSome_chain (h : t.Cycles c) (m : Nat) : (t.chain c m).isSome := by
  obtain ⟨i, j, a, b, hij, ha, hb, hab⟩ := h
  induction m using Nat.strong_induction_on with
  | _ m ih =>
    rcases Nat.lt_or_ge j m with hm | hm
    · -- a command behind the second place of the name is one behind the first
      have hfold := chain_add_eq_of_name_eq ha hb hab (m - (j + 1))
      rw [show j + 1 + (m - (j + 1)) = m by omega] at hfold
      rw [← hfold]
      exact ih _ (by omega)
    · exact isSome_chain_of_le hm (by rw [hb]; rfl)

theorem Cycles.not_leads (h : t.Cycles c) (k : Nat) : ¬ t.Leads c k d := by
  intro hk
  have hsome := h.isSome_chain (k + 1)
  rw [hk.chain_succ_eq_none] at hsome
  cases hsome

/-- A chain that ends comes by its first `k` commands, each of them an alias. -/
theorem Leads.exists_alias {k : Nat} (h : t.Leads c k d) {i : Nat} (hi : i < k) :
    ∃ a, t.chain c i = some a ∧ a.name ∈ t := by
  have hk : (t.chain c k).isSome := by rw [h.reaches]; rfl
  obtain ⟨a, ha⟩ := Option.isSome_iff_exists.1 (isSome_chain_of_le (Nat.le_of_lt hi) hk)
  exact ⟨a, ha, mem_of_chain_succ ha (isSome_chain_of_le hi hk)⟩

theorem Leads.passed_eq {k : Nat} (h : t.Leads c k d) :
    ∀ j ≤ k, (t.passed c j).length = j ∧ ∀ name ∈ t.passed c j, name ∈ t
  | 0, _ => by simp [passed]
  | j + 1, hj => by
    obtain ⟨hlen, hmem⟩ := h.passed_eq j (by omega)
    obtain ⟨a, ha, hat⟩ := h.exists_alias (show j < k by omega)
    have hstep : t.passed c (j + 1) = t.passed c j ++ [a.name] := by
      simp [passed, List.range_succ, ha]
    rw [hstep]
    refine ⟨by simp [hlen], fun name hname ↦ ?_⟩
    rcases List.mem_append.1 hname with hname | hname
    · exact hmem name hname
    · rw [List.mem_singleton.1 hname]; exact hat

/-- **A chain that ends passes no alias twice.** -/
theorem leads_nodup_passed {k : Nat} (h : t.Leads c k d) : (t.passed c k).Nodup := by
  refine List.pairwise_filterMap.2 (List.pairwise_lt_range.imp fun hij x hx y hy hxy ↦ ?_)
  obtain ⟨a, ha, rfl⟩ := Option.map_eq_some_iff.1 hx
  obtain ⟨b, hb, rfl⟩ := Option.map_eq_some_iff.1 hy
  exact Cycles.not_leads ⟨_, _, a, b, hij, ha, hb, hxy⟩ k h

/-- A chain that gets to fewer than `n + 1` commands has come to its end. -/
theorem exists_leads_of_chain_eq_none : ∀ {n : Nat}, t.chain c n = none →
    ∃ k < n, ∃ d, t.Leads c k d
  | 0, h => by cases h
  | n + 1, h => by
    cases hn : t.chain c n with
    | none =>
      obtain ⟨k, hk, hlead⟩ := exists_leads_of_chain_eq_none hn
      exact ⟨k, Nat.lt_succ_of_lt hk, hlead⟩
    | some d =>
      rw [chain_step, hn, Option.bind_some] at h
      exact ⟨n, Nat.lt_succ_self n, d, hn, expand?_eq_none_iff.1 h⟩

/-! ## Resolving -/

/-- An alias does not end its own chain. -/
theorem not_leads_zero {next : Command} (hc : t.expand? c = some next) : ¬ t.Leads c 0 d := by
  intro h
  obtain rfl : c = d := Option.some.inj h.reaches
  exact h.ends (mem_of_expand?_eq_some hc)

/-- The chain of an alias is the alias in front of the chain of its expansion. -/
theorem leads_succ_iff {k : Nat} {next : Command} (hc : t.expand? c = some next) :
    t.Leads c (k + 1) d ↔ t.Leads next k d := by
  have hchain : t.chain c (k + 1) = t.chain next k := by rw [chain_succ, hc, Option.bind_some]
  exact ⟨fun h ↦ ⟨hchain ▸ h.reaches, h.ends⟩, fun h ↦ ⟨hchain ▸ h.reaches, h.ends⟩⟩

/-- A command that is no alias is its own chain. -/
theorem leads_iff_of_expand?_eq_none {k : Nat} (hc : t.expand? c = none) :
    t.Leads c k d ↔ k = 0 ∧ c = d := by
  constructor
  · intro h
    cases k with
    | zero => exact ⟨rfl, Option.some.inj h.reaches⟩
    | succ k =>
      have hr := h.reaches
      rw [chain_succ, hc] at hr
      cases hr
  · rintro ⟨rfl, rfl⟩
    exact ⟨rfl, expand?_eq_none_iff.1 hc⟩

/-- What at most `n` expansions find is the end of a chain that takes at most `n`. -/
theorem resolveWithin_eq_some_iff {n : Nat} :
    t.resolveWithin n c = some d ↔ ∃ k ≤ n, t.Leads c k d := by
  fun_induction resolveWithin t n c with
  | case1 n c hc =>
    constructor
    · rintro ⟨⟩
      exact ⟨0, Nat.zero_le n, (leads_iff_of_expand?_eq_none hc).2 ⟨rfl, rfl⟩⟩
    · rintro ⟨k, -, h⟩
      rw [((leads_iff_of_expand?_eq_none hc).1 h).2]
  | case2 c next hc =>
    constructor
    · rintro ⟨⟩
    · rintro ⟨k, hk, h⟩
      rw [Nat.le_zero.1 hk] at h
      exact absurd h (not_leads_zero hc)
  | case3 c next n hc ih =>
    rw [ih]
    constructor
    · rintro ⟨k, hk, h⟩
      exact ⟨k + 1, Nat.succ_le_succ hk, (leads_succ_iff hc).2 h⟩
    · rintro ⟨k, hk, h⟩
      cases k with
      | zero => exact absurd h (not_leads_zero hc)
      | succ k => exact ⟨k, Nat.le_of_succ_le_succ hk, (leads_succ_iff hc).1 h⟩

theorem resolve_eq_ok_iff : t.resolve c = .ok d ↔ ∃ k ≤ maxAliasDepth, t.Leads c k d := by
  rw [← resolveWithin_eq_some_iff, resolve]
  cases t.resolveWithin maxAliasDepth c <;> simp

/-- Giving up blames the name that was given. -/
theorem resolve_eq_error (h : ∀ d, t.resolve c ≠ .ok d) :
    t.resolve c = .error (.aliasCycle c.name maxAliasDepth) := by
  rw [resolve] at h ⊢
  cases hr : t.resolveWithin maxAliasDepth c with
  | none => rfl
  | some d =>
    rw [hr] at h
    exact absurd rfl (h d)

/-- Exactly the chains that cycle, and those with more commands than the bound allows, have no end
within the bound. -/
theorem not_exists_leads_iff {n : Nat} :
    (¬ ∃ k ≤ n, ∃ d, t.Leads c k d) ↔ t.Cycles c ∨ (t.chain c (n + 1)).isSome := by
  constructor
  · intro h
    refine .inr (Option.isSome_iff_ne_none.2 fun hn ↦ h ?_)
    obtain ⟨k, hk, hlead⟩ := exists_leads_of_chain_eq_none hn
    exact ⟨k, Nat.le_of_lt_succ hk, hlead⟩
  · rintro h ⟨k, hk, d, hlead⟩
    rcases h with h | h
    · exact h.not_leads k hlead
    · have hsome := isSome_chain_of_le (Nat.succ_le_succ hk) h
      rw [hlead.chain_succ_eq_none] at hsome
      cases hsome

end AliasTable

namespace Session

variable {σ : Type} [Client σ]

open AliasTable

/-- **Executing a command follows its chain to the end, unless that is too far.**  The command
found is the end of the chain, at most sixteen aliases away and all of them different.  A chain
without an end, or with one that is further away, is an error that names the command as it was
given, and the session stays as it is. -/
theorem execute_follows_chain (s : Session σ) (c : Command) :
    let t := s.interpreter.aliases
    (∀ d, t.resolve c = .ok d ↔ ∃ k ≤ 16, t.Leads c k d) ∧
      (∀ k d, t.Leads c k d → (t.passed c k).length = k ∧ (t.passed c k).Nodup ∧
        (∀ name ∈ t.passed c k, name ∈ t) ∧ (k = 0 → d = c)) ∧
      (t.Cycles c ∨ (t.chain c 17).isSome ↔ ∀ d, t.resolve c ≠ .ok d) ∧
      ((∀ d, t.resolve c ≠ .ok d) → s.execute c = (.error (.aliasCycle c.name 16), s)) := by
  intro t
  refine ⟨fun d ↦ resolve_eq_ok_iff, fun k d h ↦ ?_, ?_, fun h ↦ ?_⟩
  · obtain ⟨hlen, hmem⟩ := h.passed_eq k (Nat.le_refl k)
    refine ⟨hlen, leads_nodup_passed h, hmem, ?_⟩
    rintro rfl
    exact (Option.some.inj h.reaches).symm
  · rw [← not_exists_leads_iff]
    constructor
    · intro h d hd
      obtain ⟨k, hk, hlead⟩ := resolve_eq_ok_iff.1 hd
      exact h ⟨k, hk, d, hlead⟩
    · rintro h ⟨k, hk, d, hlead⟩
      exact h d (resolve_eq_ok_iff.2 ⟨k, hk, hlead⟩)
  · rw [execute, resolve_eq_error h]
    rfl

end Session
end Jukebox
