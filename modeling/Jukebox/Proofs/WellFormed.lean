import Jukebox.Proofs.Dispatch
import Jukebox.Proofs.Trimming

/-!
# What is shown is well formed

Operations, the modes and the startup sequence all write to the panes of the console, with texts
that come from users and servers.  Whatever these texts are, what is shown is in order after any
events, because every write goes through one of the few functions that see to it.

* `Search.WellFormed` says that the index of the active match is one, and that the matches come in
  the order of the queue; `Search.wellFormed_run`, `WellFormed.next` and `WellFormed.previous` are
  what searching does to that.
* `Console.WellFormed` says what all panes have to look like.  It looks at four fields, which is what
  `Console.SameShown` is about, and each function that writes to one of them keeps it.
* `Session.wellFormed_runOperation` goes through the standard operations, and
  `Session.upheld_wellFormed` through the changes of which events are made up.
* `App.shared_state_in_order` is the outcome.
-/

set_option autoImplicit false

namespace Jukebox

open CommandM

/-! ## The status line -/

namespace StatusLine

/-- A message is shown trimmed, and never an empty one. -/
theorem text?_showing {kind : String → StatusLine} (hk : ∀ t, (kind t).text? = some t)
    {text t : String} (h : (showing kind text).text? = some t) : t ≠ "" ∧ Text.Trimmed t := by
  rw [showing] at h
  split at h
  · cases h
  · rename_i hne
    rw [hk] at h
    cases h
    exact ⟨fun he ↦ hne (by rw [he]; rfl), Text.trimmed_trim text⟩

/-- A line without a message is no error. -/
theorem isError_of_text?_eq_none {line : StatusLine} (h : line.text? = none) :
    line.isError = false := by
  cases line with
  | clear => rfl
  | info => cases h
  | error => cases h

end StatusLine

/-! ## The search -/

namespace Search

/-- The index of a search is that of a match, or nought, and its matches come in the order of the
queue, whose first position is one. -/
structure WellFormed (s : Search) : Prop where
  active : s.active < s.hits.length ∨ s.hits = [] ∧ s.active = 0
  positive : ∀ hit ∈ s.hits, 1 ≤ hit.position
  increasing : s.hits.Pairwise fun hit hit' ↦ hit.position < hit'.position

variable {s : Search}

theorem wellFormed_empty : ({} : Search).WellFormed where
  active := .inr ⟨rfl, rfl⟩
  positive := by simp
  increasing := .nil

/-- With any match at all, the index is that of a match. -/
theorem WellFormed.inside (h : s.WellFormed) (hne : s.hits ≠ []) : s.active < s.hits.length :=
  h.active.resolve_right fun he ↦ hne he.1

/-- Lines that are numbered from one on are numbered in order. -/
theorem pairwise_zipIdx (lines : List String) :
    (lines.zipIdx 1).Pairwise fun a b ↦ a.2 < b.2 := by
  rw [← List.pairwise_map (f := Prod.snd) (R := (· < ·)), List.zipIdx_map_snd]
  exact List.pairwise_lt_range'

theorem wellFormed_run (query listing : String) (ignoreCase : Bool) :
    (run query listing ignoreCase).WellFormed := by
  have position {line : String} {n : Nat} {hit : Hit}
      (h : (if Text.matchRanges line query ignoreCase = [] then none
        else some ({ position := n, line := Text.trim line } : Hit)) = some hit) :
      hit.position = n := by
    split at h
    · cases h
    · cases h
      rfl
  refine ⟨?_, fun hit h ↦ ?_, ?_⟩
  · by_cases he : (run query listing ignoreCase).hits = []
    · exact .inr ⟨he, rfl⟩
    · exact .inl (List.length_pos_iff.2 he)
  · obtain ⟨⟨line, n⟩, hmem, hit_eq⟩ := List.mem_filterMap.1 h
    rw [position hit_eq]
    exact List.le_snd_of_mem_zipIdx hmem
  · refine (pairwise_zipIdx _).filterMap _ fun ⟨line, n⟩ ⟨line', n'⟩ lt hit h hit' h' ↦ ?_
    rw [position h, position h']
    exact lt

theorem WellFormed.next (h : s.WellFormed) : s.next.WellFormed := by
  rw [Search.next]
  split
  · exact h
  · rename_i hne
    exact ⟨.inl (Nat.mod_lt _ (List.length_pos_iff.2 hne)), h.positive, h.increasing⟩

theorem WellFormed.previous (h : s.WellFormed) : s.previous.WellFormed := by
  rw [Search.previous]
  split
  · exact h
  · rename_i hne
    have some_hit := List.length_pos_iff.2 hne
    have inside := h.inside hne
    -- from the first match back to the last one, and one back otherwise
    split
    · exact ⟨.inl (by dsimp only; omega), h.positive, h.increasing⟩
    · exact ⟨.inl (by dsimp only; omega), h.positive, h.increasing⟩

/-- There is a match to be at exactly if there is any match. -/
theorem WellFormed.isSome_current?_iff (h : s.WellFormed) :
    s.current?.isSome = true ↔ s.hits ≠ [] := by
  rw [current?, isSome_getElem?]
  constructor
  · intro inside he
    rw [he] at inside
    simp at inside
  · exact h.inside

end Search

/-! ## The panes -/

namespace Console

variable {σ : Type}

/-- What the panes show is in order: the status line is clear or shows a trimmed text, the output
fits into its pane, no line about the server is empty, ends in a blank, or is more than one line, and
the search is at one of its matches. -/
structure WellFormed (c : Console σ) : Prop where
  status {text : String} (h : c.status.text? = some text) : text ≠ "" ∧ Text.Trimmed text
  output : c.output.length ≤ 200
  serverStatus : ∀ line ∈ c.serverStatus,
    line ≠ "" ∧ Text.TrimmedEnd line ∧ '\n' ∉ line.toList
  search : c.search.WellFormed

/-- Two consoles whose panes show the same. -/
structure SameShown (c c' : Console σ) : Prop where
  status : c'.status = c.status
  output : c'.output = c.output
  serverStatus : c'.serverStatus = c.serverStatus
  search : c'.search = c.search

namespace WellFormed

variable {c c' : Console σ}

theorem of_sameShown (h : c.WellFormed) (same : c.SameShown c') : c'.WellFormed where
  status ht := h.status (same.status ▸ ht)
  output := same.output ▸ h.output
  serverStatus := same.serverStatus ▸ h.serverStatus
  search := same.search ▸ h.search

theorem client (h : c.WellFormed) (client : σ) : WellFormed { c with client } :=
  h.of_sameShown ⟨rfl, rfl, rfl, rfl⟩

theorem search_with (h : c.WellFormed) {search : Search} (hs : search.WellFormed) :
    WellFormed { c with search } :=
  ⟨h.status, h.output, h.serverStatus, hs⟩

theorem status_with (h : c.WellFormed) {status : StatusLine}
    (hs : ∀ text, status.text? = some text → text ≠ "" ∧ Text.Trimmed text) :
    WellFormed { c with status } :=
  ⟨hs _, h.output, h.serverStatus, h.search⟩

theorem clearStatus (h : c.WellFormed) : c.clearStatus.WellFormed := h.status_with nofun

theorem info (h : c.WellFormed) (text : String) : (c.info text).WellFormed := by
  rw [Console.info]
  exact h.status_with fun _ ↦ StatusLine.text?_showing fun _ ↦ rfl

theorem error (h : c.WellFormed) (text : String) : (c.error text).WellFormed := by
  rw [Console.error]
  exact h.status_with fun _ ↦ StatusLine.text?_showing fun _ ↦ rfl

theorem reportError (h : c.WellFormed) (e : CommandError) : (c.reportError e).WellFormed := by
  rw [reportError_eq]
  exact h.error _

theorem showOutput (h : c.WellFormed) (lines : List String) : (c.showOutput lines).WellFormed := by
  rw [Console.showOutput]
  exact ⟨h.status, List.length_take_le _ _, h.serverStatus, h.search⟩

theorem setServerStatus (h : c.WellFormed) (text : String) :
    (c.setServerStatus text).WellFormed := by
  rw [Console.setServerStatus]
  refine ⟨h.status, h.output, fun line hline ↦ ?_, h.search⟩
  obtain ⟨hmem, hne⟩ := List.mem_filter.1 hline
  obtain ⟨whole, hwhole, rfl⟩ := List.mem_map.1 hmem
  refine ⟨fun he ↦ ?_, Text.trimmedEnd_trimEnd whole, fun hn ↦ ?_⟩
  · rw [he] at hne
    cases hne
  · exact Text.newline_notMem_of_mem_lines hwhole (Text.mem_of_mem_trimEnd hn)

theorem refreshServerStatus [Client σ] (h : c.WellFormed) : c.refreshServerStatus.WellFormed := by
  rw [Console.refreshServerStatus]
  split
  · rcases Client.status c.client with ⟨e | text, client⟩
    · exact (h.client client).reportError _
    · exact (h.client client).setServerStatus text
  · exact h

end WellFormed

end Console

/-! ## Operations -/

namespace Builtin

variable {σ : Type} {s : Scope σ}

theorem wellFormed_set (h : s.console.WellFormed) (args : String) :
    (act (set args) s).2.console.WellFormed := by
  rw [act_set]
  split
  · exact h.showOutput _
  · split
    · exact h.of_sameShown ⟨rfl, rfl, rfl, rfl⟩
    · exact h

theorem wellFormed_manageAliases (h : s.console.WellFormed) (args : String) :
    (act (manageAliases args) s).2.console.WellFormed := by
  rw [act_manageAliases]
  split
  · split
    · exact h.info _
    · exact h.showOutput _
  · split
    · split <;> exact h.info _
    · exact h

theorem wellFormed_echo (h : s.console.WellFormed) (args : String) :
    (act (echo args) s).2.console.WellFormed := by
  rw [echo, act_update]
  exact h.info args

theorem wellFormed_help (h : s.console.WellFormed) (text : List String) :
    (act (help text) s).2.console.WellFormed := by
  rw [help, act_update]
  exact h.showOutput text

theorem wellFormed_searchMove (h : s.console.WellFormed) {move : Search → Search}
    (hm : ∀ search : Search, search.WellFormed → (move search).WellFormed) :
    (act (searchMove move) s).2.console.WellFormed := by
  rw [act_searchMove]
  exact (h.search_with (hm _ h.search)).info _

variable [Client σ]

theorem wellFormed_announce (h : s.console.WellFormed) (server : Endpoint) :
    (announce server s).console.WellFormed := by
  rw [announce]
  generalize "Connected to " ++ server.host ++ ":" ++ toString server.port.toNat = text
  have told : (s.mapConsole (.info text)).console.WellFormed := h.info text
  generalize s.mapConsole (.info text) = s at told
  rcases Client.status s.console.client with ⟨_ | text', client⟩
  · exact told.client client
  · exact (told.client client).setServerStatus text'

theorem wellFormed_connect (h : s.console.WellFormed) (args : String) :
    (act (connect args) s).2.console.WellFormed := by
  rw [act_connect]
  cases endpoint? s.console.server args with
  | none => exact h
  | some server =>
    dsimp only
    rcases Client.connect server s.console.client with ⟨_ | _, client⟩
    · exact h.client client
    · exact wellFormed_announce (s := s.withClient client) (h.client client) server

theorem wellFormed_mpc (h : s.console.WellFormed) (args : String) :
    (act (mpc args) s).2.console.WellFormed := by
  rw [act_mpc]
  split
  · exact h
  · split
    · exact (h.client _).showOutput _
    · exact h.client _

theorem wellFormed_pass (h : s.console.WellFormed) (word args : String) :
    (act (pass word args) s).2.console.WellFormed := by
  rw [act_pass]
  split
  · exact (h.client _).setServerStatus _
  · exact h.client _

theorem wellFormed_search (h : s.console.WellFormed) (args : String) :
    (act (search args) s).2.console.WellFormed := by
  rw [act_search]
  split
  · exact h
  · split
    · exact ((h.client _).search_with (Search.wellFormed_run _ _ _)).info _
    · exact h.client _

/-- No operation of the standard catalogue brings the panes out of order. -/
theorem wellFormed_standard {op : Operation σ} {name : String}
    (found : (Catalogue.standard σ).get? name = some op) (text : List String) (args : String)
    (h : s.console.WellFormed) : (act (op.run text args) s).2.console.WellFormed := by
  refine Catalogue.forall_standard
    (P := fun _ run ↦ (act (run text args) s).2.console.WellFormed)
    ?set ?mpc ?manageAliases ?connect ?echo ?help ?redraw ?quit ?search ?searchNext
    ?searchPrevious ?pass found
  case set => exact wellFormed_set h args
  case mpc => exact wellFormed_mpc h args
  case manageAliases => exact wellFormed_manageAliases h args
  case connect => exact wellFormed_connect h args
  case echo => exact wellFormed_echo h args
  case help => exact wellFormed_help h text
  case redraw => exact h.of_sameShown ⟨rfl, rfl, rfl, rfl⟩
  case quit => exact h.of_sameShown ⟨rfl, rfl, rfl, rfl⟩
  case search =>
    beta_reduce
    exact wellFormed_search h args
  case searchNext => exact wellFormed_searchMove h fun _ ↦ .next
  case searchPrevious => exact wellFormed_searchMove h fun _ ↦ .previous
  case pass => exact fun word ↦ wellFormed_pass h word args

end Builtin

/-! ## The settings

A value for every option is part of what settings are, so only what it comes to is left to say. -/

namespace Settings

variable (s : Settings)

/-- There is a value under the name of each of the five options, and under no other name. -/
theorem isSome_lookup?_iff (name : String) :
    (s.lookup? name).isSome = true ↔
      name ∈ ["hlsearch", "ignorecase", "polling", "skipconfigconnects", "timeout"] := by
  have names : ["hlsearch", "ignorecase", "polling", "skipconfigconnects", "timeout"] =
      Setting.all.map Setting.name := rfl
  rw [lookup?, Option.isSome_map, Setting.ofName?, List.find?_isSome, names, List.mem_map]
  simp only [beq_iff_eq]

/-- The value of a flag is a truth value. -/
theorem exists_lookup?_eq_truth {name : String}
    (h : name ∈ ["hlsearch", "ignorecase", "polling", "skipconfigconnects"]) :
    ∃ b, s.lookup? name = some (.truth b) := by
  simp only [List.mem_cons, List.not_mem_nil, or_false] at h
  rcases h with rfl | rfl | rfl | rfl
  · exact ⟨s.hlsearch, rfl⟩
  · exact ⟨s.ignorecase, rfl⟩
  · exact ⟨s.polling, rfl⟩
  · exact ⟨s.skipconfigconnects, rfl⟩

theorem one_le_timeoutMs : 1 ≤ s.timeoutMs := by
  rw [timeoutMs]
  split
  · decide
  · rename_i hne
    have pos : s.timeout.toNat ≠ 0 := fun he ↦ hne (UInt64.toNat_inj.1 he)
    rw [UInt64.le_iff_toNat_le]
    exact Nat.one_le_iff_ne_zero.2 pos

end Settings

/-! ## Sessions -/

namespace Session

variable {σ : Type} [Client σ]

/-- Over the standard catalogue, the panes are in order. -/
structure WellFormed (s : Session σ) : Prop where
  catalogue : s.interpreter.catalogue = .standard σ
  console : s.console.WellFormed

theorem WellFormed.mapConsole {s : Session σ} (h : s.WellFormed)
    {f : Console σ → Console σ} (hf : (f s.console).WellFormed) : (s.mapConsole f).WellFormed :=
  ⟨h.catalogue, hf⟩

theorem wellFormed_runOperation {s : Session σ} (h : s.WellFormed) {op : Operation σ} {c : Command}
    (found : s.interpreter.catalogue.get? c.name = some op) : (s.runOperation op c).2.WellFormed := by
  rw [h.catalogue] at found
  exact ⟨h.catalogue, Builtin.wellFormed_standard (s := s.scope) found _ c.args h.console⟩

theorem stable_wellFormed : Stable (σ := σ) WellFormed where
  operation found h := wellFormed_runOperation h found
  queue _ _ h := ⟨h.catalogue, h.console⟩
  report e h := h.mapConsole (h.console.reportError e)

/-- None of the changes that events are made up of brings the panes out of order. -/
theorem upheld_wellFormed : Upheld (σ := σ) WellFormed where
  execute := fun c h ↦ stable_wellFormed.execute h c
  reportError := fun e h ↦ h.mapConsole (h.console.reportError e)
  refreshServerStatus := fun h ↦ h.mapConsole h.console.refreshServerStatus
  clearStatus := fun h ↦ h.mapConsole h.console.clearStatus
  aside := fun {s s'} same h ↦ by
    refine ⟨?_, h.console.of_sameShown ?_⟩
    · rw [same.interpreter]
      exact h.catalogue
    · rw [same.console]
      exact ⟨rfl, rfl, rfl, rfl⟩

end Session

/-! ## The application -/

namespace App

variable {σ : Type} [Client σ] (keymap : Keymap) (config : Config) (launch : Launch)
  (files : FileReader) (client : σ)

theorem wellFormed_initialSession : (initialSession config launch client).WellFormed where
  catalogue := rfl
  console := ⟨nofun, Nat.zero_le _, by simp [initialSession], Search.wellFormed_empty⟩

theorem wellFormed_startWith :
    (startWith keymap config launch files client).session.WellFormed := by
  have started : (startupSession config launch files client).WellFormed :=
    Session.stable_wellFormed.runStartup _ (wellFormed_initialSession config launch client)
  obtain ⟨s, hs, he⟩ : ∃ s : Session σ, s.WellFormed ∧
      (startWith keymap config launch files client).session = Modes.showLine none s :=
    exists_startWith (fun c h ↦ Session.stable_wellFormed.execute h c)
      (fun h ↦ h.mapConsole (h.console.of_sameShown ⟨rfl, rfl, rfl, rfl⟩))
      (fun text h ↦ h.mapConsole (h.console.error text)) started
  rw [he]
  exact Session.upheld_wellFormed.showLine none hs

/-- **What all modes share is in order after any events.**  There is a value of the right kind for
each option and a time-out to wait for.  The status line is clear or shows a trimmed text.  The
output fits into its pane.  Every line about the server is one line, not empty, without blanks at its
end.  The search is at one of its matches, if there are any, and these come in the order of the
queue. -/
theorem shared_state_in_order (events : List Event) :
    let console := ((startWith keymap config launch files client).run events).session.console
    ((∀ name, (console.settings.lookup? name).isSome = true ↔
        name ∈ ["hlsearch", "ignorecase", "polling", "skipconfigconnects", "timeout"]) ∧
      (∀ name ∈ ["hlsearch", "ignorecase", "polling", "skipconfigconnects"],
        ∃ b, console.settings.lookup? name = some (.truth b)) ∧
      (∃ n : UInt64, console.settings.lookup? "timeout" = some (.number n) ∧ n.toNat < UInt64.size) ∧
      1 ≤ console.settings.timeoutMs) ∧
    ((console.status.text? = none ∧ console.status.isError = false) ∨
      ∃ text, console.status.text? = some text ∧ text ≠ "" ∧ Text.Trimmed text) ∧
    console.output.length ≤ 200 ∧
    (∀ line ∈ console.serverStatus,
      line ≠ "" ∧ Text.TrimmedEnd line ∧ '\n' ∉ line.toList) ∧
    (console.search.active < console.search.hits.length ∨
      console.search.hits = [] ∧ console.search.active = 0) ∧
    (console.search.current?.isSome = true ↔ console.search.hits ≠ []) ∧
    (∀ hit ∈ console.search.hits, 1 ≤ hit.position) ∧
    console.search.hits.Pairwise fun hit hit' ↦ hit.position < hit'.position := by
  intro console
  have shown : console.WellFormed :=
    (upholds_run Session.upheld_wellFormed handlers_startWith events
      (wellFormed_startWith keymap config launch files client)).console
  refine ⟨⟨Settings.isSome_lookup?_iff _, fun name ↦ Settings.exists_lookup?_eq_truth _,
    ⟨_, rfl, UInt64.toNat_lt_size _⟩, Settings.one_le_timeoutMs _⟩, ?_, shown.output,
    shown.serverStatus, shown.search.active, shown.search.isSome_current?_iff,
    shown.search.positive, shown.search.increasing⟩
  cases ht : console.status.text? with
  | none => exact .inl ⟨rfl, StatusLine.isError_of_text?_eq_none ht⟩
  | some text => exact .inr ⟨text, rfl, shown.status ht⟩

end App
end Jukebox
