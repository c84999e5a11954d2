import Jukebox.Client.Traced
import Jukebox.Main
import Jukebox.Proofs.AliasChain
import Jukebox.Proofs.Effect
import Jukebox.Proofs.Execution
import Jukebox.Proofs.Atomicity
import Jukebox.Client.Canned
import Jukebox.Proofs.Dispatch
import Jukebox.Client.Watched
import Jukebox.Proofs.HeldCommands
import Jukebox.Proofs.InputLines
import Jukebox.Proofs.TwoPhases
import Jukebox.Proofs.Lockstep
import Jukebox.Proofs.TypedCommands
import Jukebox.Proofs.Words
import Jukebox.Proofs.StartupServer
import Jukebox.Proofs.IdleEvents
import Jukebox.Proofs.Cancelling
import Jukebox.Proofs.ByteOrder
import Jukebox.Proofs.HookCalls
import Jukebox.Proofs.CompletionCycle
import Jukebox.Proofs.Trimming
import Jukebox.Proofs.WellFormed
import Jukebox.Proofs.Courses
import Jukebox.Proofs.AliasExpansion
import Jukebox.Proofs.LeavingCommandMode
import Jukebox.Proofs.Occurrences
import Jukebox.Proofs.Lookup
import Jukebox.Proofs.Searching
import Jukebox.Proofs.SettingChanges
import Jukebox.Proofs.SettingsListing
import Jukebox.Proofs.SettingForms
import Jukebox.Proofs.ChordGrammar
import Jukebox.Proofs.KeyBindings
import Jukebox.Proofs.PromptBindings
import Jukebox.Proofs.PlainText
import Jukebox.Proofs.SearchLine
import Jukebox.Proofs.MatchCycle
import Jukebox.Proofs.Splitting
import Jukebox.Proofs.AliasDefinitions
import Jukebox.Client.Logged
import Jukebox.Proofs.LatestConnect
import Jukebox.Proofs.Highlighting
import Jukebox.Proofs.LineFeeds
import Jukebox.Proofs.StartupFile
import Jukebox.Proofs.HelpText
import Jukebox.Proofs.StatusRegion
import Jukebox.Proofs.NestedCalls
