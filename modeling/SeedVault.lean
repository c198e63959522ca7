import SeedVault.Main
import SeedVault.Proofs.Wallet.Steps
import SeedVault.Proofs.Wallet.Order
import SeedVault.Proofs.Wallet.Agreement
import SeedVault.Proofs.Bytes.Bits
import SeedVault.Proofs.Phrase.WordList
import SeedVault.Proofs.Text.Split
import SeedVault.Proofs.Phrase.Codec
import SeedVault.Proofs.Phrase.Mnemonic
import SeedVault.Proofs.Phrase.Verdict
import SeedVault.Proofs.Storage.Directory
import SeedVault.Proofs.Storage.FolderStore
import SeedVault.Proofs.Storage.Files
import SeedVault.Proofs.Storage.Interruption
import SeedVault.Proofs.Storage.Refinement
import SeedVault.Proofs.Text.Decimal
import SeedVault.Proofs.Url.Host
import SeedVault.Proofs.Url.Origin
import SeedVault.Proofs.Storage.Isolation
import SeedVault.Proofs.Storage.Lawful
import SeedVault.Session.Request
import SeedVault.Proofs.Session.KeptText
import SeedVault.Proofs.Json.Quoted
import SeedVault.Proofs.Text.Blank
import SeedVault.Proofs.Key.Bech32
import SeedVault.Proofs.Key.Path
import SeedVault.Proofs.Key.Address
import SeedVault.Proofs.Curve.Order
import SeedVault.Proofs.Key.Deriver
import SeedVault.Proofs.Session.Events
import SeedVault.Proofs.Attempt
import SeedVault.Scenario.Request
import SeedVault.Proofs.Scenario.Steps
import SeedVault.Proofs.Scenario.Passing
import SeedVault.Proofs.Scenario.InProcess
import SeedVault.Proofs.Wallet.Calls
import SeedVault.Proofs.Wallet.Reports
import SeedVault.Proofs.Browser.Client
import SeedVault.Proofs.Wallet.Extension
import SeedVault.Proofs.Wallet.Attendance
import SeedVault.Proofs.Wallet.Sending
import SeedVault.Proofs.Scenario.BrowserPage
import SeedVault.Proofs.Url.Site
import SeedVault.Proofs.Command.Trial
import SeedVault.Proofs.Command.Release
import SeedVault.Command.Process
import SeedVault.Proofs.Session.FolderSession
import SeedVault.Proofs.Storage.PathText
import SeedVault.Proofs.Command.KeptPhrase
import SeedVault.Proofs.Command.Processes
import SeedVault.Proofs.Storage.Drafts
import SeedVault.Proofs.Key.Decoding
import SeedVault.Proofs.Key.Spellings
import SeedVault.Proofs.Browser.Conversation
import SeedVault.Proofs.Browser.Search
import SeedVault.Proofs.Wallet.Acts
import SeedVault.Proofs.Wallet.Password
import SeedVault.Proofs.Phrase.Completion
import SeedVault.Proofs.Phrase.Typing
import SeedVault.Proofs.Key.Mistyping
import SeedVault.Proofs.Config.Environment
import SeedVault.Proofs.Storage.Confinement
import SeedVault.Proofs.Wallet.WordEntry
import SeedVault.Proofs.Scenario.Waiting
import SeedVault.Proofs.Toml.Order
import SeedVault.Proofs.Config.Overrides
import SeedVault.Proofs.Url.ImpliedPort
import SeedVault.Proofs.Storage.OriginFolder
import SeedVault.Proofs.Text.CodeTable
import SeedVault.Proofs.Text.Decomposition
import SeedVault.Proofs.Text.NormalForm
import SeedVault.Proofs.Key.Passphrase
import SeedVault.Proofs.Bytes.Base64
import SeedVault.Proofs.Bytes.Text
import SeedVault.Proofs.Json.Record
import SeedVault.Proofs.Extension.Unpacked
