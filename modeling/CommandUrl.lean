import CommandUrl.Host.Catalogue
import CommandUrl.Interpreter
import CommandUrl.SettingsFile
import CommandUrl.Proofs.Dialogue.Protocol
import CommandUrl.Proofs.Locator.Lookups
import CommandUrl.Proofs.Verb.Handling
import CommandUrl.Proofs.Verb.Refusal
import CommandUrl.Proofs.Verb.Standing
import CommandUrl.Proofs.Acceptance
import CommandUrl.Proofs.Verb.Guidance
import CommandUrl.Proofs.Verb.Tolerance
import CommandUrl.Proofs.Text.Percent
import CommandUrl.Proofs.Text.Split
import CommandUrl.Proofs.Address.Ordinary
import CommandUrl.Proofs.Command
import CommandUrl.Proofs.Verb.Progress
import CommandUrl.Proofs.Verb.Turn
import CommandUrl.Proofs.File.Beside
import CommandUrl.Proofs.Verb.Effect
import CommandUrl.Proofs.Verb.Commit
import CommandUrl.Proofs.Address.Escaped
import CommandUrl.Proofs.Retry
import CommandUrl.Proofs.Json.Spelling
import CommandUrl.Proofs.Json.Pretty
import CommandUrl.Proofs.File.Writing
import CommandUrl.Proofs.SettingsFile
import CommandUrl.Proofs.Verb.Launch
import CommandUrl.Proofs.Report
import CommandUrl.Proofs.Note.Content
import CommandUrl.Proofs.Verb.Content
import CommandUrl.Proofs.Json.Number
import CommandUrl.Proofs.Json.Grammar
import CommandUrl.Proofs.Json.Record
import CommandUrl.Proofs.Records
import CommandUrl.Proofs.SettingsFile.Amendment
import CommandUrl.Proofs.File.Storing
import CommandUrl.Proofs.SettingsFile.Change
import CommandUrl.Proofs.File.Path
import CommandUrl.Proofs.File.Rewriting
import CommandUrl.Proofs.SettingsFile.Repair
import CommandUrl.Proofs.Text.CommonForm
import CommandUrl.Proofs.Verb.Label
import CommandUrl.Proofs.Command.Scheme
import CommandUrl.Proofs.Locator.Sources
import CommandUrl.Proofs.Note.Editing
import CommandUrl.Proofs.Verb.Accumulation
import CommandUrl.Proofs.Text.Letters
import CommandUrl.Proofs.Text.FinalSigma
import CommandUrl.Proofs.File.Folder
import CommandUrl.Proofs.File.Components
import CommandUrl.Proofs.Verb.Run
import CommandUrl.Proofs.Verb.NotePath
import CommandUrl.Proofs.Verb.Reveal
import CommandUrl.Proofs.Links
import CommandUrl.Proofs.Text.Lowering
import CommandUrl.Proofs.Verb.Identifier
import CommandUrl.Proofs.Query.Pieces
import CommandUrl.Proofs.Address.Decorated
import CommandUrl.Proofs.Command.Decorated
import CommandUrl.Proofs.Text.Passes
import CommandUrl.Proofs.Link.NormalForm
import CommandUrl.Proofs.Host.Windows
