import DocQuery.Client.Config
import DocQuery.Client.Executor
import DocQuery.Client.ScriptedServer
import DocQuery.Executor.Recorder
import DocQuery.Session.Workspace
import DocQuery.Settings.ConfigJson
import DocQuery.Proofs.Session.Guards
import DocQuery.Proofs.Session.Isolation
import DocQuery.Proofs.Server.Reading
import DocQuery.Proofs.Session.Paging
import DocQuery.Proofs.Session.Counting
import DocQuery.Proofs.Client.Batches
import DocQuery.Proofs.Key.Canonical
import DocQuery.Proofs.Text.Blank
import DocQuery.Proofs.Session.Intents
import DocQuery.Proofs.Session.Verdicts
import DocQuery.Proofs.Client.Sessions
import DocQuery.Proofs.Session.Answers
import DocQuery.Proofs.Session.Diagnostics
import DocQuery.Proofs.Key.Identifiers
import DocQuery.Proofs.Statement.Options
import DocQuery.Proofs.Session.Batches
import DocQuery.Proofs.Session.Selects
import DocQuery.Proofs.Session.Versions
import DocQuery.Proofs.Session.Presentation
import DocQuery.Proofs.Key.Drawings
import DocQuery.Proofs.Session.Drawings
import DocQuery.Proofs.Session.StoredIdentifiers
import DocQuery.Proofs.Session.Lookups
import DocQuery.Proofs.Settings.ConfigJson
import DocQuery.Proofs.Key.Updates
import DocQuery.Proofs.Key.BriefForm
import DocQuery.Proofs.Session.Assignments
import DocQuery.Proofs.Key.CanonicalForms
import DocQuery.Proofs.Session.SettledFilters
import DocQuery.Proofs.Statement.Pipelines
import DocQuery.Proofs.Statement.Selections
import DocQuery.Proofs.Server.CountLabels
import DocQuery.Proofs.Session.Projections
import DocQuery.Proofs.Server.VersionTexts
import DocQuery.Proofs.Session.Namespaces
import DocQuery.Proofs.Text.Bytes
import DocQuery.Proofs.Calendar
import DocQuery.Proofs.Document.Texts
import DocQuery.Proofs.Session.Columns
import DocQuery.Proofs.Key.Spellings
import DocQuery.Proofs.Settings.PartialConfigs
import DocQuery.Proofs.Statement.Shell
import DocQuery.Proofs.Client.Settings
import DocQuery.Proofs.Client.Layers
import DocQuery.Proofs.Client.Commands
import DocQuery.Proofs.Executor.Deliveries
