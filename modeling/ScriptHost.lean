import ScriptHost.Loader.Session
import ScriptHost.Embedder.Step
import ScriptHost.Main
import ScriptHost.Json.Reader
import ScriptHost.Proofs.Catalog
import ScriptHost.Proofs.Validation
import ScriptHost.Proofs.Path.Spelling
import ScriptHost.Proofs.Likeness
import ScriptHost.Proofs.Toml.Reader
import ScriptHost.Proofs.Toml.Keys
import ScriptHost.Proofs.Manifest.Reading
import ScriptHost.Proofs.Json.Reading
import ScriptHost.Proofs.Report
import ScriptHost.Proofs.Module.Machine
import ScriptHost.Proofs.Module.Opening
import ScriptHost.Proofs.Module.Life
import ScriptHost.Proofs.Module.Records
import ScriptHost.Proofs.Module.Custody
import ScriptHost.Proofs.Loader.Holders
import ScriptHost.Proofs.Loader.Session
import ScriptHost.Proofs.Embedder.Consistency
import ScriptHost.Proofs.Embedder.Lifetime
import ScriptHost.Proofs.Embedder.Milestones
import ScriptHost.Proofs.Embedder.Caching
import ScriptHost.Proofs.Embedder.Release
import ScriptHost.Proofs.Embedder.Snapshot
import ScriptHost.Proofs.Embedder.Renewal
import ScriptHost.Proofs.Embedder.Likeness
import ScriptHost.Proofs.Embedder.Frame
import ScriptHost.Proofs.Embedder.Reapplication
import ScriptHost.Proofs.Embedder.Balance
import ScriptHost.Proofs.Embedder.Replacement
import ScriptHost.Proofs.Embedder.Editing
import ScriptHost.Proofs.Embedder.Reports
import ScriptHost.Proofs.Embedder.Unobserved
import ScriptHost.Proofs.Embedder.Isolation
import ScriptHost.Proofs.Embedder.Printing
import ScriptHost.Proofs.Echo.Course
import ScriptHost.Proofs.Echo.Joining
import ScriptHost.Proofs.Command.Arguments
import ScriptHost.Proofs.Command.Settings
import ScriptHost.Proofs.Command.Checking
import ScriptHost.Proofs.Precedence
import ScriptHost.Proofs.Echo.Tokens
import ScriptHost.Proofs.Echo.Variables
import ScriptHost.Proofs.Loader.Calls
import ScriptHost.Proofs.Echo.Layout
import ScriptHost.Proofs.Echo.ExitCodes
import ScriptHost.Proofs.Text.Utf8
import ScriptHost.Proofs.Path.Library
import ScriptHost.Proofs.Path.Respelling
import ScriptHost.Proofs.Embedder.Spelling
import ScriptHost.Proofs.Manifest.Resolution
import ScriptHost.Proofs.Command.Listing
import ScriptHost.Proofs.Configuration.History
