import TwoStep.Chain.Call
import TwoStep.Chain.Ledger
import TwoStep.Chain.Node
import TwoStep.Chain.Rpc
import TwoStep.Chain.Session
import TwoStep.Command.Dialogue
import TwoStep.Command.Preparation
import TwoStep.CommandLine.Help
import TwoStep.CommandLine.Parser
import TwoStep.Crypto
import TwoStep.EnvFile
import TwoStep.Fee
import TwoStep.Handoff.Phase
import TwoStep.Handoff.Workflow
import TwoStep.Hex
import TwoStep.Instant
import TwoStep.Json.Parser
import TwoStep.Json.Printer
import TwoStep.Keyring
import TwoStep.Log.Filter
import TwoStep.Log.Record
import TwoStep.Main
import TwoStep.Number
import TwoStep.Process
import TwoStep.Program
import TwoStep.Proofs.Command.Contract
import TwoStep.Proofs.Command.Course
import TwoStep.Proofs.Command.DryRun
import TwoStep.Proofs.Command.Keys
import TwoStep.Proofs.Command.Mistakes
import TwoStep.Proofs.Command.Preparation
import TwoStep.Proofs.Command.Rehearsal
import TwoStep.Proofs.Command.StandardOutput
import TwoStep.Proofs.CommandLine
import TwoStep.Proofs.Directory
import TwoStep.Proofs.EnvFile
import TwoStep.Proofs.Fee.Cut
import TwoStep.Proofs.Fee.Grammar
import TwoStep.Proofs.Fee.Reading
import TwoStep.Proofs.Fee.RoundTrip
import TwoStep.Proofs.Fee.Separators
import TwoStep.Proofs.Handoff.Acceptance
import TwoStep.Proofs.Handoff.Agreement
import TwoStep.Proofs.Handoff.Course
import TwoStep.Proofs.Handoff.Failures
import TwoStep.Proofs.Handoff.Interleaving
import TwoStep.Proofs.Handoff.Outcome
import TwoStep.Proofs.Handoff.Phases
import TwoStep.Proofs.Handoff.Printing
import TwoStep.Proofs.Handoff.Recovery
import TwoStep.Proofs.Handoff.Reports
import TwoStep.Proofs.Handoff.Transactions
import TwoStep.Proofs.Hex
import TwoStep.Proofs.Instant
import TwoStep.Proofs.Json.Documents
import TwoStep.Proofs.Keyring
import TwoStep.Proofs.Ledger.Failures
import TwoStep.Proofs.Ledger.History
import TwoStep.Proofs.Ledger.Numbering
import TwoStep.Proofs.Ledger.Submission
import TwoStep.Proofs.LowerCase
import TwoStep.Proofs.PrivateKey
import TwoStep.Proofs.Rpc.Exchanges
import TwoStep.Proofs.Rpc.Requested
import TwoStep.Proofs.Rpc.Verdicts
import TwoStep.Proofs.Session
import TwoStep.Proofs.Settings.Layers
import TwoStep.Proofs.Settings.Names
import TwoStep.Proofs.Settings.Order
import TwoStep.Proofs.Settings.Places
import TwoStep.Proofs.Settings.RoundTrip
import TwoStep.Proofs.Settings.Variables
import TwoStep.Proofs.Text
import TwoStep.Proofs.Toml.Documents
import TwoStep.Proofs.Toml.Strings
import TwoStep.Proofs.Wire.RoundTrip
import TwoStep.Regex.Basic
import TwoStep.Regex.Parser
import TwoStep.Settings.Basic
import TwoStep.Settings.Decode
import TwoStep.Settings.Load
import TwoStep.Settings.Merge
import TwoStep.Settings.Value
import TwoStep.Text.Alphanumeric
import TwoStep.Text.Basic
import TwoStep.Text.Combining
import TwoStep.Text.LowerCase
import TwoStep.Text.Quoted
import TwoStep.Toml.Basic
import TwoStep.Toml.Parser
import TwoStep.Toml.Scalar
import TwoStep.Url.Basic
import TwoStep.Url.Host
import TwoStep.Url.Name.Composition
import TwoStep.Url.Name.Images.Letters
import TwoStep.Url.Name.Images.Presentation
import TwoStep.Url.Name.Mapping
import TwoStep.Url.Name.Rules
import TwoStep.Wire
