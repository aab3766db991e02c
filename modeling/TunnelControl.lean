import TunnelControl.Address.Ip
import TunnelControl.Address.Network
import TunnelControl.AppConfig.Basic
import TunnelControl.AppConfig.Toml.Document
import TunnelControl.AppConfig.Toml.Scalar
import TunnelControl.AppConfig.Toml.Table
import TunnelControl.AppConfig.Toml.Text
import TunnelControl.AppConfig.Value
import TunnelControl.AppConfig.Variable
import TunnelControl.CommandLine.Command
import TunnelControl.CommandLine.Completion
import TunnelControl.CommandLine.Failure
import TunnelControl.CommandLine.Grammar
import TunnelControl.CommandLine.Reader
import TunnelControl.CommandLine.Run
import TunnelControl.Connection.Config
import TunnelControl.Connection.Problem
import TunnelControl.Connection.Validate
import TunnelControl.Decimal.Binary64
import TunnelControl.Decimal.Shortest
import TunnelControl.Duration.Basic
import TunnelControl.Duration.Reader
import TunnelControl.Engine.Call
import TunnelControl.Engine.Callback
import TunnelControl.Engine.Error
import TunnelControl.Entries
import TunnelControl.Json.Codec
import TunnelControl.Json.Generic
import TunnelControl.Json.ReadError
import TunnelControl.Json.Record
import TunnelControl.Json.Scan
import TunnelControl.Json.Value
import TunnelControl.Main
import TunnelControl.Peer.Order
import TunnelControl.Provision.Plan
import TunnelControl.Provision.Provisioner
import TunnelControl.Provision.Spec
import TunnelControl.Session.Coordinator
import TunnelControl.Session.Delivery
import TunnelControl.Session.Rehearsal
import TunnelControl.Session.Tunnel
import TunnelControl.Session.Watching
import TunnelControl.Session.Views
import TunnelControl.Settings.Basic
import TunnelControl.Settings.Edit
import TunnelControl.Settings.LogLevel
import TunnelControl.Storage.Calls
import TunnelControl.Storage.Error
import TunnelControl.Storage.FileStore
import TunnelControl.Storage.FileTree
import TunnelControl.Storage.Keyring
import TunnelControl.Storage.Machine
import TunnelControl.Storage.Path
import TunnelControl.Storage.SecretStore
import TunnelControl.Storage.SettingsStore
import TunnelControl.Storage.Storing
import TunnelControl.Text.Blank
import TunnelControl.Text.Numeral
import TunnelControl.Text.Parts
import TunnelControl.Text.Quoted
import TunnelControl.Text.Scan
import TunnelControl.Text.Unprintable
import TunnelControl.View.Channel
import TunnelControl.Wire.Peer
import TunnelControl.Wire.Request
import TunnelControl.Wire.Status
import TunnelControl.Proofs.Session.Steps
import TunnelControl.Proofs.Session.Polling
import TunnelControl.Proofs.Session.PullPeriod
import TunnelControl.Proofs.Session.Termination
import TunnelControl.Proofs.Provision.Steps
import TunnelControl.Proofs.Provision.Claims
import TunnelControl.Proofs.Entries.Order
import TunnelControl.Proofs.Json.Words
import TunnelControl.Proofs.Json.Layout
import TunnelControl.Proofs.Json.Lawful
import TunnelControl.Proofs.Json.Record
import TunnelControl.Proofs.Json.Tree
import TunnelControl.Proofs.Json.Strings
import TunnelControl.Proofs.Json.Numbers
import TunnelControl.Proofs.Json.Skipping
import TunnelControl.Proofs.Json.Table
import TunnelControl.Proofs.Json.Uniform
import TunnelControl.Proofs.Json.Sequences
import TunnelControl.Proofs.Json.Members
import TunnelControl.Proofs.Json.Change
import TunnelControl.Proofs.Duration.EngineText
import TunnelControl.Proofs.Text.Trim
import TunnelControl.Proofs.Wire.RoundTrip
import TunnelControl.Proofs.Wire.Evolution
import TunnelControl.Proofs.Connection.Sound
import TunnelControl.Proofs.Session.Calls
import TunnelControl.Proofs.Session.Requests
import TunnelControl.Proofs.Session.Delivery
import TunnelControl.Proofs.Session.PollLoops
import TunnelControl.Proofs.View.Changes
import TunnelControl.Proofs.Session.Lifecycle
import TunnelControl.Proofs.Session.Turns
import TunnelControl.Proofs.Session.ActiveConfig
import TunnelControl.Proofs.Provision.Jobs
import TunnelControl.Proofs.Tunnel.Runs
import TunnelControl.Proofs.Tunnel.Staleness
import TunnelControl.Proofs.Tunnel.Handles
import TunnelControl.Proofs.Storage.Keeping
import TunnelControl.Proofs.Storage.Memory
import TunnelControl.Proofs.Storage.FileTree
import TunnelControl.Proofs.Storage.Writing
import TunnelControl.Proofs.Storage.FileStore
import TunnelControl.Proofs.Storage.Keyring
import TunnelControl.Proofs.Storage.FiniteMaps
import TunnelControl.Proofs.Storage.KeyringIndex
import TunnelControl.Proofs.Storage.SettingsHistory
import TunnelControl.Storage.Sharing
import TunnelControl.Proofs.Storage.Sharing
import TunnelControl.Proofs.Peer.Canonical
import TunnelControl.Proofs.Peer.Stability
import TunnelControl.Proofs.View.Snapshots
import TunnelControl.Proofs.View.Watching
import TunnelControl.Proofs.View.Agreement
import TunnelControl.Proofs.Connection.Verdict
import TunnelControl.Proofs.Session.PullSchedule
import TunnelControl.Proofs.Session.Timetable
import TunnelControl.Proofs.Session.Answers
import TunnelControl.Proofs.Session.Rehearsal
import TunnelControl.Proofs.Outcomes
import TunnelControl.Proofs.Connection.NormalForm
import TunnelControl.Proofs.Duration.ReadBack
import TunnelControl.Proofs.Connection.PingTimes
import TunnelControl.Proofs.Text.Parts
import TunnelControl.Proofs.Address.Ipv4
import TunnelControl.Proofs.Address.Ipv6
import TunnelControl.Proofs.Address.Network
import TunnelControl.Proofs.Address.Spelling
import TunnelControl.Proofs.Address.Cidr
import TunnelControl.Proofs.Address.PrefixSets
import TunnelControl.Proofs.Provision.Plan
import TunnelControl.Proofs.Provision.Descriptions
import TunnelControl.Proofs.Provision.Ownership
import TunnelControl.Proofs.Tunnel.Ownership
import TunnelControl.Provision.Asking
import TunnelControl.Proofs.Provision.Atomicity
import TunnelControl.Provision.Reception
import TunnelControl.Proofs.Provision.Slot
import TunnelControl.Proofs.Settings.Edit
import TunnelControl.Proofs.Storage.Saving
import TunnelControl.Proofs.Settings.Tidy
import TunnelControl.Proofs.CommandLine.Runs
import TunnelControl.Proofs.CommandLine.Frame
import TunnelControl.Proofs.CommandLine.Tidiness
import TunnelControl.Proofs.CommandLine.Secrecy
import TunnelControl.Session.Closing
import TunnelControl.Session.Owners
import TunnelControl.Proofs.Session.Rest
import TunnelControl.Proofs.Session.Closing
import TunnelControl.Proofs.Session.Waiting
import TunnelControl.Proofs.Session.Owners
import TunnelControl.Proofs.Tunnel.Refusals
import TunnelControl.Storage.Interruption
import TunnelControl.Proofs.Storage.Interruption
import TunnelControl.Proofs.Json.Generic
import TunnelControl.Proofs.CommandLine.Rendering
