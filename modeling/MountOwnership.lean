import MountOwnership.Backoff
import MountOwnership.Classifier
import MountOwnership.Cluster.Call
import MountOwnership.Cluster.Client
import MountOwnership.Cluster.Error
import MountOwnership.Cluster.Kubeconfig
import MountOwnership.Cluster.Status
import MountOwnership.Cluster.Store
import MountOwnership.CommandLine
import MountOwnership.Controller
import MountOwnership.Dispatcher
import MountOwnership.Error
import MountOwnership.Event
import MountOwnership.Http.Message
import MountOwnership.Http.Target
import MountOwnership.Json.Basic
import MountOwnership.Json.Printer
import MountOwnership.Json.Reader
import MountOwnership.Json.Shape
import MountOwnership.Log.Filter
import MountOwnership.Log.Level
import MountOwnership.Log.Notice
import MountOwnership.Main
import MountOwnership.NamespaceFilter
import MountOwnership.Object.ConfigMap
import MountOwnership.Object.Metadata
import MountOwnership.Object.ReplicaSet
import MountOwnership.Ownership
import MountOwnership.Pass
import MountOwnership.Pattern.Basic
import MountOwnership.Pattern.Node
import MountOwnership.Pattern.Program
import MountOwnership.Pattern.Reader
import MountOwnership.Pattern.Size
import MountOwnership.Pattern.Tree
import MountOwnership.Pattern.Unicode.Age
import MountOwnership.Pattern.Unicode.CaseFolding
import MountOwnership.Pattern.Unicode.GeneralCategory
import MountOwnership.Pattern.Unicode.Lookup
import MountOwnership.Pattern.Unicode.NamedSet
import MountOwnership.Pattern.Unicode.Property
import MountOwnership.Pattern.Unicode.Script
import MountOwnership.Pattern.Unicode.ScriptExtensions
import MountOwnership.Pattern.Unicode.Segmentation
import MountOwnership.Program
import MountOwnership.Proofs.Backoff
import MountOwnership.Proofs.Backoff.Cap
import MountOwnership.Proofs.Backoff.Uses
import MountOwnership.Proofs.Classifier.History
import MountOwnership.Proofs.Classifier.Relists
import MountOwnership.Proofs.Classifier.Starts
import MountOwnership.Proofs.Classifier.Triggers
import MountOwnership.Proofs.Cluster.Agreement
import MountOwnership.Proofs.Cluster.Contents
import MountOwnership.Proofs.Cluster.Copies
import MountOwnership.Proofs.Cluster.Operations
import MountOwnership.Proofs.Cluster.Reachable
import MountOwnership.Proofs.Cluster.Refusals
import MountOwnership.Proofs.Cluster.Store
import MountOwnership.Proofs.CommandLine
import MountOwnership.Proofs.Controller.Backoffs
import MountOwnership.Proofs.Controller.Delays
import MountOwnership.Proofs.Controller.Retries
import MountOwnership.Proofs.Controller.Shutdown
import MountOwnership.Proofs.Crew.Owners
import MountOwnership.Proofs.Crew.Turns
import MountOwnership.Proofs.NamespaceFilter
import MountOwnership.Proofs.Ownership
import MountOwnership.Proofs.Ownership.Enlisting
import MountOwnership.Proofs.Ownership.Records
import MountOwnership.Proofs.Ownership.Updates
import MountOwnership.Proofs.Pass.Abort
import MountOwnership.Proofs.Pass.Cancellation
import MountOwnership.Proofs.Pass.Course
import MountOwnership.Proofs.Pass.DryRun
import MountOwnership.Proofs.Pass.Effect
import MountOwnership.Proofs.Pass.Exchange
import MountOwnership.Proofs.Pass.Isolation
import MountOwnership.Proofs.Pass.Managers
import MountOwnership.Proofs.Pass.OwnerLists
import MountOwnership.Proofs.Pass.Repeat
import MountOwnership.Proofs.Pass.Retry
import MountOwnership.Proofs.Pass.Success
import MountOwnership.Proofs.Pass.Summary
import MountOwnership.Proofs.References
import MountOwnership.Proofs.References.Discovery
import MountOwnership.Proofs.References.Rearrangement
import MountOwnership.Proofs.Settings
import MountOwnership.Proofs.Settings.Resolution
import MountOwnership.Proofs.Settings.Scope
import MountOwnership.Proofs.Table
import MountOwnership.Proofs.Text.Decimal
import MountOwnership.Proofs.Text.Entries
import MountOwnership.Proofs.Text.Splitting
import MountOwnership.Proofs.Time.Calendar
import MountOwnership.Proofs.Time.Order
import MountOwnership.Proofs.Time.Written
import MountOwnership.Proofs.Watermark
import MountOwnership.References
import MountOwnership.Settings
import MountOwnership.Table
import MountOwnership.Text.Blank
import MountOwnership.Text.CharSet
import MountOwnership.Text.Decimal
import MountOwnership.Text.Quoted
import MountOwnership.Text.Similarity
import MountOwnership.Time.Calendar
import MountOwnership.Time.Instant
import MountOwnership.Time.Span
import MountOwnership.Triggers
import MountOwnership.Watch
import MountOwnership.Watermark
import MountOwnership.Yaml.Reader
