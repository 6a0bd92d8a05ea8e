import MediaPipeline.Graph.Presets
import MediaPipeline.Graph.Workspace
import MediaPipeline.Graph.Inspection
import MediaPipeline.Probe.Report
import MediaPipeline.Probe.Document
import MediaPipeline.Probe.Config
import MediaPipeline.Failure
import MediaPipeline.Yaml.Config
import MediaPipeline.Shell.Reader
import MediaPipeline.Process.Host
import MediaPipeline.Probe.Run
import MediaPipeline.Proofs.CommandLine.Clauses
import MediaPipeline.Proofs.CommandLine.Groups
import MediaPipeline.Proofs.CommandLine.Words
import MediaPipeline.Proofs.CommandLine.Arguments
import MediaPipeline.Proofs.CommandLine.Reading
import MediaPipeline.Proofs.CommandLine.Parts
import MediaPipeline.Proofs.Workspace.Lineage
import MediaPipeline.Proofs.Workspace.Handles
import MediaPipeline.Proofs.Workspace.WellFormed
import MediaPipeline.Proofs.Pipeline.Labels
import MediaPipeline.Proofs.Workspace.Pads
import MediaPipeline.Proofs.Workspace.Lives
import MediaPipeline.Proofs.Workspace.Independence
import MediaPipeline.Proofs.Workspace.Freshness
import MediaPipeline.Proofs.Pipeline.Order
import MediaPipeline.Proofs.Pipeline.Inspection
import MediaPipeline.Proofs.Pipeline.Outcomes
import MediaPipeline.Proofs.Text.Utf8
import MediaPipeline.Proofs.Pipeline.Running
import MediaPipeline.Proofs.Json.Reading
import MediaPipeline.Proofs.Probe.Documents
import MediaPipeline.Proofs.Json.Rendering
import MediaPipeline.Proofs.Json.Rearranging
import MediaPipeline.Proofs.Probe.Reports
import MediaPipeline.Proofs.Random.Sampling
import MediaPipeline.Proofs.Label.Letters
import MediaPipeline.Proofs.Json.Fields
import MediaPipeline.Proofs.Json.Derivation
import MediaPipeline.Proofs.Json.Acceptance
import MediaPipeline.Proofs.Decimal.Counting
import MediaPipeline.Proofs.Probe.Texts
import MediaPipeline.Proofs.Probe.Replacing
import MediaPipeline.Proofs.Probe.Counts
import MediaPipeline.Proofs.Probe.Streams
import MediaPipeline.Proofs.Float.Rounding
import MediaPipeline.Proofs.Float.Range
import MediaPipeline.Proofs.Decimal.Numerals
import MediaPipeline.Proofs.Probe.Numbers
import MediaPipeline.Proofs.Workspace.References
