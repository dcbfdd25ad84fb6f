import LayerNet.Text.Lines
import LayerNet.Text.Quoted
import LayerNet.Text.Utf8
import LayerNet.Decimal.Layout
import LayerNet.Decimal.Reader
import LayerNet.Json.Printer
import LayerNet.Json.Parser
import LayerNet.Digest.Blake3
import LayerNet.Storage.Path
import LayerNet.Storage.FileSystem
import LayerNet.Bridge
import LayerNet.Program
import LayerNet.Tensor.ElementType
import LayerNet.Network.Assembly
import LayerNet.Network.History
import LayerNet.Training.Optimizer
import LayerNet.Training.Loss
import LayerNet.Training.Script
import LayerNet.Training.Compilation
import LayerNet.SavedGraph.Reader
import LayerNet.SavedGraph.Loader
import LayerNet.Reconstruction.Session
import LayerNet.Settings.Discovery
import LayerNet.CommandLine.Commands
import LayerNet.Shell.Program
import LayerNet.CommandLine.Answer
import LayerNet.Main
import LayerNet.Proofs.Distinct
import LayerNet.Proofs.Outcome
import LayerNet.Proofs.Table
import LayerNet.Proofs.Text.LastLine
import LayerNet.Proofs.Text.Lines
import LayerNet.Proofs.Text.Search
import LayerNet.Proofs.Text.Trimming
import LayerNet.Proofs.Text.Quoted
import LayerNet.Proofs.Decimal.Rounding
import LayerNet.Proofs.Decimal.Numerals
import LayerNet.Proofs.Decimal.Overflow
import LayerNet.Proofs.Json.Compact
import LayerNet.Proofs.Json.Grammar
import LayerNet.Proofs.Json.Pieces
import LayerNet.Proofs.Json.Numbers
import LayerNet.Proofs.Json.Reading
import LayerNet.Proofs.Json.Scanning
import LayerNet.Proofs.Json.Skipping
import LayerNet.Proofs.Storage.Changes
import LayerNet.Proofs.Storage.Places
import LayerNet.Proofs.Storage.Ancestors
import LayerNet.Proofs.Program
import LayerNet.Proofs.Naming.Fresh
import LayerNet.Proofs.Naming.Sharing
import LayerNet.Proofs.Layer.Parameters
import LayerNet.Proofs.Layer.Parts
import LayerNet.Proofs.Layer.Record
import LayerNet.Proofs.Layer.Sizes
import LayerNet.Proofs.Network.WellFormed
import LayerNet.Proofs.Network.Failures
import LayerNet.Proofs.Network.SharedRegistry
import LayerNet.Proofs.Network.Upstream
import LayerNet.Proofs.Network.FreshNames
import LayerNet.Proofs.Network.WalkInvariant
import LayerNet.Proofs.Network.Order
import LayerNet.Proofs.Network.Assembly
import LayerNet.Proofs.Network.Copies
import LayerNet.Proofs.Network.Document
import LayerNet.Proofs.Network.Forward
import LayerNet.Proofs.Network.PostOrder
import LayerNet.Proofs.Network.Sizes
import LayerNet.Proofs.Network.Chains
import LayerNet.Proofs.Network.InputShapes
import LayerNet.Proofs.Training.Blocks
import LayerNet.Proofs.Training.Compilation
import LayerNet.Proofs.Training.Fingerprint
import LayerNet.Proofs.Training.Renderings
import LayerNet.Proofs.Training.CustomSources
import LayerNet.Proofs.Training.ModelInputs
import LayerNet.Proofs.Training.SavedModels
import LayerNet.Proofs.Training.Attempts
import LayerNet.Proofs.Training.Seams
import LayerNet.Proofs.SavedGraph.Writing
import LayerNet.Proofs.SavedGraph.Reading
import LayerNet.Proofs.SavedGraph.Loading
import LayerNet.Proofs.Reconstruction.Course
import LayerNet.Proofs.Reconstruction.Identifier
import LayerNet.Proofs.Reconstruction.Statement
import LayerNet.Proofs.Reconstruction.Coherent
import LayerNet.Proofs.Reconstruction.Filling
import LayerNet.Proofs.Reconstruction.Invariant
import LayerNet.Proofs.Reconstruction.Lists
import LayerNet.Proofs.Reconstruction.Functions
import LayerNet.Proofs.Reconstruction.Recursion
import LayerNet.Proofs.Reconstruction.Variables
import LayerNet.Proofs.Reconstruction.Declarations
import LayerNet.Proofs.Reconstruction.InternalCalls
import LayerNet.Proofs.Reconstruction.Placeholders
import LayerNet.Proofs.Reconstruction.ReadBack
import LayerNet.Proofs.Reconstruction.Rearrangement
import LayerNet.Proofs.Reconstruction.References
import LayerNet.Proofs.Reconstruction.Keywords
import LayerNet.Proofs.Settings.Keys
import LayerNet.Proofs.Settings.Lines
import LayerNet.Proofs.Settings.BadLines
import LayerNet.Proofs.Settings.LastValues
import LayerNet.Proofs.Settings.Discovery
import LayerNet.Proofs.Settings.LearningRate
import LayerNet.Proofs.Settings.Listing
import LayerNet.Proofs.CommandLine.Configuration
import LayerNet.Proofs.CommandLine.Answers
