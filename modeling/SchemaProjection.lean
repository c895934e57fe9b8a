import SchemaProjection.Text.Quoted
import SchemaProjection.Text.UpperCase
import SchemaProjection.TypeExpr.Parser
import SchemaProjection.Number.Shortest
import SchemaProjection.Json.Value
import SchemaProjection.Json.Partial
import SchemaProjection.Format.Json
import SchemaProjection.Checksum
import SchemaProjection.Declaration.Format
import SchemaProjection.Model.Ancestry
import SchemaProjection.Compilation
import SchemaProjection.Schema.Graph.Dot
import SchemaProjection.Toml.Document
import SchemaProjection.Model.Bundle
import SchemaProjection.Settings.Layer
import SchemaProjection.Settings.Saved
import SchemaProjection.Command.Run
import SchemaProjection.Main
import SchemaProjection.Proofs.Reachability
import SchemaProjection.Proofs.Inheritance
import SchemaProjection.Proofs.MethodMatch
import SchemaProjection.Proofs.Navigation
import SchemaProjection.Proofs.ViewCompilation
import SchemaProjection.Proofs.Simulation
import SchemaProjection.Proofs.Independence
import SchemaProjection.Proofs.ExtraScalars
import SchemaProjection.Proofs.Findings
import SchemaProjection.Proofs.Accounting
import SchemaProjection.Proofs.Resolution
import SchemaProjection.Proofs.TypeGrammar
import SchemaProjection.Proofs.TypeText
import SchemaProjection.Proofs.Walks
import SchemaProjection.Proofs.WalkedPaths
import SchemaProjection.Proofs.Cycles
import SchemaProjection.Proofs.Amendment
import SchemaProjection.Proofs.AddedMethod
import SchemaProjection.Proofs.Scores
import SchemaProjection.Proofs.Suggestions
import SchemaProjection.Proofs.Unstored
import SchemaProjection.Proofs.Insertion
import SchemaProjection.Proofs.TreeWalk
import SchemaProjection.Proofs.Bundle
import SchemaProjection.Proofs.JsonText
import SchemaProjection.Proofs.Lossless
import SchemaProjection.Proofs.StoredValues
import SchemaProjection.Proofs.PathComposition
import SchemaProjection.Proofs.MethodChoice
import SchemaProjection.Proofs.FieldFailures
import SchemaProjection.Proofs.JsonTokens
import SchemaProjection.Proofs.JsonGrammar
import SchemaProjection.Proofs.TomlStart
import SchemaProjection.Proofs.DocumentBoundary
import SchemaProjection.Proofs.BundleChecksum
import SchemaProjection.Proofs.TypeFaults
import SchemaProjection.Proofs.DiscoveryRuns
import SchemaProjection.Proofs.BreadthFirst
import SchemaProjection.Proofs.FieldInheritance
import SchemaProjection.Proofs.MethodRejections
import SchemaProjection.Proofs.Replacement
import SchemaProjection.Proofs.ParameterNames
import SchemaProjection.Proofs.DrawnGraph
import SchemaProjection.Proofs.RegistryGrowth
import SchemaProjection.Proofs.FirstInsertion
import SchemaProjection.Proofs.FieldEdges
import SchemaProjection.Proofs.RepairedPaths
import SchemaProjection.Proofs.ModelChanges
import SchemaProjection.Proofs.RecordParts
import SchemaProjection.Proofs.FieldExclusion
import SchemaProjection.Proofs.DroppedViews
import SchemaProjection.Proofs.JsonPretty
import SchemaProjection.Proofs.JsonAddress
import SchemaProjection.Proofs.WrittenFile
import SchemaProjection.Proofs.Report
import SchemaProjection.Proofs.SupertypeChains
import SchemaProjection.Proofs.ReportOrder
import SchemaProjection.Proofs.SettingLayers
import SchemaProjection.Proofs.SettingOverride
import SchemaProjection.Proofs.SavedText
import SchemaProjection.Proofs.SavedValues
import SchemaProjection.Proofs.SavedSettings
import SchemaProjection.Proofs.PartwiseDigest
import SchemaProjection.Proofs.ShortChecksum
