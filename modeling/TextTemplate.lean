import TextTemplate.Dependency.Cache
import TextTemplate.Document.Builder
import TextTemplate.Main
import TextTemplate.Proofs.ByteSlices
import TextTemplate.Proofs.Pieces
import TextTemplate.Proofs.ClassLayout
import TextTemplate.Proofs.Lookups
import TextTemplate.Proofs.SourceMap
import TextTemplate.Proofs.Markers
import TextTemplate.Proofs.NodeProblems
import TextTemplate.Proofs.UserCode
import TextTemplate.Proofs.NameSets
import TextTemplate.Proofs.WalkEvents
import TextTemplate.Proofs.CacheRuns
import TextTemplate.Proofs.ChangeLog
import TextTemplate.Proofs.BuiltDocuments
import TextTemplate.Proofs.InverseLookups
import TextTemplate.Proofs.WrittenJson
import TextTemplate.Proofs.FittingDocuments
import TextTemplate.Proofs.SavedDocuments
import TextTemplate.Proofs.SnapshotChanges
import TextTemplate.Proofs.LetterCase
import TextTemplate.Proofs.Placeholders
import TextTemplate.Proofs.GappedTexts
import TextTemplate.Proofs.References
import TextTemplate.Proofs.ExpandedVariables
import TextTemplate.Proofs.ResolvedPlaceholders
import TextTemplate.Proofs.SourceTiling
import TextTemplate.Proofs.ExtractedNames
import TextTemplate.Proofs.MarkerSearch
import TextTemplate.Proofs.DeliveryOrder
import TextTemplate.Proofs.CommandRuns
import TextTemplate.Proofs.DocumentNumbers
import TextTemplate.Proofs.KeptFiles
import TextTemplate.Proofs.SavedSnapshots
import TextTemplate.Proofs.CoveringMappings
import TextTemplate.Proofs.LookupBounds
import TextTemplate.Proofs.ProblemPlaces
import TextTemplate.Proofs.ProblemSpans
import TextTemplate.Proofs.ProblemOrder
import TextTemplate.Proofs.QuickFixes
import TextTemplate.Proofs.NamespaceShift
import TextTemplate.Proofs.FlatDocuments
import TextTemplate.Proofs.ClassHeader
import TextTemplate.Proofs.HostProperty
import TextTemplate.Proofs.FoldedSets
import TextTemplate.Proofs.CallTrees
import TextTemplate.Proofs.TextActions
import TextTemplate.Proofs.IncludeStack
import TextTemplate.Proofs.ListedPlaces
