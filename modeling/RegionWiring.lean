import RegionWiring.Collection.Published
import RegionWiring.Collection.Report
import RegionWiring.Main
import RegionWiring.Proofs.Enforcement
import RegionWiring.Proofs.HookIsolation
import RegionWiring.Proofs.OverlayOrder
import RegionWiring.Proofs.AddedOverlay
import RegionWiring.Proofs.RegionLists
import RegionWiring.Proofs.JsonText
import RegionWiring.Proofs.SortedCollections
import RegionWiring.Proofs.LocationDocument
import RegionWiring.Proofs.Paths
import RegionWiring.Proofs.FileTrees
import RegionWiring.Proofs.DataAreas
import RegionWiring.Proofs.Restart
import RegionWiring.Proofs.Contributions
import RegionWiring.Proofs.Opening
import RegionWiring.Proofs.Lines
import RegionWiring.Proofs.Escapes
import RegionWiring.Proofs.SourceForms
import RegionWiring.Proofs.RenderedDocuments
import RegionWiring.Proofs.DocumentPieces
import RegionWiring.Proofs.JoinedRegions
import RegionWiring.Proofs.MergedTables
import RegionWiring.Proofs.EntryReading
import RegionWiring.Proofs.LogicalLines
import RegionWiring.Proofs.VersionTexts
import RegionWiring.Proofs.IdentityTexts
import RegionWiring.Proofs.VersionOrder
import RegionWiring.Proofs.Precedence
import RegionWiring.Proofs.RecordForms
import RegionWiring.Proofs.SerializedTables
import RegionWiring.Proofs.ModelForms
import RegionWiring.Proofs.GrowingTrees
import RegionWiring.Proofs.Persisting
import RegionWiring.Proofs.CanonicalDocument
import RegionWiring.Proofs.LayeredSettings
import RegionWiring.Proofs.Checking
import RegionWiring.Proofs.LineNumbers
import RegionWiring.Proofs.EscapeStates
import RegionWiring.Proofs.JoinedEscapes
import RegionWiring.Proofs.Extensionality
