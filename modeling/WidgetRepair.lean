import WidgetRepair.Assist.Script
import WidgetRepair.Main
import WidgetRepair.Runner.StandIn
import WidgetRepair.Proofs.LoopCalls
import WidgetRepair.Proofs.LoopReport
import WidgetRepair.Proofs.LoopConsistency
import WidgetRepair.Proofs.LoopEvents
import WidgetRepair.Proofs.LoopScript
import WidgetRepair.Proofs.DiskTree
import WidgetRepair.Proofs.PathSteps
import WidgetRepair.Proofs.PathWays
import WidgetRepair.Proofs.DiskSteps
import WidgetRepair.Proofs.FirstChange
import WidgetRepair.Proofs.StoreCalls
import WidgetRepair.Proofs.StoreSaving
import WidgetRepair.Proofs.StoreRuns
import WidgetRepair.Proofs.SharedStore
import WidgetRepair.Proofs.KeptLessons
import WidgetRepair.Proofs.EditSteps
import WidgetRepair.Proofs.EditTasks
import WidgetRepair.Proofs.EditRank
import WidgetRepair.Proofs.LiteralPaths
import WidgetRepair.Proofs.OpenWays
import WidgetRepair.Proofs.PackagePlaces
import WidgetRepair.Proofs.PackageRenewal
import WidgetRepair.Proofs.Regeneration
import WidgetRepair.Proofs.PlannedRepair
import WidgetRepair.Proofs.OfflineRepair
import WidgetRepair.Proofs.DeclinedRepair
import WidgetRepair.Proofs.FloatRounding
import WidgetRepair.Proofs.FloatValues
import WidgetRepair.Proofs.PatternScore
import WidgetRepair.Proofs.TextParts
import WidgetRepair.Proofs.ErrorTexts
import WidgetRepair.Proofs.LearnedPatterns
import WidgetRepair.Proofs.KnownErrors
import WidgetRepair.Proofs.PatternTries
import WidgetRepair.Proofs.FloatDifference
import WidgetRepair.Proofs.RetiredPatterns
import WidgetRepair.Proofs.StableRanking
import WidgetRepair.Proofs.ProseNotes
import WidgetRepair.Proofs.ByteLines
import WidgetRepair.Proofs.NoteText
import WidgetRepair.Proofs.KnowledgeLines
import WidgetRepair.Proofs.KnowledgeAppends
import WidgetRepair.Proofs.GlobWays
import WidgetRepair.Proofs.EscapedRoots
import WidgetRepair.Proofs.RepairBounds
import WidgetRepair.Proofs.ObjectScan
import WidgetRepair.Proofs.PlanText
import WidgetRepair.Proofs.StoreReloading
import WidgetRepair.Proofs.DeclarationReading
import WidgetRepair.Proofs.DeclaredTypes
import WidgetRepair.Proofs.DefinitionReading
import WidgetRepair.Proofs.PlannedBounds
import WidgetRepair.Proofs.RepeatedInsertions
import WidgetRepair.Proofs.DeclaredNames
import WidgetRepair.Proofs.ContentsReading
import WidgetRepair.Proofs.Rankings
import WidgetRepair.Proofs.RankShifts
import WidgetRepair.Proofs.ErrorNoise
import WidgetRepair.Proofs.AddedScripts
import WidgetRepair.Proofs.WellFormedWidgets
import WidgetRepair.Proofs.ConfidenceRuns
import WidgetRepair.Proofs.DistinctLessons
import WidgetRepair.Proofs.BraceDepth
import WidgetRepair.Proofs.WidgetText
import WidgetRepair.Proofs.PackageBounds
import WidgetRepair.Proofs.MissingModules
import WidgetRepair.Proofs.ModelReplies
import WidgetRepair.Proofs.KeywordOrder
import WidgetRepair.Proofs.OnePassRendering
import WidgetRepair.Proofs.ArtifactOrder
import WidgetRepair.Proofs.PathParents
import WidgetRepair.Proofs.FolderMaking
import WidgetRepair.Proofs.StoreDiscovery
