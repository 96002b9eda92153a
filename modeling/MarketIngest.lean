import MarketIngest.OrderedMap
import MarketIngest.Runs
import MarketIngest.Fallible
import MarketIngest.ReferenceStore
import MarketIngest.OrderedScan
import MarketIngest.Canonical
import MarketIngest.NumberFormat
import MarketIngest.Saturating
import MarketIngest.Text
import MarketIngest.Calendar
import MarketIngest.Checks
import MarketIngest.NormalizeArgs
import MarketIngest.ModeDecision
import MarketIngest.WatermarkLaw
import MarketIngest.ReadRange
import MarketIngest.ObjectKeys
import MarketIngest.S3Bucket
import MarketIngest.IndexPointer
import MarketIngest.PointerDiscovery
import MarketIngest.FrontierExactness
import MarketIngest.Admissibility
import MarketIngest.PointerHistory
import MarketIngest.BootstrapMarker
import MarketIngest.PartialPublication
import MarketIngest.DrainWorker
import MarketIngest.BlockedWindows
import MarketIngest.BacklogCoverage
import MarketIngest.CappedProgress
import MarketIngest.SliceRow
import MarketIngest.UniverseRollup
import MarketIngest.UniverseSnapshot
import MarketIngest.UniverseRanking
import MarketIngest.RollupPublication
import MarketIngest.NativeSymbols
import MarketIngest.RollupMergeOrder
import MarketIngest.RollupCoverage
import MarketIngest.Payload
import MarketIngest.BuildAccumulator
import MarketIngest.SliceQuality
import MarketIngest.HealthOrder
import MarketIngest.EventContribution
import MarketIngest.SeededSlices
import MarketIngest.BuildSummary
import MarketIngest.FinishedSlice
import MarketIngest.RowAccounting
import MarketIngest.DownloadOrder
import MarketIngest.RunRecords
import MarketIngest.ReadPlan
import MarketIngest.L1Store
import MarketIngest.PublishedObjects
import MarketIngest.PublicationRefinement
import MarketIngest.Retention
import MarketIngest.L0Records
import MarketIngest.L0Sink
import MarketIngest.SinkAccounting
import MarketIngest.SinkConservation
import MarketIngest.SinkUploads
import MarketIngest.Backfill
import MarketIngest.BootstrapNormalize
import MarketIngest.BootstrapScheduler
import MarketIngest.SegmentPath
import MarketIngest.TextSearch
import MarketIngest.L0Keys
import MarketIngest.InputKeys
import MarketIngest.RunSelection
import MarketIngest.LiveSelection
import MarketIngest.InputEntries
import MarketIngest.InputDiscovery
import MarketIngest.ColumnBatch
import MarketIngest.L0Columns
import MarketIngest.ColumnDecode
import MarketIngest.WrittenObjects
import MarketIngest.ProducerRuns
import MarketIngest.CappedLog
import MarketIngest.PagedTape
import MarketIngest.MergedSources
import MarketIngest.BackfillPages
import MarketIngest.SliceTrades
import MarketIngest.BackfilledTrades
import MarketIngest.AdjacentChunks
import MarketIngest.ObjectFlushes
import MarketIngest.FiledFlushes
import MarketIngest.ImmutableObjects
import MarketIngest.ProjectionSlices
import MarketIngest.Tiling
import MarketIngest.BootstrapTiling
import MarketIngest.SubchunkAdmission
import MarketIngest.WatchStats
import MarketIngest.ReconnectGaps
import MarketIngest.FinalGapAlerts
import MarketIngest.ComparedMap
import MarketIngest.Truncation
import MarketIngest.MachineInteger
import MarketIngest.FixedDecimal
import MarketIngest.DecimalArithmetic
import MarketIngest.DecimalOrder
import MarketIngest.DecimalText
import MarketIngest.BasisPoints
import MarketIngest.DepthBook
import MarketIngest.DepthReplay
import MarketIngest.DepthSync
import MarketIngest.SyncedBooks
import MarketIngest.SnapshotRetries
import MarketIngest.DepthLedger
import MarketIngest.TimeGroups
import MarketIngest.FeatureDeltas
import MarketIngest.RegimeContexts
import MarketIngest.PointInTime
import MarketIngest.L1Audit
import MarketIngest.SpoolTree
import MarketIngest.Eviction
import MarketIngest.Orphans
import MarketIngest.SpoolSafety
import MarketIngest.SpoolRuns
import MarketIngest.TaggedCell
import MarketIngest.PointerPuts
import MarketIngest.RetentionPlan
import MarketIngest.KeyedHistory
import MarketIngest.GapDetection
import MarketIngest.ReconnectBackoff
import MarketIngest.Cursors
import MarketIngest.FallibleParts
import MarketIngest.BackfillRequests
import MarketIngest.TapeEnds
import MarketIngest.BackfillCompleteness
import MarketIngest.UpbitBackfill
import MarketIngest.BackfillTermination
import MarketIngest.LastValues
import MarketIngest.SpecialNumbers
import MarketIngest.FiniteValues
import MarketIngest.DeltaIds
import MarketIngest.DeltaSummary
import MarketIngest.Rfc3339
import MarketIngest.OldestHour
import MarketIngest.Numerals
import MarketIngest.TextLists
import MarketIngest.CommandLine
import MarketIngest.ArgumentValues
import MarketIngest.NormalizeCommandLine
import MarketIngest.BackfillCommandLine
import MarketIngest.RealtimeArgs
import MarketIngest.SupervisorCommandLine
import MarketIngest.WorkerArgs
import MarketIngest.BackfillWorkerArgs
import MarketIngest.RealtimeWorkerArgs
import MarketIngest.ProcessTable
import MarketIngest.SupervisorRun
import MarketIngest.SupervisorProcesses
import MarketIngest.RunHistory
import MarketIngest.SupervisorPhases
import MarketIngest.BootstrapOrder
import MarketIngest.SinkRuns
import MarketIngest.WireJson
import MarketIngest.BinanceEvents
import MarketIngest.UpbitEvents
import MarketIngest.UpbitStats
import MarketIngest.StorageReport
import MarketIngest.LiveWorker
import MarketIngest.LiveRuns
import MarketIngest.LiveUploads
import MarketIngest.LiveHealth
import MarketIngest.LiveSmoke
import MarketIngest.UpbitWorker
import MarketIngest.RestSnapshots
import MarketIngest.BinanceWorker
import MarketIngest.FoldCounts
import MarketIngest.LiveAccounts
import MarketIngest.LiveCounters
import MarketIngest.UpbitAccounts
import MarketIngest.UpbitGapAlerts
import MarketIngest.BinanceAccounts
import MarketIngest.LiveTicks
