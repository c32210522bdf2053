import TransitDwell.AgedStore
import TransitDwell.Attempt
import TransitDwell.Config
import TransitDwell.Correlation
import TransitDwell.DaysBack
import TransitDwell.Estimate.Boarding
import TransitDwell.Estimate.Filter
import TransitDwell.EventStore
import TransitDwell.Keyed
import TransitDwell.Lookup
import TransitDwell.Main
import TransitDwell.Metrics
import TransitDwell.PassengerHistory
import TransitDwell.Predictor
import TransitDwell.Proofs.ArrivalOrder
import TransitDwell.Proofs.AttemptRun
import TransitDwell.Proofs.BatchCuts
import TransitDwell.Proofs.BatchWindow
import TransitDwell.Proofs.BoardingBounds
import TransitDwell.Proofs.BucketTiling
import TransitDwell.Proofs.Buckets
import TransitDwell.Proofs.Calendar
import TransitDwell.Proofs.Completion
import TransitDwell.Proofs.ContextMemory
import TransitDwell.Proofs.DailySums
import TransitDwell.Proofs.DayRetention
import TransitDwell.Proofs.DoorReach
import TransitDwell.Proofs.DwellSigns
import TransitDwell.Proofs.EarlierDays
import TransitDwell.Proofs.EventLog
import TransitDwell.Proofs.EventOrder
import TransitDwell.Proofs.FailedLookups
import TransitDwell.Proofs.FilterBounds
import TransitDwell.Proofs.FilterForgetting
import TransitDwell.Proofs.FilterRuns
import TransitDwell.Proofs.FilterWeights
import TransitDwell.Proofs.GatheredDays
import TransitDwell.Proofs.HeadwayLimit
import TransitDwell.Proofs.HistoryRun
import TransitDwell.Proofs.HistorySweep
import TransitDwell.Proofs.InvisibleSweeps
import TransitDwell.Proofs.JoinOrder
import TransitDwell.Proofs.LatestArrival
import TransitDwell.Proofs.LocalNoon
import TransitDwell.Proofs.MeanVisit
import TransitDwell.Proofs.NamelessCounts
import TransitDwell.Proofs.NearestEvent
import TransitDwell.Proofs.PassengerGrowth
import TransitDwell.Proofs.RangeSnapshot
import TransitDwell.Proofs.RateLookback
import TransitDwell.Proofs.ReplayClock
import TransitDwell.Proofs.Run
import TransitDwell.Proofs.ServiceRun
import TransitDwell.Proofs.SharedDepartures
import TransitDwell.Proofs.Snapshot
import TransitDwell.Proofs.StageMetrics
import TransitDwell.Proofs.StandingClock
import TransitDwell.Proofs.StopHistory
import TransitDwell.Proofs.StreamIndependence
import TransitDwell.Record
import TransitDwell.Record.Csv
import TransitDwell.Record.Json
import TransitDwell.Replay
import TransitDwell.Scalar
import TransitDwell.Service
import TransitDwell.Settings.ConfigText
import TransitDwell.Settings.Lexeme
import TransitDwell.Settings.Value
import TransitDwell.Text.Csv
import TransitDwell.Text.Decimal
import TransitDwell.Text.Json
import TransitDwell.Text.WordChar
import TransitDwell.Time.Bucket
import TransitDwell.Time.CivilDate
import TransitDwell.Time.YearlyChange
import TransitDwell.Time.Zone
import TransitDwell.Time.ZoneData.Africa
import TransitDwell.Time.ZoneData.Aliases
import TransitDwell.Time.ZoneData.Asia
import TransitDwell.Time.ZoneData.Europe
import TransitDwell.Time.ZoneData.NorthAmerica
import TransitDwell.Time.ZoneData.Oceans
import TransitDwell.Time.ZoneData.SouthAmerica
import TransitDwell.Time.ZoneEra
import TransitDwell.Time.ZoneTable
import TransitDwell.Time.ZoneText
