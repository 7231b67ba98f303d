import ImageFreshness.Cache.Basic
import ImageFreshness.Cache.Error
import ImageFreshness.Cache.Get
import ImageFreshness.Cache.Session
import ImageFreshness.Cache.Sweep
import ImageFreshness.Check.Error
import ImageFreshness.Check.Progress
import ImageFreshness.Check.Schedule
import ImageFreshness.Check.Verdict
import ImageFreshness.Command.Arguments
import ImageFreshness.Command.Check
import ImageFreshness.Command.Run
import ImageFreshness.Config.Basic
import ImageFreshness.Config.File
import ImageFreshness.Config.Paths
import ImageFreshness.Files.Path
import ImageFreshness.Files.Tree
import ImageFreshness.Http.Host
import ImageFreshness.Http.Message
import ImageFreshness.Http.Punycode
import ImageFreshness.Http.Url
import ImageFreshness.Image.Location
import ImageFreshness.Image.Reference
import ImageFreshness.Image.Tag
import ImageFreshness.Journal.Filter
import ImageFreshness.Journal.Line
import ImageFreshness.Journal.Notice
import ImageFreshness.Json.Fault
import ImageFreshness.Json.Lexeme
import ImageFreshness.Json.Parse
import ImageFreshness.Json.Reader
import ImageFreshness.Json.Record
import ImageFreshness.Json.Skip
import ImageFreshness.Json.Token
import ImageFreshness.Json.Value
import ImageFreshness.Main
import ImageFreshness.Pattern.Ast
import ImageFreshness.Pattern.Brackets
import ImageFreshness.Pattern.Charset
import ImageFreshness.Pattern.Compile
import ImageFreshness.Pattern.Engine
import ImageFreshness.Pattern.Escape
import ImageFreshness.Pattern.Expr
import ImageFreshness.Pattern.Match
import ImageFreshness.Pattern.Reader
import ImageFreshness.Pattern.Size
import ImageFreshness.Policy.Annotations
import ImageFreshness.Policy.Basic
import ImageFreshness.Policy.Fingerprint
import ImageFreshness.Policy.Selection
import ImageFreshness.Registry.Directory
import ImageFreshness.Registry.Distribution
import ImageFreshness.Registry.Error
import ImageFreshness.Scan.Basic
import ImageFreshness.Scan.Report
import ImageFreshness.Schedule.Basic
import ImageFreshness.Schedule.Waiting
import ImageFreshness.Text.Blank
import ImageFreshness.Text.Cut
import ImageFreshness.Text.Decimal
import ImageFreshness.Text.Digits
import ImageFreshness.Text.Hex
import ImageFreshness.Text.Quoted
import ImageFreshness.Text.Utf8
import ImageFreshness.Time.Date
import ImageFreshness.Time.Instant
import ImageFreshness.Time.Rfc3339
import ImageFreshness.Time.Span
import ImageFreshness.Unicode.CaseFolding
import ImageFreshness.Unicode.Category
import ImageFreshness.Unicode.CodeSet
import ImageFreshness.Unicode.Packed
import ImageFreshness.Unicode.Property
import ImageFreshness.Unicode.Script
import ImageFreshness.Version.Order
import ImageFreshness.Version.Tag
import ImageFreshness.Workload.Document
import ImageFreshness.Workload.Pod
import ImageFreshness.Proofs.Lists
import ImageFreshness.Proofs.CacheEntries
import ImageFreshness.Proofs.CacheSteps
import ImageFreshness.Proofs.CheckSteps
import ImageFreshness.Proofs.ScheduleRuns
import ImageFreshness.Proofs.RegistryRecord
import ImageFreshness.Proofs.CheckCourse
import ImageFreshness.Proofs.ScanIndependence
import ImageFreshness.Proofs.ScanAccounts
import ImageFreshness.Proofs.RepeatedScan
import ImageFreshness.Proofs.CommandOutput
import ImageFreshness.Proofs.CacheHistory
import ImageFreshness.Proofs.CacheBackground
import ImageFreshness.Proofs.CacheUse
import ImageFreshness.Proofs.TagGrammar
import ImageFreshness.Proofs.VersionOrder
import ImageFreshness.Proofs.WordValues
import ImageFreshness.Proofs.WordRuns
import ImageFreshness.Proofs.VersionTies
import ImageFreshness.Proofs.DigitRuns
import ImageFreshness.Proofs.VersionSelection
import ImageFreshness.Proofs.PlainSelection
import ImageFreshness.Proofs.SelectionOrder
import ImageFreshness.Proofs.VersionVerdict
import ImageFreshness.Proofs.CheckVerdicts
import ImageFreshness.Proofs.DigestSelection
import ImageFreshness.Proofs.DigestOrder
import ImageFreshness.Proofs.FailedLookups
import ImageFreshness.Proofs.JsonStrings
import ImageFreshness.Proofs.JsonTokens
import ImageFreshness.Proofs.JsonReadBack
import ImageFreshness.Proofs.JsonOutput
import ImageFreshness.Proofs.JsonPrefixFree
import ImageFreshness.Proofs.JsonSkipping
import ImageFreshness.Proofs.RecordReading
import ImageFreshness.Proofs.ConfigOverlay
import ImageFreshness.Proofs.PodLists
import ImageFreshness.Proofs.PodDocuments
import ImageFreshness.Proofs.PolicyIdentity
import ImageFreshness.Proofs.PolicyAnnotations
import ImageFreshness.Proofs.CalendarDates
import ImageFreshness.Proofs.InstantTexts
import ImageFreshness.Proofs.TagTexts
import ImageFreshness.Proofs.PolicyErrors
import ImageFreshness.Proofs.AnnotationScope
import ImageFreshness.Proofs.ImageReferences
import ImageFreshness.Proofs.ResolvedDigests
import ImageFreshness.Proofs.CancelledChecks
import ImageFreshness.Proofs.SweepBatches
import ImageFreshness.Proofs.ImageLocations
import ImageFreshness.Proofs.TagListing
import ImageFreshness.Proofs.ShownVersions
import ImageFreshness.Proofs.ManifestLookups
import ImageFreshness.Proofs.PinnedEndpoint
import ImageFreshness.Proofs.ChangedBytes
import ImageFreshness.Proofs.PageLinks
import ImageFreshness.Proofs.HostDispatch
import ImageFreshness.Proofs.CollectorTicks
