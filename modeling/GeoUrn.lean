import GeoUrn.Audit.Session
import GeoUrn.AuthorityCode
import GeoUrn.Code
import GeoUrn.Main
import GeoUrn.Proofs.CodePoints
import GeoUrn.Proofs.Blanks
import GeoUrn.Proofs.LowerCase
import GeoUrn.Vocabulary
import GeoUrn.Proofs.Positions
import GeoUrn.Proofs.HttpReading
import GeoUrn.Proofs.HttpGrammar
import GeoUrn.Proofs.UrnGrammar
import GeoUrn.Proofs.UrnRoundTrip
import GeoUrn.Proofs.CodePieces
import GeoUrn.Proofs.CodeAgreement
import GeoUrn.Proofs.CodeGrammar
import GeoUrn.Proofs.HttpRoundTrip
import GeoUrn.Proofs.UrnBuilding
import GeoUrn.Proofs.HttpToUrn
import GeoUrn.Proofs.Numerals
import GeoUrn.Proofs.FloatRounding
import GeoUrn.Proofs.ShortestNumerals
import GeoUrn.Proofs.NumberTexts
import GeoUrn.Proofs.JsonRoundTrip
import GeoUrn.Proofs.JsonTexts
import GeoUrn.Proofs.Utf8RoundTrip
import GeoUrn.Proofs.FileTrees
import GeoUrn.Proofs.JsonLines
import GeoUrn.Proofs.EncodableRows
import GeoUrn.Proofs.RowFiles
import GeoUrn.Proofs.FileReading
import GeoUrn.Proofs.AuditLogs
import GeoUrn.Proofs.AuditSessions
import GeoUrn.Proofs.KeptLines
import GeoUrn.Proofs.FaultMessages
import GeoUrn.Proofs.BatchAccounts
import GeoUrn.Proofs.AsciiCase
import GeoUrn.Proofs.SpellingVariants
import GeoUrn.Proofs.RegistryGrowth
import GeoUrn.Proofs.JsonSchema
import GeoUrn.Proofs.RowRecords
import GeoUrn.Proofs.RowSchemas
import GeoUrn.Proofs.CanonicalLines
import GeoUrn.Proofs.FileFrames
import GeoUrn.Proofs.BatchEndings
import GeoUrn.Proofs.PlannedRuns
import GeoUrn.Proofs.ReleasePlan
import GeoUrn.Proofs.ScriptedPlans
import GeoUrn.Proofs.ReleaseCourse
import GeoUrn.Proofs.ReleaseVerdicts
import GeoUrn.Proofs.CommentLines
import GeoUrn.Proofs.LineEnds
import GeoUrn.Proofs.CommandAgreement
import GeoUrn.Proofs.EarlierBuilds
import GeoUrn.Proofs.PositionBounds
import GeoUrn.Proofs.PositionReading
import GeoUrn.Proofs.Tables
import GeoUrn.Proofs.RegistryEntries
import GeoUrn.Proofs.Calendar
import GeoUrn.Proofs.Timestamps
import GeoUrn.Proofs.FileDigests
import GeoUrn.Proofs.ComponentRanges
