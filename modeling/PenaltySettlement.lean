import PenaltySettlement.Batch
import PenaltySettlement.Main
import PenaltySettlement.PenaltyLookup
import PenaltySettlement.Proofs.Rerun
import PenaltySettlement.Proofs.Staleness
import PenaltySettlement.Simulation.Concurrent
import PenaltySettlement.Simulation.Feed
import PenaltySettlement.Simulation.Timetable
import PenaltySettlement.Proofs.AccountHistory
import PenaltySettlement.Proofs.Agreement
import PenaltySettlement.Proofs.OffsetLaws
import PenaltySettlement.Proofs.PayableHistory
import PenaltySettlement.Proofs.ActiveSubscription
import PenaltySettlement.Proofs.RunEnds
import PenaltySettlement.Proofs.Schedule
import PenaltySettlement.Proofs.Mirror
import PenaltySettlement.Proofs.LedgerAddress
import PenaltySettlement.Proofs.Drain
import PenaltySettlement.Proofs.LedgerReplies
import PenaltySettlement.Proofs.FailureNotes
import PenaltySettlement.Proofs.CharacterBytes
import PenaltySettlement.Proofs.PercentCoding
import PenaltySettlement.Proofs.CustomerPath
import PenaltySettlement.Proofs.WrittenTokens
import PenaltySettlement.Proofs.Restoration
import PenaltySettlement.Proofs.AmountText
import PenaltySettlement.Proofs.CalendarText
import PenaltySettlement.Proofs.StoredDocuments
import PenaltySettlement.Proofs.SettlementOutcome
import PenaltySettlement.Proofs.Replay
import PenaltySettlement.Proofs.RestartCount
import PenaltySettlement.Proofs.Shift
import PenaltySettlement.Proofs.Cancellation
import PenaltySettlement.Proofs.LookupHistory
import PenaltySettlement.Proofs.NumeralText
import PenaltySettlement.Proofs.TokenText
import PenaltySettlement.Proofs.ReadValues
import PenaltySettlement.Proofs.ValueText
import PenaltySettlement.Proofs.EnvelopeText
import PenaltySettlement.Proofs.ValueGrammar
import PenaltySettlement.Proofs.LocalReading
import PenaltySettlement.Proofs.MemberOrder
import PenaltySettlement.Proofs.EventMembers
import PenaltySettlement.Proofs.EventText
import PenaltySettlement.Proofs.PaymentRules
import PenaltySettlement.Proofs.LedgerReading
import PenaltySettlement.Proofs.NullMembers
import PenaltySettlement.Proofs.LenientReading
import PenaltySettlement.Proofs.QueryParameters
import PenaltySettlement.Proofs.OutcomeRecords
import PenaltySettlement.Proofs.ItemMarks
import PenaltySettlement.Proofs.Shutdown
