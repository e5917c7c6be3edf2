import AdsControl.Wb.BidSafety
import AdsControl.Wb.Protocol
import AdsControl.Wb.SpendProtection
import AdsControl.Wb.PauseReadback
import AdsControl.Wb.FileProtocol
import AdsControl.Wb.Direction
import AdsControl.Wb.CostGuards
import AdsControl.Wb.Independence
import AdsControl.Wb.LaunchSafety
import AdsControl.Wb.LaunchManifest
import AdsControl.Wb.PlanQuota
import AdsControl.Optimizer.Labels
import AdsControl.Optimizer.Ceiling
import AdsControl.Optimizer.ClosedDays
import AdsControl.Optimizer.Reconciliation
import AdsControl.Ozon.GuardIsolation
import AdsControl.Ozon.GuardProtocol
import AdsControl.Ozon.GuardMetrics
import AdsControl.Ozon.LaunchProtocol
import AdsControl.Ozon.StaticBids
import AdsControl.Reporting.OutboxProtocol
import AdsControl.Reporting.Schedule
import AdsControl.Reporting.Resumption
import AdsControl.Reporting.SalesIntegrity
import AdsControl.Reporting.FinanceReconciliation
import AdsControl.Reporting.Rules
import AdsControl.Reporting.CostImport
import AdsControl.Finance.Quota
import AdsControl.Marketplace.SharedQuota
import AdsControl.Reporting.Money
import AdsControl.Reporting.FinanceDetails
import AdsControl.Reporting.Planning
import AdsControl.Reporting.MailDeadline
import AdsControl.Wb.BidPlan
import AdsControl.Control.Digests
import AdsControl.Wb.ResponseCooldown
import AdsControl.Wb.TokenGate
import AdsControl.Reporting.FrozenManifest
import AdsControl.Lib.Document
import AdsControl.Lib.Tally
import AdsControl.Ozon.PostingSales
import AdsControl.Ozon.PostingBooks
import AdsControl.Ozon.PostingReading
import AdsControl.Ozon.PostingConservation
import AdsControl.Lib.CursorWalk
import AdsControl.Reporting.OzonSource
import AdsControl.Reporting.FactValidation
import AdsControl.Reporting.PostingMovement
import AdsControl.Lib.Conversion
import AdsControl.Reporting.Facts
import AdsControl.Reporting.FactInsertion
import AdsControl.Reporting.OzonStocks
import AdsControl.Reporting.OzonStockTotals
import AdsControl.Lib.Rearrangement
import AdsControl.Reporting.PromotionStats
import AdsControl.Reporting.PromotionTotals
import AdsControl.Reporting.OzonFinance
import AdsControl.Reporting.OzonLedger
import AdsControl.Reporting.FinanceComparison
import AdsControl.Reporting.OfficialReconciliation
import AdsControl.Position.Plan
import AdsControl.Position.Queries
import AdsControl.Position.Runner
import AdsControl.Position.Persistence
import AdsControl.Position.Collection
import AdsControl.Position.Batches
import AdsControl.Position.PayloadDigest
import AdsControl.Position.Database
import AdsControl.Position.RequestBudget
import AdsControl.Position.Archive
