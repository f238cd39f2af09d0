import WerTe.Addresses
import WerTe.AlertCooldown
import WerTe.AlertDigest
import WerTe.AlertLifecycle
import WerTe.AlertRecords
import WerTe.AlertReports
import WerTe.AttachmentVisibility
import WerTe.Base64Url
import WerTe.BranchCatalog
import WerTe.Cached.ReadThrough
import WerTe.Calendar.Civil
import WerTe.Calendar.IsoText
import WerTe.CartOrders
import WerTe.CartTotals
import WerTe.Carts
import WerTe.CashOnDelivery
import WerTe.CatalogOffers
import WerTe.Checked.Sequence
import WerTe.Checkout
import WerTe.CheckoutPreview
import WerTe.CheckoutReplay
import WerTe.CheckoutStock
import WerTe.Clocked.Cycle
import WerTe.Clocked.ReadThrough
import WerTe.ConversationHead
import WerTe.ConversationRiders
import WerTe.Conversations
import WerTe.DeliveryAgreement
import WerTe.DiscoveryFreshness
import WerTe.DiscoveryTransparency
import WerTe.DispatchHistory
import WerTe.DispatchTimeouts
import WerTe.Emitted.Outputs
import WerTe.FallbackLimiter
import WerTe.InventoryLifecycle
import WerTe.JsStrings
import WerTe.Keyed.Groups
import WerTe.Keyed.LastEntry
import WerTe.Keyed.Table
import WerTe.Keyed.Tally
import WerTe.Ledger.Withdrawals
import WerTe.LotAllocation
import WerTe.LotLedger
import WerTe.MenusRepository
import WerTe.MerchantAccounts
import WerTe.MerchantInventory
import WerTe.MerchantSuspension
import WerTe.Messages
import WerTe.Money
import WerTe.NotificationCenter
import WerTe.NotificationPages
import WerTe.NotificationSearch
import WerTe.Numeral.Decimal
import WerTe.Numeral.LastDigits
import WerTe.Numeral.Texts
import WerTe.OfferedActions
import WerTe.OpeningHours
import WerTe.OrderCodes
import WerTe.OrderCommits
import WerTe.OrderEvents
import WerTe.OrderLines
import WerTe.OrderOperations
import WerTe.OrderSteps
import WerTe.OrdersRepository
import WerTe.Paged.Cursor
import WerTe.PaymentFinality
import WerTe.PaymentLifecycle
import WerTe.PaymentVerdicts
import WerTe.PresetBadges
import WerTe.PromotionCodes
import WerTe.PromotionLimits
import WerTe.Promotions
import WerTe.ProviderEventSteps
import WerTe.ProviderEvents
import WerTe.PushNotificationJob
import WerTe.QuietHours
import WerTe.QuietHoursTimers
import WerTe.ReadCommitted.Alone
import WerTe.ReadCommitted.Database
import WerTe.ReadCommitted.Faults
import WerTe.ReadCommitted.Flags
import WerTe.ReadCommitted.Frame
import WerTe.ReadCommitted.Interference
import WerTe.ReadCommitted.Invariant
import WerTe.ReadCommitted.Lasting
import WerTe.ReadCommitted.Machine
import WerTe.ReadCommitted.Maintains
import WerTe.ReadCommitted.Redaction
import WerTe.ReadCommitted.RelyGuarantee
import WerTe.ReadCommitted.RowRules
import WerTe.ReadCommitted.Rows
import WerTe.ReadCommitted.Sequential
import WerTe.ReadCommitted.SideBySide
import WerTe.ReadCommitted.Transaction
import WerTe.ReadMarkers
import WerTe.ReconciliationProgress
import WerTe.RefundAmounts
import WerTe.RefundBalance
import WerTe.RefundCommits
import WerTe.RefundCover
import WerTe.RefundLedger
import WerTe.RefundLifecycle
import WerTe.Refunds
import WerTe.Reported.Descents
import WerTe.RequestedPrimary
import WerTe.ReserveRestore
import WerTe.ReserveSuccess
import WerTe.RestockSuggestions
import WerTe.RiderAssignments
import WerTe.RiderLocations
import WerTe.RiderOperations
import WerTe.RiderlessOrders
import WerTe.Schema
import WerTe.Selections
import WerTe.SessionRevocation
import WerTe.Sessions
import WerTe.Sorted.Canonical
import WerTe.StatusHistory
import WerTe.StatusStock
import WerTe.StockAlerts
import WerTe.StockMoves
import WerTe.StockRelease
import WerTe.StockSafety
import WerTe.StockTotals
import WerTe.StockTracking
import WerTe.StoreDiscovery
import WerTe.StoreListing
import WerTe.StoreTypeApprovals
import WerTe.StoreTypeRequests
import WerTe.StoreTypes
import WerTe.SupportNotes
import WerTe.SupportTickets
import WerTe.TicketHistory
import WerTe.UnreadPages
import WerTe.UnverifiedWebhooks
import WerTe.VariantCombinations
import WerTe.VariantLinks
import WerTe.VariantSignatures
import WerTe.VerifiedDeliveries
import WerTe.VerticalCatalogRules
import WerTe.VerticalRules
import WerTe.WebhookIngest
import WerTe.WebhookStatuses
import WerTe.Windowed.Backlog
import WerTe.Words.Joined
import WerTe.Words.Runs
