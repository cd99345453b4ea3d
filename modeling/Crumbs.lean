import Crumbs.Inventory.Concurrency
import Crumbs.Payments.Deliveries
import Crumbs.Inventory.Holds
import Crumbs.Orders.AuditTrail
import Crumbs.Payments.CallbackRuns
import Crumbs.Lifecycle.Backing
import Crumbs.Lifecycle.Failures
import Crumbs.Lifecycle.Handover
import Crumbs.Lifecycle.CartLocks
import Crumbs.Lifecycle.Refunds
import Crumbs.Lifecycle.Ended
import Crumbs.Lifecycle.Snapshot
import Crumbs.Lifecycle.CartUnits
import Crumbs.Growth.Totals
import Crumbs.Growth.Outcomes
import Crumbs.Db.Retries
import Crumbs.Cart.Merge
import Crumbs.Accounts.Login
import Crumbs.Growth.Retries
import Crumbs.Loyalty.Commute
import Crumbs.Db.Runs
import Crumbs.Db.Once
import Crumbs.Growth.Limits
import Crumbs.Loyalty.Concurrency
import Crumbs.Db.Simulation
import Crumbs.Db.Outbox
import Crumbs.Orders.Events
import Crumbs.Orders.Emitting
import Crumbs.Payments.Emitting
import Crumbs.Orders.Messages
import Crumbs.Payments.Messages
import Crumbs.Payments.MessageRuns
import Crumbs.Orders.DailySequence
import Crumbs.Orders.TaskClaims
import Crumbs.Lifecycle.Sessions
import Crumbs.Lifecycle.CartHolds
import Crumbs.Notifications.Policies
import Crumbs.Notifications.Services
import Crumbs.Notifications.Retries
import Crumbs.Inventory.FulfillmentDates
import Crumbs.Payments.CounterReceipts
import Crumbs.Inventory.Handouts
import Crumbs.Payments.CodReceipts
import Crumbs.Inventory.Rebooking
import Crumbs.Inventory.SoldOut
import Crumbs.Orders.Pickup
import Crumbs.Lifecycle.Finished
import Crumbs.Lifecycle.StaleSweeps
import Crumbs.Notifications.Duplicates
import Crumbs.Notifications.Throttling
import Crumbs.Core.ShiftSummary
import Crumbs.Core.RateLimit
import Crumbs.Loyalty.Tiers
import Crumbs.Growth.Funnel
import Crumbs.Growth.SmsRevenue
import Crumbs.Lifecycle.PaidStock
import Crumbs.Cart.MergeSuccess
import Crumbs.Core.TableSession
import Crumbs.Text.Json
import Crumbs.Text.Search
import Crumbs.Core.Observability
import Crumbs.Text.Rewrite
import Crumbs.Payments.Redaction
import Crumbs.Accounts.Identifiers
import Crumbs.Db.Dict
import Crumbs.Intelligence.Models
import Crumbs.Intelligence.CoPurchase
import Crumbs.Intelligence.DailyStats
import Crumbs.Intelligence.Scoring
import Crumbs.Db.Fresh
import Crumbs.Intelligence.Recommendations
import Crumbs.Intelligence.RelatedProducts
import Crumbs.Intelligence.Upsell
import Crumbs.Intelligence.Baking
import Crumbs.Lifecycle.Delivered
import Crumbs.Lifecycle.Production
import Crumbs.Lifecycle.Boards
import Crumbs.Lifecycle.BulkActions
import Crumbs.Lifecycle.Isolation
import Crumbs.Loyalty.PaidTasks
import Crumbs.Growth.Reminders
import Crumbs.Growth.Campaigns
import Crumbs.Orders.FanOut
import Crumbs.Accounts.Addresses
import Crumbs.Notifications.OrderTexts
import Crumbs.Lifecycle.StaffScreens
import Crumbs.Lifecycle.OrderForm
