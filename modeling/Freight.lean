import Freight.Library.Run
import Freight.Library.Pool
import Freight.Library.EventLoop
import Freight.Library.Table
import Freight.Library.Checks
import Freight.Library.Slopes
import Freight.Library.Number
import Freight.Store.Phone
import Freight.Store.Rows
import Freight.Store.Config
import Freight.Dispatch.ByTable
import Freight.Dispatch.OutOfReach
import Freight.Dispatch.Assignment
import Freight.Dispatch.Readings
import Freight.Dispatch.Prices
import Freight.Dispatch.FewGuesses
import Freight.Dispatch.WithinCapacity
import Freight.Dispatch.Undone
import Freight.Dispatch.Waiting
import Freight.Auth.SecondFactor
import Freight.Auth.Governed
import Freight.Auth.Otp
import Freight.Auth.OtpGuesses
import Freight.Auth.Revoked
import Freight.Auth.SpentOnce
import Freight.Auth.Purge
import Freight.Telemetry.Alerts
import Freight.Telemetry.Instances
import Freight.Telemetry.InOrder
import Freight.Telemetry.Shutdown
import Freight.Telemetry.Watchful
import Freight.Driver.NothingLost
import Freight.Driver.SentOnce
import Freight.Driver.ValidRefusal
import Freight.Driver.OwnSession
import Freight.Driver.SignedOut
import Freight.Driver.WholeFlush
import Freight.Driver.KeptSession
import Freight.Payout.Worker
import Freight.Payout.Claims
import Freight.Payout.AtMostOnce
import Freight.Payout.Stranded
import Freight.Pricing.Superseding
import Freight.Pricing.Growth
import Freight.Pricing.Gradual
import Freight.Pricing.Shares
import Freight.Pricing.OldCards
import Freight.Order.Balance
import Freight.Payment.System
import Freight.Payment.PaidStays
import Freight.Payment.OneFare
import Freight.Payment.AllOrNothing
import Freight.Payment.Charged
import Freight.Payment.PaidOut
import Freight.Payment.TakenOnce
import Freight.Payment.OneCurrency
import Freight.Payment.Offered
import Freight.Payment.InSight
import Freight.Payment.ClearingRule
import Freight.Payment.Policy
import Freight.Payment.Committed
import Freight.Places.Hints
import Freight.Places.Throttle
import Freight.Limits.Bounds
import Freight.Limits.Abandoned
import Freight.Incidents.Dashboard
import Freight.Report.Scrub
import Freight.Dispatch.Office
import Freight.Dispatch.OwnHistory
import Freight.Dispatch.TruthfulRuns
import Freight.Dispatch.NearestNext
import Freight.Dispatch.Batches
import Freight.Dispatch.ReturnLegs
import Freight.Dispatch.LiveBoard
import Freight.Dispatch.Mirror
import Freight.Deploy.Resumed
import Freight.Documents.Analyses
import Freight.Documents.Storage
import Freight.Documents.Duplicates
import Freight.Documents.Compliance
import Freight.Fleet.Vacant
import Freight.Payment.AccessTokens
import Freight.Safety.Reported
import Freight.Safety.Today
