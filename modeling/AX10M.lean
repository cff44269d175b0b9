import AX10M.Effects.Prog
import AX10M.Effects.Trace
import AX10M.Logs.Chain
import AX10M.Logs.First
import AX10M.Logs.Latest
import AX10M.Logs.Paced
import AX10M.Js.Map
import AX10M.Js.Json
import AX10M.Js.Date
import AX10M.Js.Calendar
import AX10M.Js.Number
import AX10M.Js.Text
import AX10M.Js.Numeral
import AX10M.Js.Stringify
import AX10M.Js.Keys
import AX10M.Guardrail
import AX10M.Canonical
import AX10M.Poal
import AX10M.RecoveryEngine
import AX10M.Onboarding.Lifecycle
import AX10M.Onboarding
import AX10M.Comms
import AX10M.Attribution.Ledger
import AX10M.Attribution.Holdout
import AX10M.Attribution.Sequential
import AX10M.Attribution.Chain
import AX10M.Attribution.Tamper
import AX10M.Persistence.LedgerRepository
import AX10M.Persistence.Reads
import AX10M.Persistence.SharedLedger
import AX10M.Recovery.Ops
import AX10M.Recovery.Service
import AX10M.Recovery.World
import AX10M.Recovery.Footprint
import AX10M.Recovery.Run
import AX10M.Recovery.Reversal
import AX10M.Recovery.Redelivery
import AX10M.Recovery.Opening
import AX10M.Recovery.Charging
import AX10M.Recovery.Asked
import AX10M.Recovery.Spacing
import AX10M.Recovery.Replay
import AX10M.Recovery.Isolation
import AX10M.Recovery.Outcome
import AX10M.Scheduler.Saga
import AX10M.Scheduler.History
import AX10M.Scheduler.Law
import AX10M.Scheduler.Sequenced
import AX10M.Recovery.Durable
import AX10M.Recovery.SagaRun
import AX10M.Recovery.Consent
import AX10M.RecoveryEngine.LedgerSamples
import AX10M.Recovery.Settlement
import AX10M.Poal.Ingress
import AX10M.Poal.Adyen
import AX10M.Poal.Checkout
import AX10M.Poal.Xml
import AX10M.Poal.Braintree
import AX10M.Poal.Maxio
import AX10M.Poal.PayPal
import AX10M.Poal.Recurly
import AX10M.Poal.Shopify
import AX10M.Poal.GoCardless
import AX10M.Poal.Stripe
import AX10M.Recovery.Ingest
import AX10M.Recovery.Failure
import AX10M.Recovery.Cases
import AX10M.Recovery.Activation
import AX10M.Recovery.Chargebacks
import AX10M.Recovery.Renewals
import AX10M.Recovery.Joins
import AX10M.Recovery.Acknowledged
import AX10M.Billing.Observations
import AX10M.Recovery.Arms
import AX10M.Recovery.Strata
import AX10M.Recovery.WebhookOrder
import AX10M.Billing.Statement
import AX10M.Billing.Run
import AX10M.Billing.Invoice
import AX10M.Billing.Charger
import AX10M.Billing.Job
import AX10M.Billing.Books
import AX10M.Billing.Rebilling
import AX10M.Billing.Withheld
import AX10M.Billing.Credits
import AX10M.Billing.Bound
import AX10M.Billing.Recharge
import AX10M.Billing.Collection
import AX10M.Billing.Uncollected
import AX10M.Billing.Cohorts
import AX10M.Logs.Totals
import AX10M.Billing.Observed
import AX10M.Billing.Currency
import AX10M.Billing.Numbers
import AX10M.Billing.Contract
import AX10M.Js.DigitRuns
import AX10M.Comms.Sender
import AX10M.Billing.Dunning
import AX10M.Billing.Delivery
import AX10M.Billing.Account
import AX10M.Billing.Certification
import AX10M.Billing.HeldOut
import AX10M.Billing.Deliverable
import AX10M.Billing.PaidInvoices
import AX10M.Matrices.GaussJordan
import AX10M.Matrices.Ridge
import AX10M.RecoveryEngine.Objective
import AX10M.RecoveryEngine.Bandit
import AX10M.Pools.Delta
import AX10M.Recovery.Flywheel
import AX10M.Recovery.Fleet
import AX10M.Recovery.Baseline
import AX10M.Pools.Flights
import AX10M.Recovery.Flush
import AX10M.Js.Instants
import AX10M.Js.Joined
import AX10M.Recovery.JoinedKeys
import AX10M.Poal.WooCommerce
import AX10M.Poal.EventIds
import AX10M.Js.Fixed
import AX10M.Poal.MinorUnits
import AX10M.Poal.Refunds
import AX10M.Recovery.Training
import AX10M.Effects.Threads
import AX10M.Recovery.Reminders
import AX10M.Onboarding.Observed
import AX10M.Recovery.ShadowWindow
import AX10M.Attribution.Reconciliation
import AX10M.Js.Groups
import AX10M.Attribution.Evidence
import AX10M.Attribution.Strata
import AX10M.Onboarding.Operations
import AX10M.Reals.Mixture
import AX10M.Attribution.ConfidenceSequence
import AX10M.Attribution.Cuped
import AX10M.Attribution.Checked
import AX10M.Attribution.Gates
import AX10M.Attribution.Renaming
import AX10M.Attribution.Invariance
import AX10M.Attribution.Payout
import AX10M.RecoveryEngine.BinCsv
import AX10M.Attribution.Csv
import AX10M.Js.Parse
import AX10M.Js.Value
import AX10M.Attribution.StableStringify
import AX10M.Attribution.Signed
import AX10M.Billing.Documents
import AX10M.Billing.Verification
import AX10M.Billing.Charges
import AX10M.Js.Runs
import AX10M.Billing.CardNumbers
import AX10M.Comms.Dunning
import AX10M.Comms.Composed
import AX10M.Poal.AdyenSignature
import AX10M.Markup.Tree
import AX10M.Poal.XmlTree
import AX10M.Poal.XmlLeaf
import AX10M.RecoveryEngine.Policies
import AX10M.RecoveryEngine.Backoff
import AX10M.RecoveryEngine.ColdStart
import AX10M.RecoveryEngine.Sequence
import AX10M.Tables.Delimited
import AX10M.RecoveryEngine.CsvTable
import AX10M.Ranks.Pairs
import AX10M.RecoveryEngine.Auc
import AX10M.Onboarding.Projection
import AX10M.Draws.Generator
import AX10M.Backtest.Simulate
import AX10M.Backtest.Checks
import AX10M.RecoveryEngine.Timing
import AX10M.Js.DayKeys
import AX10M.Analytics.Pnl
import AX10M.Analytics.Decomposition
import AX10M.Js.Double
import AX10M.Js.Coercion
import AX10M.Regression.Descent
import AX10M.Regression.NonFinite
import AX10M.RecoveryEngine.Fit
import AX10M.RecoveryEngine.Retrain
import AX10M.Effects.Rely
import AX10M.Persistence.Migrations
import AX10M.Persistence.ModelRepository
import AX10M.RecoveryEngine.RetrainJob
import AX10M.RecoveryEngine.RetrainSequence
import AX10M.Js.Bytes
import AX10M.Persistence.Credentials
import AX10M.Poal.Factory
import AX10M.Webhooks.Connections
import AX10M.Webhooks.Router
import AX10M.Comms.Transport
import AX10M.Tables.Prefixes
import AX10M.RecoveryEngine.FeatureStore
import AX10M.Billing.Portal
