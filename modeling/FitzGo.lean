import FitzGo.Transport.StreamIntegrity
import FitzGo.Transport.DeadlineDiscipline
import FitzGo.Connection.DispatchLoop
import FitzGo.Connection.CorrelatedDelivery
import FitzGo.Subscriptions.AcknowledgedNotify
import FitzGo.Connection.Saturation
import FitzGo.Client.CarriedSessions
import FitzGo.Client.CloseFinal
import FitzGo.Client.Reconnection
import FitzGo.Domains.GrantingSession
import FitzGo.Connection.Authentication
import FitzGo.Connection.AdmissionBounds
import FitzGo.Connection.InFlight
import FitzGo.Connection.Termination
import FitzGo.Connection.Correlations
import FitzGo.Connection.HandlerPoolSafety
import FitzGo.Subscriptions.RestoreAlone
import FitzGo.Subscriptions.BrokerPatterns
import FitzGo.Subscriptions.TerminalState
import FitzGo.Subscriptions.NoticeSessions
import FitzGo.Domains.LeaseSubscriptions
import FitzGo.Domains.PushHandlers
import FitzGo.Domains.DeferredAcquire
import FitzGo.Client.ManagedLeaseTokens
import FitzGo.Domains.ObserverRecovery
import FitzGo.Domains.RpcWorkers
import FitzGo.Domains.RpcOrphans
import FitzGo.Domains.RpcSettlement
import FitzGo.Domains.ObserverReconnect
import FitzGo.Domains.QueueItems
import FitzGo.Domains.KvTransactions
import FitzGo.Client.ManagedIterators
import FitzGo.Domains.ScheduleSelectors
import FitzGo.Connection.Readers
import FitzGo.Domains.EnqueueWriter
import FitzGo.Domains.WorkerSelection
