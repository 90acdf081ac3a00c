import TradingGateway.BrokerCore.ClientOrderIds
import TradingGateway.BrokerCore.BarAggregationLateBars
import TradingGateway.BrokerCore.BarFinalizerProperties
import TradingGateway.BrokerCore.MarketDataRecovery
import TradingGateway.BrokerCore.ObservedM1Properties
import TradingGateway.BrokerCore.OrderPathAtomicity
import TradingGateway.BrokerCore.OrderPreflightProperties
import TradingGateway.BrokerCore.PaperLedgerRuns
import TradingGateway.BrokerCore.TradeLedgerAttribution
import TradingGateway.BrokerCore.TradeLedgerCommission
import TradingGateway.BrokerCore.OrphanOrders
import TradingGateway.BrokerCore.RuntimeStateProperties
import TradingGateway.BrokerCore.OrderRateWindow
import TradingGateway.BrokerCore.ParityReportProperties
import TradingGateway.BrokerFinam.InstrumentRegistry
import TradingGateway.BrokerFinam.BrokerTruthProperties
import TradingGateway.Stage5g.EvidenceCanonicalization
import TradingGateway.Stage5g.OrderPositionCoherence
import TradingGateway.Stage6.CheckpointPrefixes
import TradingGateway.Stage6.ReplayInterleaving
import TradingGateway.Stage6.SuffixReconstructionProperties
import TradingGateway.Stage6.TransitionArithmetic
import TradingGateway.Stage6.VersionedScan
import TradingGateway.Stage6d.ScheduleJournalAhead
import TradingGateway.Stage8b.MarketAverages
import TradingGateway.Stage8b.LimitFills
import TradingGateway.Stage8b.BindingRecovery
import TradingGateway.Stage8b.CrashRecovery
import TradingGateway.Stage8b.DeferredCancels
import TradingGateway.Stage8b.MarketRecovery
import TradingGateway.Stage8b.ScheduleHistory
import TradingGateway.Stage8b.WorkingLimitBookInvariant
import TradingGateway.Stage8b.WorkingLimitSequences
import TradingGateway.Stage8b.CommandPublicationsProperties
import TradingGateway.Stage8b.TradableBars
import TradingGateway.FinamGateway.ForeignOrders
import TradingGateway.FinamGateway.Stage8a4RowOrder
import TradingGateway.FinamGateway.RealTransportLifecycleProperties
import TradingGateway.FinamGateway.SchedulePublisherProperties
import TradingGateway.FinamGateway.OrderEndpointAnswers
import TradingGateway.FinamGateway.TradeCoverage
import TradingGateway.HybridIntraday.BreakoutExits
import TradingGateway.HybridIntraday.RiskGateLedgerRuns
import TradingGateway.HybridIntraday.EntryDayRuns
import TradingGateway.HybridIntraday.EntryOrders
import TradingGateway.HybridIntraday.ProtectiveOrderRuns
import TradingGateway.HybridIntraday.ShortWarmUp
