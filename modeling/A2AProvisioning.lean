import A2AProvisioning.LibraryMachine
import A2AProvisioning.LibraryReentrant
import A2AProvisioning.LibraryDict
import A2AProvisioning.LibraryLease
import A2AProvisioning.LibraryJson
import A2AProvisioning.Interfaces
import A2AProvisioning.LedgerHolds
import A2AProvisioning.LedgerRuns
import A2AProvisioning.SettlementContract
import A2AProvisioning.SettlementTickets
import A2AProvisioning.SettlementHistory
import A2AProvisioning.ControllerAuth
import A2AProvisioning.ControllerDomain
import A2AProvisioning.ControllerRuns
import A2AProvisioning.NetworkDevice
import A2AProvisioning.NetworkProvisioner
import A2AProvisioning.ControllerEnded
import A2AProvisioning.ControllerEnforced
import A2AProvisioning.ControllerMediation
import A2AProvisioning.ControllerSessions
import A2AProvisioning.ControllerWatcher
import A2AProvisioning.ControllerThreads
import A2AProvisioning.ControllerBooking
import A2AProvisioning.ControllerRace
import A2AProvisioning.SystemIssuers
import A2AProvisioning.ChainWatcher
import A2AProvisioning.LedgerAccounts
import A2AProvisioning.LedgerOrder
import A2AProvisioning.ControllerLifecycle
import A2AProvisioning.ControllerGate
import A2AProvisioning.SystemAnswers
import A2AProvisioning.NetworkRouter
import A2AProvisioning.NetworkTeardown
import A2AProvisioning.NetworkUndo
import A2AProvisioning.NetworkExport
import A2AProvisioning.SettlementTok
import A2AProvisioning.SettlementPayments
import A2AProvisioning.SettlementBalances
import A2AProvisioning.LibraryHex
import A2AProvisioning.LibraryTypedData
import A2AProvisioning.SigningOffer
import A2AProvisioning.SigningDigest
import A2AProvisioning.AgentsOffers
import A2AProvisioning.AgentsConsumer
import A2AProvisioning.AgentsProvider
import A2AProvisioning.SkeletonFakes
import A2AProvisioning.SystemRates
import A2AProvisioning.LibraryLockstep
import A2AProvisioning.SkeletonSimulation
import A2AProvisioning.ChainPurchase
import A2AProvisioning.ChainConcurrency
import A2AProvisioning.SkeletonAtomic
import A2AProvisioning.AgentsStructured
import A2AProvisioning.AgentsWire
import A2AProvisioning.LibraryFormat
import A2AProvisioning.ControllerProof
import A2AProvisioning.SystemProofs
import A2AProvisioning.LibraryBase64
import A2AProvisioning.LibraryJsonLoads
import A2AProvisioning.SettlementTokenUri
import A2AProvisioning.SystemTicketView
import A2AProvisioning.NetworkMock
import A2AProvisioning.ControllerPorts
import A2AProvisioning.ControllerMock
import A2AProvisioning.SkeletonController
import A2AProvisioning.SkeletonWorlds
import A2AProvisioning.SkeletonRealities
import A2AProvisioning.ControllerApp
import A2AProvisioning.SystemExchange
import A2AProvisioning.AgentsTools
import A2AProvisioning.AgentsJson
import A2AProvisioning.LifecyclePurchase
import A2AProvisioning.LifecycleDeal
import A2AProvisioning.LifecycleConsole
import A2AProvisioning.NetworkReadout
import A2AProvisioning.SystemReadout
import A2AProvisioning.LibraryBroadcast
import A2AProvisioning.LifecycleServer
