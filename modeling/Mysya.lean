import Mysya.MachineInts
import Mysya.MixedRadix
import Mysya.GuardedRuns
import Mysya.Channels
import Mysya.Tables
import Mysya.Timestamp
import Mysya.TimingWheel
import Mysya.TimingWheelPlacement
import Mysya.TimingWheelRegistry
import Mysya.TimingWheelTick
import Mysya.TimingWheelDeadline
import Mysya.TimingWheelRuns
import Mysya.TimingWheelSteps
import Mysya.TimingWheelSound
import Mysya.TimingWheelDue
import Mysya.TickConservation
import Mysya.TimerTimeliness
import Mysya.TimerPeriods
import Mysya.DynamicBuffer
import Mysya.Connection
import Mysya.TcpSocketApp
import Mysya.TcpSocketAppTables
import Mysya.TransportAgent
import Mysya.SendStream
import Mysya.WriteInterest
import Mysya.ConnectTimeouts
import Mysya.ConnectOutcomes
import Mysya.AgentOutcomes
import Mysya.AgentChannels
import Mysya.LittleEndian
import Mysya.FrameStream
import Mysya.MessageQueue
import Mysya.PeerClose
import Mysya.ProtobufCodec
import Mysya.ProtobufHostile
import Mysya.TcpSocketAppMoves
import Mysya.CallbackOrder
import Mysya.TcpSocketAppCalls
import Mysya.BufferLifetime
import Mysya.EventLoop
import Mysya.IndexedHeap
import Mysya.BestFirst
import Mysya.BestFirstCost
import Mysya.Scene
import Mysya.SceneOpenList
import Mysya.SceneSearch
import Mysya.SearchPath
import Mysya.OpenListRuns
import Mysya.PathCost
import Mysya.PoolTemplate
import Mysya.BattleScene
import Mysya.Walkability
import Mysya.CombatFields
import Mysya.CombatDeploy
import Mysya.Attempts
import Mysya.DeployItems
import Mysya.DeployFailures
import Mysya.OwnedTimers
import Mysya.SceneApp
import Mysya.AiApp
import Mysya.CombatServer
import Mysya.CleanStart
import Mysya.CombatTeardown
import Mysya.MapSums
import Mysya.ConsistentCombats
import Mysya.ConsistentDeploys
import Mysya.Dispatchers
import Mysya.Aes
import Mysya.Base64
import Mysya.ByteQueues
import Mysya.TimerCallCounts
import Mysya.DrainTermination
import Mysya.AgentTimers
import Mysya.WouldBlock
import Mysya.SceneReuse
import Mysya.GatewayCodec
import Mysya.GatewayStream
import Mysya.GatewayCombats
import Mysya.Matchmaking
import Mysya.AppServers
import Mysya.CombatSessions
import Mysya.ServerSteps
import Mysya.SessionLinks
import Mysya.BuildingCounts
import Mysya.FiberCounts
import Mysya.AutoCounts
import Mysya.AutoEvents
import Mysya.AiSteps
import Mysya.AutoRuns
import Mysya.AutoObservers
import Mysya.BuildingRecovery
import Mysya.CombatRegistry
import Mysya.SceneFrames
import Mysya.SceneSteps
import Mysya.SceneRegistry
import Mysya.WarriorAttributes
import Mysya.SpatialIndex
import Mysya.SceneIndex
import Mysya.SceneIndexRuns
import Mysya.PayloadCipher
import Mysya.NeighborRange
import Mysya.GatewayFrames
import Mysya.BufferShape
import Mysya.Base64Strings
import Mysya.SocketCreation
import Mysya.WakeupLoop
import Mysya.FairRuns
import Mysya.EventLoopThreadPool
import Mysya.SupplyCounts
import Mysya.MoveTimers
import Mysya.MoveRuns
import Mysya.SettledRegistries
import Mysya.NearlyWalkable
import Mysya.StoppedLoops
import Mysya.RoleLoops
import Mysya.ResourceRecovery
import Mysya.DerivedAttributes
import Mysya.RequestReplies
import Mysya.DeferredRemovals
import Mysya.EventObserver
import Mysya.AutoHandlers
import Mysya.LostTargets
import Mysya.AutoSights
import Mysya.ExactObservers
import Mysya.MoveOutcomes
import Mysya.HitPoints
import Mysya.Vitality
import Mysya.HitPointChanges
import Mysya.DamageReports
import Mysya.CombatActions
import Mysya.TimestampArithmetic
import Mysya.PendingReadTimer
import Mysya.RefusedMatches
import Mysya.OnlineActors
import Mysya.ServerReports
import Mysya.DeployedRoles
import Mysya.GatewayTurns
import Mysya.GatewayLink
import Mysya.LinkTracking
import Mysya.LinkRuns
import Mysya.LinkAgreement
import Mysya.ArgentIds
import Mysya.LatestCombats
import Mysya.ArgentMessages
import Mysya.ArgentLink
import Mysya.ArgentRuns
import Mysya.SceneFiles
import Mysya.LoadedMaps
import Mysya.ListenService
import Mysya.ListenOutcomes
import Mysya.ServiceTurns
import Mysya.AgentQueues
import Mysya.BroadcastFrames
import Mysya.AgentStreams
import Mysya.AgentDeliveries
import Mysya.AgentPairs
import Mysya.CombatIsolation
