import MmoServer.CyclicList
import MmoServer.Transition
import MmoServer.Loop
import MmoServer.LittleEndian
import MmoServer.OrdMap
import MmoServer.MsgId
import MmoServer.Buffer
import MmoServer.Packet
import MmoServer.NetworkBufferRing
import MmoServer.NetworkBufferRefine
import MmoServer.FrameDecode
import MmoServer.FrameEncode
import MmoServer.FrameStream
import MmoServer.PlayerCollector
import MmoServer.Teleport
import MmoServer.Knapsack
import MmoServer.PlayerManager
import MmoServer.WorldProxy
import MmoServer.ClientIsolation
import MmoServer.Outcome
import MmoServer.Lobby
import MmoServer.GameLogin
import MmoServer.PlayerTransit
import MmoServer.GhostPlayers
import MmoServer.AccountMgr
import MmoServer.LoginAuthorisation
import MmoServer.MysqlConnector
import MmoServer.HiredisFormat
import MmoServer.RedisConnector
import MmoServer.SyncComponent
import MmoServer.CreateWorld
import MmoServer.PublicWorlds
import MmoServer.TeamMap
import MmoServer.TeamGather
import MmoServer.Trade
import MmoServer.TradeConsent
import MmoServer.TeleportSafety
import MmoServer.Dispatch
import MmoServer.DispatchOnce
import MmoServer.RoundRobin
import MmoServer.PlayerTable
import MmoServer.SaveOrder
import MmoServer.SocketReuse
import MmoServer.ObjectPool
import MmoServer.SerialNumber
import MmoServer.NetworkLocator
import MmoServer.MessageSystem
import MmoServer.PacketOwnership
import MmoServer.Recycling
import MmoServer.WorldTransparency
import MmoServer.StrandedBytes
import MmoServer.RecvDrain
import MmoServer.LobbyWaiting
import MmoServer.GameDirectory
import MmoServer.Heap
import MmoServer.PlayerIndex
import MmoServer.PlayerRegistry
import MmoServer.TimerComponent
import MmoServer.WorldProxyRegistry
import MmoServer.AppearTimer
import MmoServer.AppearProtocol
import MmoServer.BtNode
import MmoServer.NpcBehaviour
import MmoServer.NpcPhases
import MmoServer.NpcLife
import MmoServer.NpcRewards
import MmoServer.WorldNpcs
import MmoServer.WorldFrame
import MmoServer.StalePointers
import MmoServer.WorldMessages
import MmoServer.OnlineFlag
import MmoServer.ComponentCollections
import MmoServer.FrameLength
import MmoServer.HttpBody
import MmoServer.HttpPacket
import MmoServer.SocketOutcome
import MmoServer.ConnectAnnouncement
import MmoServer.BtReference
import MmoServer.HttpArrival
import MmoServer.TimerUpdate
import MmoServer.TimerRemoval
import MmoServer.Wire
import MmoServer.CreateComponent
import MmoServer.CreationArguments
import MmoServer.CreationLock
import MmoServer.CreationOrder
import MmoServer.CallbackRelease
import MmoServer.LeastLoaded
import MmoServer.StringFormat
import MmoServer.LoginLock
import MmoServer.SqlLexer
import MmoServer.PlayerQuery
import MmoServer.BindBuffer
import MmoServer.PlayerCreation
import MmoServer.LoginReplies
import MmoServer.HeadQueue
import MmoServer.DungeonPairing
import MmoServer.PlayerComponentLastMap
import MmoServer.ResumeWorld
import MmoServer.EventOrder
import MmoServer.NpcTree
import MmoServer.SwitchSafety
import MmoServer.NpcUpdates
import MmoServer.PlayerSerialization
import MmoServer.PathFollowing
import MmoServer.ResourceBase
import MmoServer.CurrentMap
import MmoServer.ThreadCollector
import MmoServer.Shutdown
import MmoServer.HttpWrite
import MmoServer.NpcControl
import MmoServer.ControlRun
import MmoServer.ActionAnswers
import MmoServer.MysqlTableUpdate
