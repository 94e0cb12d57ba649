import EcsAsioServer.Network.Receive
import EcsAsioServer.Lib.Transition
import EcsAsioServer.Network.SendQueue
import EcsAsioServer.Network.Callbacks
import EcsAsioServer.Network.Idle
import EcsAsioServer.Game.Ecs
import EcsAsioServer.Lib.StateProgram
import EcsAsioServer.Protocol.Wire
import EcsAsioServer.Protocol.Messages
import EcsAsioServer.Db.Players
import EcsAsioServer.Lib.Strands
import EcsAsioServer.Game.GameServer
import EcsAsioServer.Game.Handlers
import EcsAsioServer.Game.Runs
import EcsAsioServer.Game.Lifecycle
import EcsAsioServer.Game.Locking
import EcsAsioServer.Game.Reconnect
import EcsAsioServer.Lib.Records
import EcsAsioServer.Protocol.Layouts
import EcsAsioServer.Protocol.Parsing
import EcsAsioServer.Protocol.Cursor
import EcsAsioServer.Protocol.Reserve
import EcsAsioServer.Network.Segmentation
import EcsAsioServer.Network.Accounting
import EcsAsioServer.Lib.Grouping
import EcsAsioServer.Game.Guilds
import EcsAsioServer.Game.Membership
import EcsAsioServer.Game.Quiet
import EcsAsioServer.Game.Sessions
import EcsAsioServer.Game.SessionEvents
import EcsAsioServer.Game.Closing
import EcsAsioServer.Game.Vitals
import EcsAsioServer.Game.Accounts
import EcsAsioServer.Game.Players
import EcsAsioServer.Game.Saves
import EcsAsioServer.Game.Progress
import EcsAsioServer.Game.Persistence
import EcsAsioServer.Game.Routing
import EcsAsioServer.Game.Tokens
import EcsAsioServer.Lib.Lanes
import EcsAsioServer.Game.MapPackets
import EcsAsioServer.Game.Ordering
import EcsAsioServer.Lib.Placement
import EcsAsioServer.Threading.MapThread
import EcsAsioServer.Threading.MapThreadManager
import EcsAsioServer.Lib.BinaryHeap
import EcsAsioServer.Threading.Transfers
import EcsAsioServer.Lib.Loops
import EcsAsioServer.Threading.Systems
import EcsAsioServer.Threading.Simulation
import EcsAsioServer.Lib.ShiftRegister
import EcsAsioServer.Network.Integrity
import EcsAsioServer.Lib.Growable
import EcsAsioServer.Core.PacketBuffer
import EcsAsioServer.Core.Cursor
import EcsAsioServer.Threading.Combat
import EcsAsioServer.Game.Attack
import EcsAsioServer.Game.PlayerCache
import EcsAsioServer.Game.Cache
import EcsAsioServer.Game.Entities
import EcsAsioServer.Game.MemoryPool
import EcsAsioServer.Threading.SystemManager
import EcsAsioServer.Threading.Population
import EcsAsioServer.Threading.Lifetimes
import EcsAsioServer.Threading.MapObjects
import EcsAsioServer.Threading.Spawning
import EcsAsioServer.Threading.Collisions
import EcsAsioServer.Threading.WorldBounds
import EcsAsioServer.Lib.Utf8
import EcsAsioServer.Lib.TextParser
import EcsAsioServer.Lib.Json
import EcsAsioServer.Lib.JsonDocument
import EcsAsioServer.Db.Texts
import EcsAsioServer.Db.CacheDocument
import EcsAsioServer.Db.FailureSink
import EcsAsioServer.Db.Statements
import EcsAsioServer.Lib.Leases
import EcsAsioServer.Db.Connections
import EcsAsioServer.Lib.Settings
import EcsAsioServer.Core.ServerConfig
import EcsAsioServer.Lib.Flags
import EcsAsioServer.Network.Threads
import EcsAsioServer.Network.ThreadLimits
import EcsAsioServer.Game.AsioServer
import EcsAsioServer.Client.GameClient
import EcsAsioServer.Lib.HeapOrder
import EcsAsioServer.Threading.Tasks
import EcsAsioServer.Threading.Fights
import EcsAsioServer.Db.RedisCache
import EcsAsioServer.Game.GlobalChat
