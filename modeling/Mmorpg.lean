import Mmorpg.Transition.Run
import Mmorpg.Transition.WriteThrough
import Mmorpg.Transition.Pending
import Mmorpg.Object.Core
import Mmorpg.Item.ItemTable
import Mmorpg.Item.Inventory
import Mmorpg.Item.InventoryStep
import Mmorpg.Item.InventoryInvariant
import Mmorpg.Item.AttackPower
import Mmorpg.Item.OneWeapon
import Mmorpg.Item.AddItem
import Mmorpg.Item.Quantity
import Mmorpg.Database.InventoryTable
import Mmorpg.Item.Persistence
import Mmorpg.Item.CrashAtomicity
import Mmorpg.Transition.PriorityQueue
import Mmorpg.Transition.Timeline
import Mmorpg.Transition.Blocks
import Mmorpg.Transition.Assembly
import Mmorpg.Transition.Fairness
import Mmorpg.Transition.Pool
import Mmorpg.Transition.Simulation
import Mmorpg.Transition.Waiter
import Mmorpg.Transition.WriteBehind
import Mmorpg.Transition.Lease
import Mmorpg.Thread.GameLogicThread
import Mmorpg.Thread.TimerThread
import Mmorpg.Thread.Punctual
import Mmorpg.Database.Players
import Mmorpg.Database.DBThread
import Mmorpg.Database.Settled
import Mmorpg.Database.LoginOrder
import Mmorpg.Database.ShardWorker
import Mmorpg.Database.RequestOrder
import Mmorpg.Database.ConnectionPool
import Mmorpg.Database.WorkerThreads
import Mmorpg.Database.WorkerTurns
import Mmorpg.Database.Service
import Mmorpg.Zone.ZoneLayout
import Mmorpg.Zone.Collision
import Mmorpg.Search.AStar
import Mmorpg.Zone.FindPath
import Mmorpg.Object.Subject
import Mmorpg.World.Packet
import Mmorpg.World.World
import Mmorpg.World.Sector
import Mmorpg.World.SectorHelper
import Mmorpg.World.MonsterHelper
import Mmorpg.World.ItemHelper
import Mmorpg.World.UserHelper
import Mmorpg.World.Route
import Mmorpg.Database.Login
import Mmorpg.World.Server
import Mmorpg.World.Backlog
import Mmorpg.World.LastTimes
import Mmorpg.World.Cooldown
import Mmorpg.World.CooldownRuns
import Mmorpg.Wire.Layout
import Mmorpg.Network.Buffer
import Mmorpg.Network.Receive
import Mmorpg.Network.Malformed
import Mmorpg.Network.Send
import Mmorpg.Network.Dispatch
import Mmorpg.Network.OwnBytes
import Mmorpg.Network.ServerFrame
import Mmorpg.Network.ClientFrame
import Mmorpg.Network.Intake
import Mmorpg.World.LoginFailure
import Mmorpg.Thread.ThreadedServer
import Mmorpg.World.Standing
import Mmorpg.World.Aside
import Mmorpg.World.AsideTasks
import Mmorpg.World.Effect
import Mmorpg.World.Script
import Mmorpg.World.Apart
import Mmorpg.World.Course
import Mmorpg.World.ScriptTasks
import Mmorpg.World.Turn
import Mmorpg.World.ZoneMap
import Mmorpg.World.Contact
import Mmorpg.World.Homed
import Mmorpg.World.Passage
import Mmorpg.World.Fit
import Mmorpg.World.Vital
import Mmorpg.World.Hunt
import Mmorpg.World.LifeCycle
import Mmorpg.World.Shelf
import Mmorpg.World.Ledger
import Mmorpg.World.LedgerTasks
import Mmorpg.World.Conservation
import Mmorpg.World.Lively
import Mmorpg.World.Chain
import Mmorpg.World.Timed
import Mmorpg.World.Tempo
import Mmorpg.World.SingleChain
import Mmorpg.World.Accounts
import Mmorpg.World.AccountRuns
import Mmorpg.World.SessionView
import Mmorpg.World.SessionSteps
import Mmorpg.World.Handover
import Mmorpg.World.FollowUp
import Mmorpg.World.Station
import Mmorpg.World.Crossing
import Mmorpg.World.Placement
import Mmorpg.World.Ground
import Mmorpg.World.Boot
import Mmorpg.World.Outpost
import Mmorpg.World.Neighborhood
import Mmorpg.World.Footing
import Mmorpg.World.FootingRuns
import Mmorpg.World.LoginPosition
import Mmorpg.Client.Inventory
import Mmorpg.World.Stock
import Mmorpg.World.StockTasks
import Mmorpg.World.Mirror
import Mmorpg.World.MirrorRuns
import Mmorpg.Client.Display
import Mmorpg.Client.Players
import Mmorpg.Client.Receivers
import Mmorpg.Client.Link
import Mmorpg.Client.ZoneTransition
import Mmorpg.World.Scene
import Mmorpg.World.SceneTasks
import Mmorpg.World.Dressed
import Mmorpg.World.DressedTasks
import Mmorpg.World.DressedEntry
import Mmorpg.World.DressedRequests
import Mmorpg.World.DressedRuns
import Mmorpg.World.Residence
import Mmorpg.World.Approach
import Mmorpg.World.ArrivalRuns
import Mmorpg.World.Savings
import Mmorpg.World.SavingsTasks
import Mmorpg.World.Deposit
import Mmorpg.World.Admission
import Mmorpg.World.DepositRuns
import Mmorpg.World.Homecoming
