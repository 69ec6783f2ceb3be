import Opsia.ApiServer.Matchmaker
import Opsia.BestFirst
import Opsia.BitField
import Opsia.BotBrain.ExactNumber
import Opsia.BotBrain.GridWalk
import Opsia.BotBrain.IndexAgreement
import Opsia.BotBrain.ObstacleBox
import Opsia.BotBrain.OpenList
import Opsia.BotBrain.PathOptimal
import Opsia.BotBrain.PathSearch
import Opsia.BotBrain.SpatialIndex
import Opsia.BotBrain.Throws
import Opsia.BotRunner.Exclusivity
import Opsia.BotRunner.Population
import Opsia.BotRunner.Runner
import Opsia.BotRunner.Updates
import Opsia.Candidate.Chain
import Opsia.Candidate.ReadBack
import Opsia.Game.Bookkeeping
import Opsia.Game.ClientBarn
import Opsia.Game.Lockout
import Opsia.Game.Ownership
import Opsia.Game.PlayerBarn
import Opsia.Game.References
import Opsia.Game.Rejoining
import Opsia.Game.Reseeding
import Opsia.Gateway.Ages
import Opsia.Gateway.BitStream
import Opsia.Gateway.BufferHistory
import Opsia.Gateway.Duplicates
import Opsia.Gateway.JoinMsg
import Opsia.Gateway.Nonces
import Opsia.Gateway.Receive
import Opsia.Gateway.Reconciliation
import Opsia.Gateway.Recovery
import Opsia.Gateway.Replay
import Opsia.Gateway.Retry
import Opsia.Gateway.RoomSessions
import Opsia.Gateway.Sockets
import Opsia.Gateway.Upstreams
import Opsia.Gateway.Wire
import Opsia.HoleHeap
import Opsia.JournalPaging
import Opsia.KeyedMerge
import Opsia.LatticeWalk
import Opsia.Manager.Capacity
import Opsia.Manager.ResetIsolation
import Opsia.Manager.Room
import Opsia.OpsConsole.AdmissionVerdict
import Opsia.OpsConsole.FailureScenarios
import Opsia.OpsConsole.RunIdentity
import Opsia.Orchestrator.CanarySoundness
import Opsia.Orchestrator.Contexts
import Opsia.Orchestrator.Coordinator
import Opsia.Orchestrator.Driver
import Opsia.Orchestrator.ExpositionRoundTrip
import Opsia.Orchestrator.Fleet
import Opsia.Orchestrator.FleetMutations
import Opsia.Orchestrator.HandoffStatus
import Opsia.Orchestrator.MetricGates
import Opsia.Orchestrator.Outbox
import Opsia.Orchestrator.ReleaseGate
import Opsia.Orchestrator.Rollout
import Opsia.Orchestrator.RolloutSoundness
import Opsia.Orchestrator.TemplateRestore
import Opsia.Orchestrator.WorkloadDiscovery
import Opsia.Snapshot.CanonicalEquality
import Opsia.Snapshot.Wakeup
import Opsia.Store.Authority
import Opsia.Store.Coherence
import Opsia.Store.Freshness
import Opsia.Store.JournalChain
import Opsia.Store.LateSeeding
import Opsia.Store.Players
import Opsia.Store.Takeover
import Opsia.Turnstile
