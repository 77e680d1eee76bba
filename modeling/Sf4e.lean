import Sf4e.Trace.LTS
import Sf4e.Session.Protocol
import Sf4e.Session.Server
import Sf4e.Session.ServerEvents
import Sf4e.Session.ServerRun
import Sf4e.Session.Channel
import Sf4e.Session.Rematch
import Sf4e.Match.Setup
import Sf4e.Match.Frozen
import Sf4e.Match.FreshKeys
import Sf4e.Match.PendingStart
import Sf4e.Match.StageIndex
import Sf4e.Rollback.SlotOwnership
import Sf4e.Rollback.Transparent
import Sf4e.Ggpo.Session
import Sf4e.Relay.Stale
import Sf4e.Session.Stranding
import Sf4e.Session.ReadyRequest
import Sf4e.Session.Attribution
import Sf4e.Session.Forwarding
import Sf4e.Session.Teardown
import Sf4e.Rollback.HashRing
import Sf4e.Broker.Agreement
import Sf4e.Service.Recovery
import Sf4e.Broker.Ports
import Sf4e.Service.Answers
import Sf4e.Broker.HostIntegrity
import Sf4e.Broker.Matchmaking
import Sf4e.Broker.RateLimit
import Sf4e.Dashboard.Login
import Sf4e.Manager.StartContract
import Sf4e.Transport.Endpoint
import Sf4e.Transport.Agreement
import Sf4e.Rollback.MementoOwnership
import Sf4e.Rollback.SoundPool
import Sf4e.Rollback.TaskHandles
import Sf4e.Rollback.SoundReconcile
import Sf4e.Netplay.RoomLoss
import Sf4e.Netplay.SyncWatch
import Sf4e.Netplay.Frames
import Sf4e.Netplay.GateTrace
import Sf4e.Desync.Peers
import Sf4e.Desync.Matches
import Sf4e.Desync.Isolation
import Sf4e.Desync.SnapshotExchange
import Sf4e.Relay.Distinct
import Sf4e.Relay.Pairing
import Sf4e.Session.Tunnel
import Sf4e.Relay.Codec
import Sf4e.Ggpo.UdpMsg
import Sf4e.Session.Results
import Sf4e.Session.UnknownTypes
import Sf4e.Launcher.Coherence
import Sf4e.Launcher.RoomCode
import Sf4e.Update.DownloadUrl
import Sf4e.Update.Apply
import Sf4e.Netplay.Pacing
import Sf4e.Diagnostics.Summary
import Sf4e.Launcher.DirectCode
import Sf4e.Transport.NatProbe
import Sf4e.Update.Version
import Sf4e.Launcher.DisplayName
import Sf4e.Launcher.ExternalUrl
import Sf4e.Desync.StateHash
import Sf4e.Session.Replica
import Sf4e.Session.Encoding
import Sf4e.Session.RelayLoop
import Sf4e.Relay.Loop
import Sf4e.Session.Identity
import Sf4e.Dashboard.Sessions
import Sf4e.Session.Settings
import Sf4e.Broker.Endpoints
import Sf4e.Broker.Replies
import Sf4e.Broker.Renaming
import Sf4e.Broker.Secrecy
import Sf4e.Broker.Bodies
