import DrandSync.Construction.Messages
import DrandSync.Construction.World
import DrandSync.Construction.Follow
import DrandSync.Construction.Resync
import DrandSync.Construction.Start
import DrandSync.Construction.HandleReSync
import DrandSync.Proof.FollowRun
import DrandSync.Proof.FollowVerified
import DrandSync.Proof.FollowOutcome
import DrandSync.Proof.FollowProgress
import DrandSync.Proof.ResyncRun
import DrandSync.Proof.ResyncOutcome
import DrandSync.Proof.Simulation
import DrandSync.Proof.Failover
import DrandSync.Proof.Bounds
import DrandSync.Proof.ChainInfo
import DrandSync.Proof.StartGates
import DrandSync.Proof.FollowSession
import DrandSync.Proof.FollowLog
import DrandSync.Proof.FollowStore
import DrandSync.Proof.HonestPeer
import DrandSync.Proof.FollowReach
