import DrandSync.Construction.Follow
import Mathlib.Data.List.Perm.Basic

/-
This file models the set-up of a follow: `start_follow_chain` and `DefaultSyncer::from_config`.
-/

namespace Drand.Sync

variable {Addr B Key Sig α : Type}

/-- One swap of the shuffle: the element at `i` trades places with the drawn `j ≤ i`. -/
def shuffleStep (shuffled : List α) (next : α) (j : Nat) : List α :=
  match shuffled[j]? with
  | some displaced => shuffled.set j next ++ [displaced]
  | none => shuffled ++ [next]

/-- The shuffle from position `i` on, after the elements `shuffled` before it. -/
def shuffleFrom (draws : Nat → Nat) : Nat → List α → List α → List α
  | _, shuffled, [] => shuffled
  | i, shuffled, next :: rest => shuffleFrom draws (i + 1) (shuffleStep shuffled next (draws i % (i + 1))) rest

/-- `peers.shuffle(&mut rand::rng())`, a Fisher–Yates shuffle whose draws are an oracle. -/
def shuffle (draws : Nat → Nat) (xs : List α) : List α := shuffleFrom draws 0 [] xs

/-- `chain_info_from_peers`: the first peer whose packet names the beacon id. -/
def chainInfoFromPeers (net : Network Addr) (beaconId : String) :
    List Addr → List (Event Addr B) → Except SyncError ChainInfoPacket × List (Event Addr B)
  | [], events => (.error .failedInfoFromAllPeers, events)
  | peer :: peers, events =>
    let opened := net.publicClient peer
    let events := events ++ [.newPublicClient peer opened]
    if !opened then chainInfoFromPeers net beaconId peers events else
    let answer := net.chainInfo peer beaconId
    let events := events ++ [.chainInfo peer beaconId answer]
    match answer with
    | .error _ => chainInfoFromPeers net beaconId peers events
    | .ok packet =>
      match packet.metadata with
      | none => chainInfoFromPeers net beaconId peers events
      | some metadata =>
        if metadata.beaconId = beaconId then (.ok packet, events)
        else chainInfoFromPeers net beaconId peers events

/-- `DefaultSyncerConfig`: what `start_follow_chain` hands to `DefaultSyncer::from_config`. -/
structure DefaultSyncerConfig (Addr B : Type) where
  store : ChainStore Addr B
  packet : ChainInfoPacket
  beaconId : String
  peers : List Addr

/-- The details of `ChainHashMismatch`: both hashes in hexadecimal. -/
def hashMismatchDetails (hash groupHash : Bytes) : String :=
  "rcv(" ++ hexEncode hash ++ ") != bp(" ++ hexEncode groupHash ++ ")"

/-- `start_follow_chain`; `none` is the panic of `expect` on a request without metadata. -/
def startFollowChain (precheck : String → Option Addr)
    (hashPacket : ChainInfoPacket → String → Bytes) (draws : Nat → Nat) (net : Network Addr)
    (req : StartSyncRequest) (beaconId : String) (store : ChainStore Addr B) :
    Option (Except SyncError (DefaultSyncerConfig Addr B)) × List (Event Addr B) :=
  let peers := req.nodes.filterMap precheck
  if peers.isEmpty then (some (.error .peersInvalidFormat), []) else
  let peers := shuffle draws peers
  match chainInfoFromPeers net beaconId peers [] with
  | (.error err, events) => (some (.error err), events)
  | (.ok packet, events) =>
    let hash := hashPacket packet beaconId
    match req.metadata with
    | none => (none, events)
    | some metadata =>
      if hash ≠ metadata.chainHash then
        (some (.error (.chainHashMismatch (hashMismatchDetails hash packet.groupHash))), events)
      else
        let genesis := store.checkGenesis events packet.groupHash
        let events := events ++ [.checkGenesis packet.groupHash genesis.toBool]
        match genesis with
        | .error err => (some (.error (.chainStore err)), events)
        | .ok () => (some (.ok ⟨store, packet, beaconId, peers⟩), events)

/-- `DefaultSyncerConfig::chain_info_from_packet`. -/
def DefaultSyncerConfig.chainInfoFromPacket (scheme : Scheme Key Sig)
    (config : DefaultSyncerConfig Addr B) : Except SyncError (ChainInfo Key) :=
  match scheme.infoFromPacket config.packet config.beaconId with
  | none => .error .invalidInfoPacket
  | some info => .ok info

/-- `DefaultSyncer::from_config`: the node's scheme, and a chain info built from the packet. -/
def DefaultSyncer.fromConfig (scheme : Scheme Key Sig) (config : DefaultSyncerConfig Addr B) :
    Except SyncError (DefaultSyncer Addr B Key) :=
  if config.packet.schemeId ≠ scheme.id then .error .invalidInfoPacket else
  match scheme.infoFromPacket config.packet config.beaconId with
  | none => .error .invalidInfoPacket
  | some info => .ok ⟨config.store, info, config.peers⟩

end Drand.Sync
