import DrandSync.Construction.Messages

/-
This file holds what the sync code calls but does not define, as oracles that record each call.
-/

namespace Drand.Sync

/-- Modelled from the spec: the store's `BeaconRepr`, which keeps a packet's round and signature. -/
class BeaconRepr (B : Type) where
  fromPacket : BeaconPacket → B
  round : B → Nat
  signature : B → Bytes
  round_fromPacket (p : BeaconPacket) : round (fromPacket p) = p.round
  signature_fromPacket (p : BeaconPacket) : signature (fromPacket p) = p.signature

attribute [simp] BeaconRepr.round_fromPacket BeaconRepr.signature_fromPacket

/-- Modelled from the spec: a chained beacon as the store keeps it. -/
structure Beacon where
  previousSignature : Bytes
  round : Nat
  signature : Bytes
deriving DecidableEq, Repr

instance : BeaconRepr Beacon where
  fromPacket p := ⟨p.previousSignature, p.round, p.signature⟩
  round beacon := beacon.round
  signature beacon := beacon.signature
  round_fromPacket _ := rfl
  signature_fromPacket _ := rfl

/-- The fields of `ChainInfo<S>` that the syncer reads. -/
structure ChainInfo (Key : Type) where
  beaconId : String
  publicKey : Key

/-- The scheme `S`: id, `Affine::deserialize`, `ChainInfo::from_packet`, `is_valid_signature`. -/
structure Scheme (Key Sig : Type) where
  id : String
  deserialize : Bytes → Option Sig
  infoFromPacket : ChainInfoPacket → String → Option (ChainInfo Key)
  isValidSignature : Key → Bytes → Nat → Sig → Bool

/-- The answers of `stream.message()` in order; `none` ends the stream. It need not end. -/
abbrev BeaconStream := Nat → Option BeaconPacket

/-- The calls a sync session makes to the world, each with its answer. -/
inductive Event (Addr B : Type) where
  | storeLast
  | newClient (peer : Addr) (opened : Bool)
  | syncChain (peer : Addr) (fromRound : Nat) (beaconId : String) (opened : Bool)
  | message (peer : Addr) (received : Option BeaconPacket)
  | put (beacon : B) (stored : Bool)
  | sendProgress (response : SyncProgressResponse) (delivered : Bool)
  | sendSynced (packet : BeaconPacket) (delivered : Bool)
  | newPublicClient (peer : Addr) (opened : Bool)
  | chainInfo (peer : Addr) (beaconId : String) (answer : Except Status ChainInfoPacket)
  | checkGenesis (groupHash : Bytes) (passed : Bool)

/-- The peers as `ProtocolClient` and `PublicClient` reach them. -/
structure Network (Addr : Type) where
  protocolClient : Addr → Bool
  syncChain : Addr → Nat → String → Option BeaconStream
  publicClient : Addr → Bool
  chainInfo : Addr → String → Except Status ChainInfoPacket

/-- The chain store `ChainStore<B>`; each answer may depend on all the session did before. -/
structure ChainStore (Addr B : Type) where
  last : Except StoreError B
  put : List (Event Addr B) → B → Except StoreError Unit
  checkGenesis : List (Event Addr B) → Bytes → Except StoreError Unit

/-- The sending half of an `mpsc` channel: whether the receiver takes a message. -/
structure Channel (Addr B α : Type) where
  send : List (Event Addr B) → α → Bool

@[simp] theorem Except.toBool_ok {ε α : Type} (a : α) : (Except.ok a : Except ε α).toBool = true :=
  rfl

@[simp] theorem Except.toBool_error {ε α : Type} (e : ε) :
    (Except.error e : Except ε α).toBool = false :=
  rfl

/-- How awaiting a sync task's `JoinHandle` ends: with the task's result, or with a panic. -/
inductive Joined where
  | returned (result : Except SyncError Unit)
  | panicked

/-- How the checks of a stream loop judge a packet: skip the peer, panic, or take it. -/
inductive Verdict where
  | skip
  | panic
  | accept
deriving DecidableEq, Repr

/-- How one pass of a `'peers` loop ends: on to the next peer, or out of the task. -/
inductive Exit where
  | nextPeer
  | ended (joined : Joined)

end Drand.Sync
