import Mathlib.Data.List.Basic
import Mathlib.Algebra.Group.Nat.Basic

/-
This file holds the sync module's messages and errors, and its `u64` arithmetic in a debug build.
-/

namespace Drand.Sync

/-- Bytes as the protobuf messages carry them. -/
abbrev Bytes := List UInt8

/-- The `Metadata` message, with the two fields the sync code reads. -/
structure Metadata where
  beaconId : String
  chainHash : Bytes
deriving DecidableEq, Repr

/-- The `BeaconPacket` message that `sync_chain` streams. -/
structure BeaconPacket where
  previousSignature : Bytes
  round : Nat
  signature : Bytes
  metadata : Option Metadata
deriving DecidableEq, Repr

/-- The `ChainInfoPacket` message that `chain_info` answers. -/
structure ChainInfoPacket where
  publicKey : Bytes
  period : Nat
  genesisTime : Int
  hash : Bytes
  groupHash : Bytes
  schemeId : String
  metadata : Option Metadata
deriving DecidableEq, Repr

/-- The `StartSyncRequest` message of a follow command. -/
structure StartSyncRequest where
  upTo : Nat
  nodes : List String
  metadata : Option Metadata
deriving DecidableEq, Repr

/-- The `SyncProgress` message; the syncer leaves its metadata empty. -/
structure SyncProgress where
  current : Nat
  target : Nat
deriving DecidableEq, Repr

/-- A gRPC status, with its numeric code. -/
structure Status where
  code : Nat
  message : String
deriving DecidableEq, Repr

/-- The status `Status::cancelled` builds: gRPC code 1. -/
def Status.cancelled (message : String) : Status := ⟨1, message⟩

/-- The item type of the progress channel of a follow. -/
abbrev SyncProgressResponse := Except Status SyncProgress

/-- The chain store's error, as it displays. -/
structure StoreError where
  message : String
deriving DecidableEq, Repr

/-- `SyncError`, with `TriedAllPers` spelled as the source spells it. -/
inductive SyncError where
  | invalidInfoPacket
  | infoPacketMismatch
  | alreadySyncing
  | peersInvalidFormat
  | failedInfoFromAllPeers
  | chainHashMismatch (details : String)
  | internal
  | chainStore (err : StoreError)
  | invalidTarget (fromRound target : Nat)
  | syncClosedTx
  | triedAllPers (last : Nat)
  | forbiddenToFollow
deriving DecidableEq, Repr

/-- The `Display` text that `thiserror` derives for each error. -/
def SyncError.toString : SyncError → String
  | .invalidInfoPacket => "received invalid info packet"
  | .infoPacketMismatch => "info packet is not compatible with existing configuration"
  | .alreadySyncing => "syncing is already in progress"
  | .peersInvalidFormat => "all peers should be in valid format"
  | .failedInfoFromAllPeers => "failed to get chain info from all peers"
  | .chainHashMismatch details => "chain hash mismatch: " ++ details
  | .internal => "internal: chain module in failed state"
  | .chainStore err => "chain store: " ++ err.message
  | .invalidTarget fromRound target =>
      "invalid follow request: from " ++ Nat.repr fromRound ++ " up_to " ++ Nat.repr target
  | .syncClosedTx => "sync channel closed unexpectedly"
  | .triedAllPers last => "tried all peers, latest received round " ++ Nat.repr last
  | .forbiddenToFollow => "`follow_request` allowed only for nodes without DKG setup"

/-- The lower-case hexadecimal text of `hex::encode`. -/
def hexEncode (bytes : Bytes) : String :=
  String.mk (bytes.flatMap fun byte => [Nat.digitChar (byte.toNat / 16), Nat.digitChar (byte.toNat % 16)])

/-- The `u64` sum `a + b` of a debug build: `none` is the panic on overflow. -/
def addU64 (a b : Nat) : Option Nat := if a + b < 2 ^ 64 then some (a + b) else none

/-- The `u64` difference `a - b` of a debug build: `none` is the panic on underflow. -/
def subU64 (a b : Nat) : Option Nat := if b ≤ a then some (a - b) else none

@[simp] theorem addU64_eq_some {a b c : Nat} : addU64 a b = some c ↔ a + b < 2 ^ 64 ∧ a + b = c := by
  unfold addU64
  by_cases fits : a + b < 2 ^ 64
  · rw [if_pos fits, Option.some.injEq]
    exact ⟨fun sum => ⟨fits, sum⟩, And.right⟩
  · rw [if_neg fits]
    exact ⟨nofun, fun sum => absurd sum.1 fits⟩

@[simp] theorem addU64_eq_none {a b : Nat} : addU64 a b = none ↔ 2 ^ 64 ≤ a + b := by
  unfold addU64
  by_cases fits : a + b < 2 ^ 64
  · rw [if_pos fits]
    exact ⟨nofun, fun big => absurd fits (Nat.not_lt.mpr big)⟩
  · rw [if_neg fits]
    exact ⟨fun _ => Nat.not_lt.mp fits, fun _ => rfl⟩

@[simp] theorem subU64_eq_some {a b c : Nat} : subU64 a b = some c ↔ b ≤ a ∧ a - b = c := by
  unfold subU64
  by_cases le : b ≤ a
  · rw [if_pos le, Option.some.injEq]
    exact ⟨fun difference => ⟨le, difference⟩, And.right⟩
  · rw [if_neg le]
    exact ⟨nofun, fun difference => absurd difference.1 le⟩

@[simp] theorem subU64_eq_none {a b : Nat} : subU64 a b = none ↔ a < b := by
  unfold subU64
  by_cases le : b ≤ a
  · rw [if_pos le]
    exact ⟨nofun, fun lt => absurd le (Nat.not_le.mpr lt)⟩
  · rw [if_neg le]
    exact ⟨fun _ => Nat.not_le.mp le, fun _ => rfl⟩

/-- Below the `u64` bound the sum does not panic. -/
theorem addU64_of_lt {a b : Nat} (fits : a + b < 2 ^ 64) : addU64 a b = some (a + b) :=
  if_pos fits

/-- A difference that does not underflow does not panic. -/
theorem subU64_of_le {a b : Nat} (le : b ≤ a) : subU64 a b = some (a - b) :=
  if_pos le

end Drand.Sync
