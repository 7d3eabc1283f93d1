import DrandSync.Proof.StartGates
import DrandSync.Proof.FollowOutcome

/-
This file follows one request from `start_follow_chain` through `process_follow_request`.
-/

namespace Drand.Sync

open BeaconRepr

variable {Addr B Key Sig : Type} [BeaconRepr B]

section Session

variable (precheck : String → Option Addr) (hashPacket : ChainInfoPacket → String → Bytes)
  (draws : Nat → Nat) (net : Network Addr) (req : StartSyncRequest) (beaconId : String)
  (store : ChainStore Addr B) (scheme : Scheme Key Sig) (tx : Channel Addr B SyncProgressResponse)
  (target : Nat)

/-- A follow set up from a request verifies under the chain its hash names, and asks its peers. -/
theorem followSession_pinned {metadata : Metadata} (hasMetadata : req.metadata = some metadata)
    {config : DefaultSyncerConfig Addr B}
    (started : (startFollowChain precheck hashPacket draws net req beaconId store).1 =
      some (.ok config))
    {syncer : DefaultSyncer Addr B Key} (built : DefaultSyncer.fromConfig scheme config = .ok syncer)
    (fits : target < 2 ^ 64) {tail : B} (stored : store.last = .ok tail) :
    hashPacket config.packet beaconId = metadata.chainHash ∧
      scheme.infoFromPacket config.packet beaconId = some syncer.info ∧
      (∀ peer ∈ clientCalls (syncer.processFollowRequest scheme tx target net).2,
        peer ∈ req.nodes.filterMap precheck) ∧
      ∃ ps, putCalls (syncer.processFollowRequest scheme tx target net).2 = ps.map fromPacket ∧
        syncer.VerifiedChain scheme target tail ps := by
  obtain ⟨-, -, sameHash, -, -, sameStore, sameId, shuffled⟩ :=
    startFollowChain_eq_ok precheck hashPacket draws net req beaconId store hasMetadata started
  obtain ⟨-, info, syncerStore, syncerPeers⟩ := DefaultSyncer.fromConfig_eq_ok built
  have syncerTail : syncer.store.last = .ok tail := by rw [syncerStore, sameStore, stored]
  refine ⟨sameHash, sameId ▸ info, fun peer called => ?_,
    syncer.processFollowRequest_puts scheme tx target net syncerTail⟩
  have asked := (syncer.processFollowRequest_clientCalls scheme tx target net fits).subset called
  rw [syncerPeers, shuffled] at asked
  exact (shuffle_perm draws _).subset asked

end Session

/-- The scheme of the sample world, which also builds a chain info from every packet. -/
def sampleInfoScheme : Scheme Unit Unit :=
  ⟨"pedersen-bls-chained", fun _ => some (), fun _ beaconId => some ⟨beaconId, ()⟩,
    fun _ _ _ _ => true⟩

theorem followSession_pinned_sample : ∃ config syncer,
    sampleRequest.metadata = some ⟨"default", []⟩ ∧
      (startFollowChain some (fun _ _ => []) (fun _ => 0) sampleInfoNetwork sampleRequest "default"
        sampleSyncer.store).1 = some (.ok config) ∧
      DefaultSyncer.fromConfig sampleInfoScheme config = .ok syncer ∧ 15 < 2 ^ 64 ∧
      sampleSyncer.store.last = .ok ⟨[], 10, []⟩ ∧
      (fun _ _ => []) config.packet "default" = (⟨"default", []⟩ : Metadata).chainHash ∧
      sampleInfoScheme.infoFromPacket config.packet "default" = some syncer.info ∧
      (∀ peer ∈ clientCalls (syncer.processFollowRequest sampleInfoScheme sampleProgress 15
          sampleInfoNetwork).2, peer ∈ sampleRequest.nodes.filterMap some) ∧
      ∃ ps, putCalls (syncer.processFollowRequest sampleInfoScheme sampleProgress 15
          sampleInfoNetwork).2 = ps.map fromPacket ∧
        syncer.VerifiedChain sampleInfoScheme 15 ⟨[], 10, []⟩ ps :=
  ⟨_, _, rfl, rfl, rfl, by decide, rfl,
    followSession_pinned some (fun _ _ => []) (fun _ => 0) sampleInfoNetwork sampleRequest "default"
      sampleSyncer.store sampleInfoScheme sampleProgress 15 rfl rfl rfl (by decide) rfl⟩

end Drand.Sync
