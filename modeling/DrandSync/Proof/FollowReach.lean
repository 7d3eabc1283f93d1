import DrandSync.Proof.HonestPeer

/-
This file proves that a node following one chain through honest peers ends holding that chain.
-/

namespace Drand.Sync

open BeaconRepr

variable {Addr B Key Sig : Type} [BeaconRepr B]

/-- A request that completes on `chain`: its store and receiver take all, and a peer serves it. -/
structure FollowRequest.Served (info : ChainInfo Key) (top : Nat) (chain : Nat → BeaconPacket)
    (request : FollowRequest Addr B) : Prop where
  within : request.target ≤ top
  stores : ∀ history beacon, request.backend.put history beacon = .ok ()
  reports : ∀ history response, request.tx.send history response = true
  served : ∃ peer ∈ request.peers, ServesChain request.net info.beaconId request.target chain peer

/-- The rounds after `start` up to `reached`, each with the chain's signature of that round. -/
def chainEntries (chain : Nat → BeaconPacket) (start reached : Nat) : List (Nat × Bytes) :=
  (List.range' (start + 1) (reached - start)).map fun r => (r, (chain r).signature)

theorem chainEntries_append (chain : Nat → BeaconPacket) {start middle reached : Nat}
    (first : start ≤ middle) (second : middle ≤ reached) :
    chainEntries chain start middle ++ chainEntries chain middle reached =
      chainEntries chain start reached := by
  have joined := List.range'_append_1 (start + 1) (middle - start) (reached - middle)
  rw [show start + 1 + (middle - start) = middle + 1 by omega,
    show reached - middle + (middle - start) = reached - start by omega] at joined
  simp only [chainEntries, ← List.map_append, joined]

/-- The chain from a beacon on it, up to a round at most `top`, is the chain from that beacon. -/
theorem Canonical.mono {scheme : Scheme Key Sig} {info : ChainInfo Key} {genesis tail : B}
    {top target : Nat} {chain : Nat → BeaconPacket}
    (canonical : Canonical scheme info genesis top chain)
    (onChain : OnChain chain genesis tail) (within : target ≤ top) :
    Canonical scheme info tail target chain := by
  have after := onChain.1
  exact ⟨onChain.2.symm, fun r later atMost => canonical.rounds r (by omega) (by omega),
    fun r later atMost => canonical.named r (by omega) (by omega),
    fun r later atMost => canonical.signed r (by omega) (by omega)⟩

/-- The tail after beacons of packets are taken is the beacon of the last of them. -/
theorem MemoryStore.tail_append (genesis : B) (beacons : List B) (ps : List BeaconPacket) :
    (⟨genesis, beacons ++ ps.map (fromPacket : BeaconPacket → B)⟩ : MemoryStore B).tail =
      lastStoredAfter (⟨genesis, beacons⟩ : MemoryStore B).tail ps := by
  rw [lastStoredAfter_eq_getLast]
  cases last : (ps.map (fromPacket : BeaconPacket → B)).getLast? <;>
    simp [MemoryStore.tail, last]

/-- The memory holds the chain up to the round `reached`, and its tail is on the chain. -/
structure MemoryStore.Reached (chain : Nat → BeaconPacket) (memory : MemoryStore B)
    (reached : Nat) : Prop where
  entries : memory.entries = chainEntries chain (round memory.genesis) reached
  tailRound : round memory.tail = reached
  onChain : OnChain chain memory.genesis memory.tail

section Reach

variable (scheme : Scheme Key Sig) (info : ChainInfo Key) {top : Nat}
  {chain : Nat → BeaconPacket}

/-- One served request takes the memory up to the larger of `reached` and its target. -/
theorem MemoryStore.follow_reached (unique : scheme.UniqueSignatures info.publicKey)
    (fits : top < 2 ^ 64) {memory : MemoryStore B}
    (canonical : Canonical scheme info memory.genesis top chain) {reached : Nat}
    (holds : memory.Reached chain reached) {request : FollowRequest Addr B}
    (served : request.Served info top chain) :
    (memory.follow scheme info request).2.Reached chain (max reached request.target) := by
  obtain ⟨genesis, beacons⟩ := memory
  obtain ⟨entries, tailRound, onChain⟩ := holds
  let syncer : DefaultSyncer Addr B Key :=
    ⟨{ request.backend with last := .ok (⟨genesis, beacons⟩ : MemoryStore B).tail }, info,
      request.peers⟩
  have reads : syncer.store.last = .ok (⟨genesis, beacons⟩ : MemoryStore B).tail := rfl
  rcases Nat.lt_or_ge reached request.target with below | atLeast
  · obtain ⟨peer, listed, serves⟩ := served.served
    have fromTail := canonical.mono onChain served.within
    obtain ⟨-, ps, stored, verified, lastRound⟩ := syncer.processFollowRequest_reaches scheme
      request.tx request.target request.net unique served.stores served.reports reads
      (tailRound ▸ below) (by have := served.within; omega) fromTail listed serves
    have tailOnChain : OnChain chain (⟨genesis, beacons⟩ : MemoryStore B).tail
        (⟨genesis, beacons⟩ : MemoryStore B).tail := ⟨le_rfl, onChain.2⟩
    have moved := verified.onChain syncer scheme request.target unique fromTail tailOnChain
    have added := verified.entries syncer scheme request.target unique fromTail tailOnChain
    have length := (verified.signedChain scheme).round_lastStoredAfter scheme info
    rw [Nat.max_eq_right below.le]
    simp only [MemoryStore.follow, stored]
    have newTail := MemoryStore.tail_append genesis beacons ps
    refine ⟨?_, by rw [newTail]; exact lastRound,
      by rw [newTail]; exact ⟨onChain.1.trans moved.1, moved.2⟩⟩
    rw [lastRound, tailRound] at length
    rw [← chainEntries_append chain (tailRound ▸ onChain.1) below.le, ← entries]
    simp only [MemoryStore.entries, List.map_append, List.map_map]
    congr 1
    rw [chainEntries, show request.target - reached = ps.length by omega, ← tailRound, ← added]
    simp [Function.comp_def]
  · have unchanged : syncer.processFollowRequest scheme request.tx request.target request.net =
        (.returned (.ok ()), [.storeLast]) :=
      syncer.processFollowRequest_of_le scheme request.tx request.target reads
        (tailRound ▸ atLeast)
    rw [Nat.max_eq_left atLeast]
    simp only [MemoryStore.follow, unchanged, storedBeacons_cons_storeLast, storedBeacons_nil,
      List.append_nil]
    exact ⟨entries, tailRound, onChain⟩

/-- A run of served requests takes the memory up to the largest target. -/
theorem MemoryStore.followAll_reached (unique : scheme.UniqueSignatures info.publicKey)
    (fits : top < 2 ^ 64) {requests : List (FollowRequest Addr B)}
    (served : ∀ request ∈ requests, request.Served info top chain) :
    ∀ {memory : MemoryStore B} {reached : Nat}, Canonical scheme info memory.genesis top chain →
      memory.Reached chain reached →
      (memory.followAll scheme info requests).Reached chain
        (requests.foldl (fun reached request => max reached request.target) reached) := by
  induction requests with
  | nil => exact fun _ holds => holds
  | cons request requests ih =>
    intro memory reached canonical holds
    exact ih (fun other listed => served other (List.mem_cons_of_mem _ listed)) canonical
      (MemoryStore.follow_reached scheme info unique fits canonical holds
        (served request (List.mem_cons_self _ _)))

/-- Followers of one chain with honest peers end holding its signatures up to the largest target. -/
theorem MemoryStore.followAll_reaches (unique : scheme.UniqueSignatures info.publicKey)
    (fits : top < 2 ^ 64) {genesis : B} (canonical : Canonical scheme info genesis top chain)
    {requests : List (FollowRequest Addr B)}
    (served : ∀ request ∈ requests, request.Served info top chain) :
    ((⟨genesis, []⟩ : MemoryStore B).followAll scheme info requests).entries =
      chainEntries chain (round genesis)
        (requests.foldl (fun reached request => max reached request.target) (round genesis)) := by
  have start : (⟨genesis, []⟩ : MemoryStore B).Reached chain (round genesis) :=
    ⟨by simp [MemoryStore.entries, chainEntries], rfl,
      ⟨le_rfl, canonical.tailSignature.symm⟩⟩
  have run := MemoryStore.followAll_reached scheme info unique fits served canonical start
  rw [run.entries, MemoryStore.followAll_genesis]

end Reach

/-- Two requests up to rounds 15 and 12, from `P1`, which lies, and `P2`, which serves the chain. -/
def sampleHonestRequests : List (FollowRequest String Beacon) :=
  [⟨["P1", "P2"], 15, sampleHonestNetwork, sampleProgress, sampleHonestSyncer.store⟩,
    ⟨["P1", "P2"], 12, sampleHonestNetwork, sampleProgress, sampleHonestSyncer.store⟩]

theorem followAll_reaches_sample :
    sampleUniqueScheme.UniqueSignatures sampleHonestSyncer.info.publicKey ∧ 15 < 2 ^ 64 ∧
      Canonical sampleUniqueScheme sampleHonestSyncer.info (⟨[], 10, sampleSignature 10⟩ : Beacon)
        15 sampleChain ∧
      (∀ request ∈ sampleHonestRequests, request.Served sampleHonestSyncer.info 15 sampleChain) ∧
      ((⟨⟨[], 10, sampleSignature 10⟩, []⟩ : MemoryStore Beacon).followAll sampleUniqueScheme
          sampleHonestSyncer.info sampleHonestRequests).entries =
        chainEntries sampleChain 10
          (sampleHonestRequests.foldl (fun reached request => max reached request.target) 10) := by
  have served : ∀ request ∈ sampleHonestRequests,
      request.Served sampleHonestSyncer.info 15 sampleChain := by
    intro request listed
    simp only [sampleHonestRequests, List.mem_cons, List.mem_singleton, List.not_mem_nil,
      or_false] at listed
    rcases listed with rfl | rfl <;>
      exact ⟨by decide, fun _ _ => rfl, fun _ _ => rfl,
        ⟨"P2", by decide, sampleHonestNetwork_servesChain _⟩⟩
  exact ⟨sampleUniqueScheme_unique, by decide, sampleChain_canonical, served,
    MemoryStore.followAll_reaches sampleUniqueScheme sampleHonestSyncer.info
      sampleUniqueScheme_unique (by decide) sampleChain_canonical served⟩

end Drand.Sync
