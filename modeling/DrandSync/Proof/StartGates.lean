import DrandSync.Proof.ChainInfo
import DrandSync.Proof.FollowVerified

/-
This file proves that a follow starts only from a packet that passed every gate of its set-up.
-/

namespace Drand.Sync

open scoped List

variable {Addr B Key Sig α : Type}

/-- One swap keeps every element. -/
theorem shuffleStep_perm (shuffled : List α) (next : α) (j : Nat) :
    (shuffleStep shuffled next j).Perm (shuffled ++ [next]) := by
  unfold shuffleStep
  split
  · rename_i displaced found
    obtain ⟨inside, rfl⟩ := List.getElem?_eq_some_iff.mp found
    rw [List.set_eq_take_append_cons_drop, if_pos inside]
    conv_rhs => rw [← List.take_append_drop j shuffled, List.drop_eq_getElem_cons inside]
    simp only [List.append_assoc, List.cons_append]
    refine List.Perm.append_left _ ?_
    calc next :: (shuffled.drop (j + 1) ++ [shuffled[j]])
        _ ~ next :: shuffled[j] :: shuffled.drop (j + 1) := (List.perm_append_singleton _ _).cons _
        _ ~ shuffled[j] :: next :: shuffled.drop (j + 1) := List.Perm.swap _ _ _
        _ ~ shuffled[j] :: (shuffled.drop (j + 1) ++ [next]) :=
          (List.perm_append_singleton _ _).symm.cons _
  · exact List.Perm.refl _

theorem shuffleFrom_perm (draws : Nat → Nat) (i : Nat) (shuffled xs : List α) :
    (shuffleFrom draws i shuffled xs).Perm (shuffled ++ xs) := by
  induction xs generalizing i shuffled with
  | nil => simp [shuffleFrom]
  | cons next rest ih =>
    calc shuffleFrom draws i shuffled (next :: rest)
        _ ~ shuffleStep shuffled next (draws i % (i + 1)) ++ rest := ih _ _
        _ ~ shuffled ++ [next] ++ rest := (shuffleStep_perm _ _ _).append_right _
        _ = shuffled ++ next :: rest := by simp

/-- Whatever the draws, the shuffle reorders the list. -/
theorem shuffle_perm (draws : Nat → Nat) (xs : List α) : (shuffle draws xs).Perm xs := by
  simpa using shuffleFrom_perm draws 0 [] xs

/-- A call of `chain_info_from_peers`: a public client, or a chain info request. -/
def Event.isInfoCall : Event Addr B → Bool
  | .newPublicClient .. | .chainInfo .. => true
  | _ => false

/-- The calls to one peer are calls of `chain_info_from_peers`. -/
theorem infoCalls_isInfoCall {net : Network Addr} {beaconId : String} {peer : Addr} :
    ∀ event ∈ (infoCalls net beaconId peer : List (Event Addr B)), event.isInfoCall = true := by
  unfold infoCalls
  split <;> simp [Event.isInfoCall]

/-- The search only asks chain infos, and returns a packet of a peer naming the beacon id. -/
theorem chainInfoFromPeers_run {net : Network Addr} {beaconId : String} {peers : List Addr}
    {events events' : List (Event Addr B)} {result : Except SyncError ChainInfoPacket}
    (run : chainInfoFromPeers net beaconId peers events = (result, events')) :
    ∃ added, events' = events ++ added ∧ (∀ event ∈ added, event.isInfoCall = true) ∧
      ∀ packet, result = .ok packet →
        peers ≠ [] ∧ ∃ metadata, packet.metadata = some metadata ∧ metadata.beaconId = beaconId := by
  have tried : ∀ qs : List Addr,
      ∀ event ∈ (qs.map (infoCalls net beaconId)).flatten, (event : Event Addr B).isInfoCall = true := by
    intro qs event listed
    obtain ⟨_, calls, listed⟩ := List.mem_flatten.mp listed
    obtain ⟨q, -, rfl⟩ := List.mem_map.mp calls
    exact infoCalls_isInfoCall event listed
  rcases @chainInfoFromPeers_cases Addr B net beaconId peers events with
    ⟨pre, peer, post, found, rfl, -, accepted, ran⟩ | ⟨-, ran⟩ <;> rw [ran] at run <;> cases run
  · refine ⟨_, List.append_assoc _ _ _, fun event listed => ?_, ?_⟩
    · rcases List.mem_append.mp listed with earlier | last
      · exact tried pre event earlier
      · exact infoCalls_isInfoCall event last
    · rintro packet ⟨⟩
      exact ⟨by simp, accepted.2.2⟩
  · exact ⟨_, rfl, tried peers, nofun⟩

section Start

variable (precheck : String → Option Addr) (hashPacket : ChainInfoPacket → String → Bytes)
  (draws : Nat → Nat) (net : Network Addr) (req : StartSyncRequest) (beaconId : String)
  (store : ChainStore Addr B)

/-- With no address that passes the precheck, the set-up fails before any call. -/
theorem startFollowChain_of_nil (rejected : req.nodes.filterMap precheck = []) :
    startFollowChain precheck hashPacket draws net req beaconId store =
      (some (.error .peersInvalidFormat), []) := by
  simp [startFollowChain, rejected]

/-- When no peer gives the chain info, the set-up fails with the error of the search. -/
theorem startFollowChain_of_failed {err : SyncError} {events : List (Event Addr B)}
    (accepted : req.nodes.filterMap precheck ≠ [])
    (failed : chainInfoFromPeers net beaconId (shuffle draws (req.nodes.filterMap precheck)) [] =
      (.error err, events)) :
    startFollowChain precheck hashPacket draws net req beaconId store = (some (.error err), events) := by
  simp [startFollowChain, accepted, failed]

/-- Given the chain info, the set-up checks its hash, then the store's genesis. -/
theorem startFollowChain_of_fetched {metadata : Metadata} {packet : ChainInfoPacket}
    {events : List (Event Addr B)} (hasMetadata : req.metadata = some metadata)
    (fetched : chainInfoFromPeers net beaconId (shuffle draws (req.nodes.filterMap precheck)) [] =
      (.ok packet, events)) :
    startFollowChain precheck hashPacket draws net req beaconId store =
      if hashPacket packet beaconId ≠ metadata.chainHash then
        (some (.error (.chainHashMismatch
          (hashMismatchDetails (hashPacket packet beaconId) packet.groupHash))), events)
      else
        match store.checkGenesis events packet.groupHash with
        | .error err => (some (.error (.chainStore err)), events ++ [.checkGenesis packet.groupHash false])
        | .ok () => (some (.ok ⟨store, packet, beaconId, shuffle draws (req.nodes.filterMap precheck)⟩),
            events ++ [.checkGenesis packet.groupHash true]) := by
  obtain ⟨-, -, -, named⟩ := chainInfoFromPeers_run fetched
  have accepted : req.nodes.filterMap precheck ≠ [] := fun rejected =>
    (named packet rfl).1 (by simp [rejected, shuffle, shuffleFrom])
  simp only [startFollowChain, List.isEmpty_eq_false.mpr accepted, Bool.false_eq_true, ↓reduceIte,
    fetched, hasMetadata]
  split
  · rfl
  · cases store.checkGenesis events packet.groupHash <;> rfl

/-- A set-up that succeeds passed the hash and genesis checks on the shuffled peers' packet. -/
theorem startFollowChain_eq_ok {metadata : Metadata} (hasMetadata : req.metadata = some metadata)
    {config : DefaultSyncerConfig Addr B}
    (started : (startFollowChain precheck hashPacket draws net req beaconId store).1 =
      some (.ok config)) :
    ∃ events, chainInfoFromPeers net beaconId (shuffle draws (req.nodes.filterMap precheck)) [] =
        (.ok config.packet, events) ∧
      hashPacket config.packet beaconId = metadata.chainHash ∧
      store.checkGenesis events config.packet.groupHash = .ok () ∧
      (startFollowChain precheck hashPacket draws net req beaconId store).2 =
        events ++ [.checkGenesis config.packet.groupHash true] ∧
      config.store = store ∧ config.beaconId = beaconId ∧
      config.peers = shuffle draws (req.nodes.filterMap precheck) := by
  by_cases rejected : req.nodes.filterMap precheck = []
  · rw [startFollowChain_of_nil precheck hashPacket draws net req beaconId store rejected] at started
    cases started
  rcases fetched : chainInfoFromPeers net beaconId (shuffle draws (req.nodes.filterMap precheck))
    ([] : List (Event Addr B)) with ⟨_ | packet, events⟩
  · rw [startFollowChain_of_failed precheck hashPacket draws net req beaconId store rejected fetched]
      at started
    cases started
  rw [startFollowChain_of_fetched precheck hashPacket draws net req beaconId store hasMetadata fetched]
    at started ⊢
  split_ifs at started ⊢ with mismatch
  · cases started
  rcases genesis : store.checkGenesis events packet.groupHash with err | ⟨⟩
  · simp [genesis] at started
  simp only [genesis, Option.some.injEq, Except.ok.injEq] at started ⊢
  subst started
  exact ⟨events, rfl, not_not.mp mismatch, genesis, rfl, rfl, rfl, rfl⟩

/-- A syncer is built only for a packet of the node's scheme whose chain info builds. -/
theorem DefaultSyncer.fromConfig_eq_ok {scheme : Scheme Key Sig}
    {config : DefaultSyncerConfig Addr B} {syncer : DefaultSyncer Addr B Key}
    (built : DefaultSyncer.fromConfig scheme config = .ok syncer) :
    config.packet.schemeId = scheme.id ∧
      scheme.infoFromPacket config.packet config.beaconId = some syncer.info ∧
      syncer.store = config.store ∧ syncer.peers = config.peers := by
  unfold DefaultSyncer.fromConfig at built
  split_ifs at built with sameScheme
  split at built
  · cases built
  · rename_i info fromPacket
    cases built
    exact ⟨not_not.mp sameScheme, fromPacket, rfl, rfl⟩

/-- A follow is set up only from a packet that passed every gate, each failing as the code says. -/
theorem startFollowChain_gates {metadata : Metadata} (hasMetadata : req.metadata = some metadata) :
    (∀ config, (startFollowChain precheck hashPacket draws net req beaconId store).1 = some (.ok config) →
      config.peers.Perm (req.nodes.filterMap precheck) ∧ config.peers ≠ [] ∧
      (∃ metadata', config.packet.metadata = some metadata' ∧ metadata'.beaconId = beaconId) ∧
      hashPacket config.packet beaconId = metadata.chainHash ∧
      (∃ history, store.checkGenesis history config.packet.groupHash = .ok () ∧
        (startFollowChain precheck hashPacket draws net req beaconId store).2 =
          history ++ [.checkGenesis config.packet.groupHash true]) ∧
      config.beaconId = beaconId ∧ config.store = store) ∧
    (req.nodes.filterMap precheck = [] →
      startFollowChain precheck hashPacket draws net req beaconId store =
        (some (.error .peersInvalidFormat), [])) ∧
    (∀ packet events, chainInfoFromPeers net beaconId (shuffle draws (req.nodes.filterMap precheck)) [] =
        (.ok packet, events) → hashPacket packet beaconId ≠ metadata.chainHash →
      startFollowChain precheck hashPacket draws net req beaconId store =
        (some (.error (.chainHashMismatch
          (hashMismatchDetails (hashPacket packet beaconId) packet.groupHash))), events) ∧
      ∀ groupHash passed, .checkGenesis groupHash passed ∉ events) ∧
    (∀ (scheme : Scheme Key Sig) (config : DefaultSyncerConfig Addr B) syncer,
        DefaultSyncer.fromConfig scheme config = .ok syncer →
      config.packet.schemeId = scheme.id ∧
      scheme.infoFromPacket config.packet config.beaconId = some syncer.info ∧
      syncer.store = config.store ∧ syncer.peers = config.peers) := by
  refine ⟨fun config started => ?_, startFollowChain_of_nil precheck hashPacket draws net req beaconId store,
    fun packet events fetched mismatch => ?_, fun scheme config syncer built => ?_⟩
  · obtain ⟨events, fetched, sameHash, genesis, log, sameStore, sameId, shuffled⟩ :=
      startFollowChain_eq_ok precheck hashPacket draws net req beaconId store hasMetadata started
    obtain ⟨-, -, -, named⟩ := chainInfoFromPeers_run fetched
    rw [shuffled]
    exact ⟨shuffle_perm _ _, (named _ rfl).1, (named _ rfl).2, sameHash, ⟨events, genesis, log⟩,
      sameId, sameStore⟩
  · obtain ⟨added, rfl, infoCalls, -⟩ := chainInfoFromPeers_run fetched
    rw [startFollowChain_of_fetched precheck hashPacket draws net req beaconId store hasMetadata fetched,
      if_pos mismatch]
    exact ⟨rfl, fun groupHash passed mem => by simpa [Event.isInfoCall] using infoCalls _ mem⟩
  · exact DefaultSyncer.fromConfig_eq_ok built

end Start

/-- A request of the sample world, for the chain of the sample syncer up to round 15. -/
def sampleRequest : StartSyncRequest := ⟨15, ["P1", "P2"], some ⟨"default", []⟩⟩

/-- The sample world with peers that also answer the chain info of the default beacon. -/
def sampleInfoNetwork : Network String :=
  { sampleNetwork with
    chainInfo := fun _ _ => .ok ⟨[], 3, 0, [], [], "pedersen-bls-chained", some ⟨"default", []⟩⟩ }

/-- A request of the sample world whose chain hash no peer's packet has. -/
def sampleMismatchRequest : StartSyncRequest := ⟨15, ["P1", "P2"], some ⟨"default", [1]⟩⟩

theorem startFollowChain_gates_sample :
    (∃ config, (startFollowChain some (fun _ _ => []) (fun _ => 0) sampleInfoNetwork sampleRequest
      "default" sampleSyncer.store).1 = some (.ok config)) ∧
    (∃ details, (startFollowChain some (fun _ _ => []) (fun _ => 0) sampleInfoNetwork
      sampleMismatchRequest "default" sampleSyncer.store).1 =
        some (.error (.chainHashMismatch details))) ∧
    sampleRequest.metadata = some ⟨"default", []⟩ ∧
    ((∀ config, (startFollowChain some (fun _ _ => []) (fun _ => 0) sampleInfoNetwork sampleRequest
        "default" sampleSyncer.store).1 = some (.ok config) →
      config.peers.Perm (sampleRequest.nodes.filterMap some) ∧ config.peers ≠ [] ∧
      (∃ metadata', config.packet.metadata = some metadata' ∧ metadata'.beaconId = "default") ∧
      (fun _ _ => []) config.packet "default" = (⟨"default", []⟩ : Metadata).chainHash ∧
      (∃ history, sampleSyncer.store.checkGenesis history config.packet.groupHash = .ok () ∧
        (startFollowChain some (fun _ _ => []) (fun _ => 0) sampleInfoNetwork sampleRequest "default"
          sampleSyncer.store).2 = history ++ [.checkGenesis config.packet.groupHash true]) ∧
      config.beaconId = "default" ∧ config.store = sampleSyncer.store) ∧
    (sampleRequest.nodes.filterMap some = [] →
      startFollowChain some (fun _ _ => []) (fun _ => 0) sampleInfoNetwork sampleRequest "default"
        sampleSyncer.store = (some (.error .peersInvalidFormat), [])) ∧
    (∀ packet events, chainInfoFromPeers sampleInfoNetwork "default"
        (shuffle (fun _ => 0) (sampleRequest.nodes.filterMap some)) [] = (.ok packet, events) →
        (fun _ _ => []) packet "default" ≠ (⟨"default", []⟩ : Metadata).chainHash →
      startFollowChain some (fun _ _ => []) (fun _ => 0) sampleInfoNetwork sampleRequest "default"
          sampleSyncer.store =
        (some (.error (.chainHashMismatch
          (hashMismatchDetails ((fun _ _ => []) packet "default") packet.groupHash))), events) ∧
      ∀ groupHash passed, .checkGenesis groupHash passed ∉ events) ∧
    (∀ (scheme : Scheme Unit Unit) (config : DefaultSyncerConfig String Beacon) syncer,
        DefaultSyncer.fromConfig scheme config = .ok syncer →
      config.packet.schemeId = scheme.id ∧
      scheme.infoFromPacket config.packet config.beaconId = some syncer.info ∧
      syncer.store = config.store ∧ syncer.peers = config.peers)) ∧
    sampleMismatchRequest.metadata = some ⟨"default", [1]⟩ ∧
    ((∀ config, (startFollowChain some (fun _ _ => []) (fun _ => 0) sampleInfoNetwork sampleMismatchRequest
        "default" sampleSyncer.store).1 = some (.ok config) →
      config.peers.Perm (sampleMismatchRequest.nodes.filterMap some) ∧ config.peers ≠ [] ∧
      (∃ metadata', config.packet.metadata = some metadata' ∧ metadata'.beaconId = "default") ∧
      (fun _ _ => []) config.packet "default" = (⟨"default", [1]⟩ : Metadata).chainHash ∧
      (∃ history, sampleSyncer.store.checkGenesis history config.packet.groupHash = .ok () ∧
        (startFollowChain some (fun _ _ => []) (fun _ => 0) sampleInfoNetwork sampleMismatchRequest "default"
          sampleSyncer.store).2 = history ++ [.checkGenesis config.packet.groupHash true]) ∧
      config.beaconId = "default" ∧ config.store = sampleSyncer.store) ∧
    (sampleMismatchRequest.nodes.filterMap some = [] →
      startFollowChain some (fun _ _ => []) (fun _ => 0) sampleInfoNetwork sampleMismatchRequest "default"
        sampleSyncer.store = (some (.error .peersInvalidFormat), [])) ∧
    (∀ packet events, chainInfoFromPeers sampleInfoNetwork "default"
        (shuffle (fun _ => 0) (sampleMismatchRequest.nodes.filterMap some)) [] = (.ok packet, events) →
        (fun _ _ => []) packet "default" ≠ (⟨"default", [1]⟩ : Metadata).chainHash →
      startFollowChain some (fun _ _ => []) (fun _ => 0) sampleInfoNetwork sampleMismatchRequest "default"
          sampleSyncer.store =
        (some (.error (.chainHashMismatch
          (hashMismatchDetails ((fun _ _ => []) packet "default") packet.groupHash))), events) ∧
      ∀ groupHash passed, .checkGenesis groupHash passed ∉ events) ∧
    (∀ (scheme : Scheme Unit Unit) (config : DefaultSyncerConfig String Beacon) syncer,
        DefaultSyncer.fromConfig scheme config = .ok syncer →
      config.packet.schemeId = scheme.id ∧
      scheme.infoFromPacket config.packet config.beaconId = some syncer.info ∧
      syncer.store = config.store ∧ syncer.peers = config.peers)) :=
  ⟨⟨_, rfl⟩, ⟨_, rfl⟩, rfl,
    startFollowChain_gates some (fun _ _ => []) (fun _ => 0) sampleInfoNetwork sampleRequest
      "default" sampleSyncer.store rfl, rfl,
    startFollowChain_gates some (fun _ _ => []) (fun _ => 0) sampleInfoNetwork
      sampleMismatchRequest "default" sampleSyncer.store rfl⟩

end Drand.Sync
