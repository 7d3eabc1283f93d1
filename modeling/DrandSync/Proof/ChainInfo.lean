import DrandSync.Construction.Start

/-
This file describes `chain_info_from_peers` on every list of peers and every answer of each.
-/

namespace Drand.Sync

variable {Addr B : Type}

/-- A reply the search takes: the public client opens and the reply names the beacon id. -/
def InfoAccepted (net : Network Addr) (beaconId : String) (peer : Addr) (packet : ChainInfoPacket) :
    Prop :=
  net.publicClient peer = true ∧ net.chainInfo peer beaconId = .ok packet ∧
    ∃ metadata, packet.metadata = some metadata ∧ metadata.beaconId = beaconId

/-- The calls the search makes to one peer, with their answers. -/
def infoCalls (net : Network Addr) (beaconId : String) (peer : Addr) : List (Event Addr B) :=
  if net.publicClient peer then
    [.newPublicClient peer true, .chainInfo peer beaconId (net.chainInfo peer beaconId)]
  else [.newPublicClient peer false]

section Search

variable {net : Network Addr} {beaconId : String} {peer : Addr} {peers : List Addr}
  {events : List (Event Addr B)}

/-- A peer whose reply is taken ends the search with that reply, after its own calls. -/
theorem chainInfoFromPeers_cons_of_accepted {packet : ChainInfoPacket}
    (accepted : InfoAccepted net beaconId peer packet) :
    chainInfoFromPeers net beaconId (peer :: peers) events =
      (.ok packet, events ++ infoCalls net beaconId peer) := by
  obtain ⟨opened, answered, metadata, present, named⟩ := accepted
  simp [chainInfoFromPeers, infoCalls, opened, answered, present, named]

/-- Any other peer hands the search on to the next peers, after its own calls. -/
theorem chainInfoFromPeers_cons_of_refused
    (refused : ∀ packet, ¬InfoAccepted net beaconId peer packet) :
    chainInfoFromPeers net beaconId (peer :: peers) events =
      chainInfoFromPeers net beaconId peers (events ++ infoCalls net beaconId peer) := by
  cases opened : net.publicClient peer
  · simp [chainInfoFromPeers, infoCalls, opened]
  cases answer : net.chainInfo peer beaconId with
  | error err => simp [chainInfoFromPeers, infoCalls, opened, answer]
  | ok packet =>
    have other : ∀ metadata, packet.metadata = some metadata → metadata.beaconId ≠ beaconId :=
      fun metadata present named => refused packet ⟨opened, answer, metadata, present, named⟩
    cases present : packet.metadata with
    | none => simp [chainInfoFromPeers, infoCalls, opened, answer, present]
    | some metadata =>
      simp [chainInfoFromPeers, infoCalls, opened, answer, present, other metadata present]

/-- The search takes the reply of the first peer whose reply it accepts. -/
theorem chainInfoFromPeers_append_cons {pre post : List Addr} {packet : ChainInfoPacket}
    (before : ∀ q ∈ pre, ∀ reply, ¬InfoAccepted net beaconId q reply)
    (accepted : InfoAccepted net beaconId peer packet) :
    chainInfoFromPeers net beaconId (pre ++ peer :: post) events =
      (.ok packet, events ++ (pre.map (infoCalls net beaconId)).flatten ++
        infoCalls net beaconId peer) := by
  induction pre generalizing events with
  | nil => simpa using chainInfoFromPeers_cons_of_accepted accepted
  | cons q pre ih =>
    rw [List.cons_append, chainInfoFromPeers_cons_of_refused (before q (List.mem_cons_self _ _)),
      ih fun r listed => before r (List.mem_cons_of_mem _ listed)]
    simp

/-- The search ends with the first accepted reply, or out of peers after calling all. -/
theorem chainInfoFromPeers_cases (peers : List Addr) (events : List (Event Addr B)) :
    (∃ pre peer post packet, peers = pre ++ peer :: post ∧
        (∀ q ∈ pre, ∀ reply, ¬InfoAccepted net beaconId q reply) ∧
        InfoAccepted net beaconId peer packet ∧
        chainInfoFromPeers net beaconId peers events =
          (.ok packet, events ++ (pre.map (infoCalls net beaconId)).flatten ++
            infoCalls net beaconId peer)) ∨
      ((∀ q ∈ peers, ∀ reply, ¬InfoAccepted net beaconId q reply) ∧
        chainInfoFromPeers net beaconId peers events =
          (.error .failedInfoFromAllPeers, events ++ (peers.map (infoCalls net beaconId)).flatten)) := by
  induction peers generalizing events with
  | nil => exact .inr ⟨nofun, by simp [chainInfoFromPeers]⟩
  | cons peer peers ih =>
    by_cases taken : ∃ packet, InfoAccepted net beaconId peer packet
    · obtain ⟨packet, accepted⟩ := taken
      have nothingBefore : ∀ q ∈ ([] : List Addr), ∀ reply, ¬InfoAccepted net beaconId q reply :=
        fun _ listed => absurd listed (List.not_mem_nil _)
      exact .inl ⟨[], peer, peers, packet, rfl, nothingBefore, accepted,
        chainInfoFromPeers_append_cons nothingBefore accepted⟩
    have refused : ∀ packet, ¬InfoAccepted net beaconId peer packet :=
      fun packet accepted => taken ⟨packet, accepted⟩
    rcases ih (events ++ infoCalls net beaconId peer) with
      ⟨pre, found, post, packet, rfl, before, accepted, _⟩ | ⟨none, run⟩
    · have before' := List.forall_mem_cons.mpr ⟨refused, before⟩
      exact .inl ⟨peer :: pre, found, post, packet, rfl, before', accepted,
        chainInfoFromPeers_append_cons before' accepted⟩
    · refine .inr ⟨List.forall_mem_cons.mpr ⟨refused, none⟩, ?_⟩
      rw [chainInfoFromPeers_cons_of_refused refused, run]
      simp

/-- `chain_info_from_peers` returns the first accepted reply, or fails after calling every peer. -/
theorem chainInfoFromPeers_first_match (peers : List Addr) (events : List (Event Addr B)) :
    (∀ packet events', chainInfoFromPeers net beaconId peers events = (.ok packet, events') ↔
      ∃ pre peer post, peers = pre ++ peer :: post ∧
        (∀ q ∈ pre, ∀ reply, ¬InfoAccepted net beaconId q reply) ∧
        InfoAccepted net beaconId peer packet ∧
        events' = events ++ (pre.map (infoCalls net beaconId)).flatten ++
          infoCalls net beaconId peer) ∧
      ((chainInfoFromPeers net beaconId peers events).1 = .error .failedInfoFromAllPeers ↔
        ∀ q ∈ peers, ∀ reply, ¬InfoAccepted net beaconId q reply) ∧
      (∀ err, (chainInfoFromPeers net beaconId peers events).1 = .error err →
        err = .failedInfoFromAllPeers ∧
          (chainInfoFromPeers net beaconId peers events).2 =
            events ++ (peers.map (infoCalls net beaconId)).flatten) := by
  have outcome := @chainInfoFromPeers_cases Addr B net beaconId peers events
  refine ⟨fun packet events' => ⟨fun ran => ?_, ?_⟩, ?_, fun err failed => ?_⟩
  · rcases outcome with ⟨pre, peer, post, found, split, before, accepted, run⟩ | ⟨-, run⟩ <;>
      rw [run] at ran <;> cases ran
    exact ⟨pre, peer, post, split, before, accepted, rfl⟩
  · rintro ⟨pre, peer, post, rfl, before, accepted, rfl⟩
    exact chainInfoFromPeers_append_cons before accepted
  · rcases outcome with ⟨pre, peer, post, found, rfl, -, accepted, run⟩ | ⟨none, run⟩ <;> rw [run]
    · exact iff_of_false nofun fun none => none peer (by simp) found accepted
    · exact iff_of_true rfl none
  · rcases outcome with ⟨_, _, _, _, _, _, _, run⟩ | ⟨_, run⟩ <;> rw [run] at failed ⊢ <;>
      cases failed
    exact ⟨rfl, rfl⟩

end Search

/-- Peers `P0` to `P3`: `P0` fails, `P1` names another beacon id, `P2` and `P3` answer. -/
def sampleInfoPeers : Network String where
  protocolClient _ := true
  syncChain _ _ _ := none
  publicClient peer := peer != "P0"
  chainInfo peer _ := .ok ⟨[], 3, 0, [], [], "pedersen-bls-chained",
    some ⟨if peer = "P1" then "other" else "default", []⟩⟩

example :
    chainInfoFromPeers sampleInfoPeers "default" ["P0", "P1", "P2", "P3"]
        ([] : List (Event String Beacon)) =
      (.ok ⟨[], 3, 0, [], [], "pedersen-bls-chained", some ⟨"default", []⟩⟩,
        [.newPublicClient "P0" false,
          .newPublicClient "P1" true,
          .chainInfo "P1" "default" (sampleInfoPeers.chainInfo "P1" "default"),
          .newPublicClient "P2" true,
          .chainInfo "P2" "default" (sampleInfoPeers.chainInfo "P2" "default")]) :=
  rfl

end Drand.Sync
