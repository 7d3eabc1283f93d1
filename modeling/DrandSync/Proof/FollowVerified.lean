import DrandSync.Proof.FollowRun

/-
This file proves that a follow session stores only beacons verified after the one before.
-/

namespace Drand.Sync

open BeaconRepr

variable {Addr B Key Sig : Type}

/-- The beacon of a `store.put` call. -/
def Event.putBeacon : Event Addr B → Option B
  | .put beacon _ => some beacon
  | _ => none

/-- The beacons of the `store.put` calls, in the order of the calls. -/
def putCalls (events : List (Event Addr B)) : List B := events.filterMap Event.putBeacon

@[simp] theorem putCalls_nil : putCalls ([] : List (Event Addr B)) = [] := rfl

@[simp] theorem putCalls_append (events events' : List (Event Addr B)) :
    putCalls (events ++ events') = putCalls events ++ putCalls events' := List.filterMap_append _ _ _

@[simp] theorem putCalls_cons (event : Event Addr B) (events : List (Event Addr B)) :
    putCalls (event :: events) = (event.putBeacon.map ([·])).getD [] ++ putCalls events := by
  cases h : event.putBeacon <;> simp [putCalls, List.filterMap_cons, h]

@[simp] theorem putCalls_storedEvents [BeaconRepr B] (peer : Addr) (target : Nat) (ps : List BeaconPacket)
    (delivered : Bool) :
    putCalls (ps.map fun p => (storedEvents peer target p delivered : List (Event Addr B))).flatten =
      ps.map fromPacket := by
  induction ps <;> simp_all [storedEvents, Event.putBeacon]

section Chain

variable [BeaconRepr B] (syncer : DefaultSyncer Addr B Key) (scheme : Scheme Key Sig)
  (tx : Channel Addr B SyncProgressResponse) (target startedFrom : Nat) (net : Network Addr)

/-- The checks a packet passes before the follow stores it after `last`. -/
structure DefaultSyncer.Verified (last : B) (p : BeaconPacket) : Prop where
  beaconId : ∃ metadata, p.metadata = some metadata ∧ metadata.beaconId = syncer.info.beaconId
  nextRound : p.round = round last + 1
  atMostTarget : p.round ≤ target
  signed : ∃ sig, scheme.deserialize p.signature = some sig ∧
    scheme.isValidSignature syncer.info.publicKey (signature last) p.round sig = true

/-- The packets extend `last`, each verified after the one before it. -/
def DefaultSyncer.VerifiedChain : B → List BeaconPacket → Prop
  | _, [] => True
  | last, p :: ps => syncer.Verified scheme target last p ∧
      DefaultSyncer.VerifiedChain (fromPacket p) ps

@[simp] theorem DefaultSyncer.verifiedChain_nil (last : B) :
    syncer.VerifiedChain scheme target last [] := trivial

@[simp] theorem DefaultSyncer.verifiedChain_cons (last : B) (p : BeaconPacket)
    (ps : List BeaconPacket) :
    syncer.VerifiedChain scheme target last (p :: ps) ↔
      syncer.Verified scheme target last p ∧ syncer.VerifiedChain scheme target (fromPacket p) ps :=
  Iff.rfl

theorem DefaultSyncer.verifiedChain_append (last : B) (ps qs : List BeaconPacket) :
    syncer.VerifiedChain scheme target last (ps ++ qs) ↔
      syncer.VerifiedChain scheme target last ps ∧
        syncer.VerifiedChain scheme target (lastStoredAfter last ps) qs := by
  induction ps generalizing last <;> simp_all [and_assoc]

/-- The rounds of a verified chain run on from its start one by one, up to the target. -/
theorem DefaultSyncer.verifiedChain_rounds {last : B} {ps : List BeaconPacket}
    (chain : syncer.VerifiedChain scheme target last ps) :
    ps.map BeaconPacket.round = List.range' (round last + 1) ps.length ∧
      (ps ≠ [] → round last + ps.length ≤ target) := by
  induction ps generalizing last with
  | nil => simp
  | cons p ps ih =>
    obtain ⟨verified, rest⟩ := chain
    obtain ⟨rounds, bound⟩ := ih rest
    simp only [round_fromPacket, verified.nextRound] at rounds bound
    refine ⟨by simp [verified.nextRound, rounds, List.range'_succ], fun _ => ?_⟩
    rcases ps with _ | ⟨q, qs⟩
    · simpa using verified.atMostTarget.trans_eq' verified.nextRound.symm
    · have := bound (by simp)
      simp only [List.length_cons] at this ⊢
      omega

/-- The checks accept exactly what they verify, when the next round is a `u64`. -/
theorem DefaultSyncer.verdict_accept_verified {last : B} {p : BeaconPacket}
    (accepted : syncer.verdict scheme target last p = .accept) :
    syncer.Verified scheme target last p := by
  unfold DefaultSyncer.verdict at accepted
  split at accepted
  · cases accepted
  rename_i metadata present
  split at accepted
  · cases accepted
  split at accepted
  · cases accepted
  rename_i expected computed
  split at accepted
  · cases accepted
  split at accepted
  · cases accepted
  split at accepted
  · cases accepted
  rename_i sig decoded
  split at accepted
  · simp only [addU64_eq_some, subU64_eq_some] at *
    exact ⟨⟨metadata, present, by simp_all⟩, by omega, by omega, sig, decoded, ‹_›⟩
  · cases accepted

theorem DefaultSyncer.readOn_verifiedChain {stream : BeaconStream} {index : Nat} {last : B}
    {ps : List BeaconPacket} (readOn : syncer.ReadOn scheme target stream index last ps) :
    syncer.VerifiedChain scheme target last ps := by
  induction ps generalizing index last with
  | nil => trivial
  | cons p ps ih =>
    obtain ⟨-, accepted, -, rest⟩ := readOn
    exact ⟨syncer.verdict_accept_verified scheme target accepted, ih rest⟩

/-- The message that leaves a stream is put only when verified; moving on stores nothing. -/
theorem DefaultSyncer.lastMessage_puts {peer : Addr} {stream : BeaconStream} {index : Nat}
    {last last' : B} {added : List (Event Addr B)} {exit : Exit}
    (leaves : syncer.LastMessage scheme target startedFrom peer stream index last added exit last') :
    ∃ qs, putCalls added = qs.map fromPacket ∧ syncer.VerifiedChain scheme target last qs ∧
      (exit = .nextPeer → last' = lastStoredAfter last qs) := by
  cases leaves with
  | closed => exact ⟨[], by simp [Event.putBeacon], trivial, fun _ => rfl⟩
  | skipped => exact ⟨[], by simp [Event.putBeacon], trivial, fun _ => rfl⟩
  | panicked => exact ⟨[], by simp [Event.putBeacon], trivial, fun _ => rfl⟩
  | putFailed _ accepted =>
    exact ⟨[_], by simp [Event.putBeacon],
      ⟨syncer.verdict_accept_verified scheme target accepted, trivial⟩, by simp⟩
  | receiverGone _ accepted | logPanicked _ accepted | targetReached _ accepted =>
    exact ⟨[_], by simp [storedEvents, Event.putBeacon],
      ⟨syncer.verdict_accept_verified scheme target accepted, trivial⟩, by simp⟩

theorem DefaultSyncer.peerPass_puts {peer : Addr} {last last' : B} {added : List (Event Addr B)}
    {exit : Exit} (pass : syncer.PeerPass scheme target startedFrom net peer last added exit last') :
    ∃ qs, putCalls added = qs.map fromPacket ∧ syncer.VerifiedChain scheme target last qs ∧
      (exit = .nextPeer → last' = lastStoredAfter last qs) := by
  cases pass with
  | overflow | behind => exact ⟨[], by simp, trivial, by simp⟩
  | clientFailed | streamFailed => exact ⟨[], by simp [Event.putBeacon], trivial, fun _ => rfl⟩
  | @streamed _ ps _ _ _ _ _ _ _ readOn leaves =>
    obtain ⟨qs, puts, chain, moved⟩ := syncer.lastMessage_puts scheme target startedFrom leaves
    refine ⟨ps ++ qs, by simp [Event.putBeacon, puts], ?_, ?_⟩
    · exact (syncer.verifiedChain_append scheme target _ _ _).mpr
        ⟨syncer.readOn_verifiedChain scheme target readOn, chain⟩
    · intro next
      simp [moved next, lastStoredAfter, List.foldl_append]

theorem DefaultSyncer.attempts_puts {tried : List Addr} {last last' : B}
    {added : List (Event Addr B)} {exit : Exit}
    (attempts : syncer.Attempts scheme target startedFrom net tried last added exit last') :
    ∃ qs, putCalls added = qs.map fromPacket ∧ syncer.VerifiedChain scheme target last qs ∧
      (exit = .nextPeer → last' = lastStoredAfter last qs) := by
  induction attempts with
  | nil => exact ⟨[], rfl, trivial, fun _ => rfl⟩
  | ended pass =>
    obtain ⟨qs, puts, chain, -⟩ := syncer.peerPass_puts scheme target startedFrom net pass
    exact ⟨qs, puts, chain, nofun⟩
  | cons pass _ ih =>
    obtain ⟨qs, puts, chain, moved⟩ := syncer.peerPass_puts scheme target startedFrom net pass
    obtain ⟨rs, puts', chain', moved'⟩ := ih
    rw [moved rfl] at chain' moved'
    refine ⟨qs ++ rs, by simp [puts, puts'],
      (syncer.verifiedChain_append scheme target _ _ _).mpr ⟨chain, chain'⟩, fun next => ?_⟩
    simp [moved' next, lastStoredAfter, List.foldl_append]

/-- Every `put` of a follow is of a packet verified after the beacon before it. -/
theorem DefaultSyncer.processFollowRequest_puts {tail : B} (stored : syncer.store.last = .ok tail) :
    ∃ ps, putCalls (syncer.processFollowRequest scheme tx target net).2 = ps.map fromPacket ∧
      syncer.VerifiedChain scheme target tail ps := by
  rcases Nat.lt_or_ge (round tail) target with below | reached
  · obtain ⟨_, added, _, _, _, final, -, attempts, run, outcome⟩ :=
      syncer.processFollowRequest_run scheme target net tx stored below
    obtain ⟨ps, puts, chain, -⟩ := syncer.attempts_puts scheme target (round tail) net attempts
    rw [run]
    refine ⟨ps, ?_, chain⟩
    rcases outcome with ⟨-, rfl⟩ | ⟨-, -, exhausted⟩
    · simp [puts, Event.putBeacon]
    · cases exhausted <;> simp [puts, Event.putBeacon]
  · rw [syncer.processFollowRequest_of_le scheme tx target stored reached]
    exact ⟨[], by simp [Event.putBeacon], trivial⟩

/-- Whatever the world answers, a follow puts a verified chain from its tail, up to the target. -/
theorem DefaultSyncer.processFollowRequest_stores_verified_chain {tail : B}
    (stored : syncer.store.last = .ok tail) :
    ∃ ps, putCalls (syncer.processFollowRequest scheme tx target net).2 = ps.map fromPacket ∧
      syncer.VerifiedChain scheme target tail ps ∧
      ps.map BeaconPacket.round = List.range' (round tail + 1) ps.length ∧
      (ps ≠ [] → round tail + ps.length ≤ target) := by
  obtain ⟨ps, calls, chain⟩ := syncer.processFollowRequest_puts scheme tx target net stored
  exact ⟨ps, calls, chain, syncer.verifiedChain_rounds scheme target chain⟩

end Chain

/-- A sample world: tail at round 10, a store and scheme that take all, peers `P1` and `P2`. -/
def sampleSyncer : DefaultSyncer String Beacon Unit :=
  ⟨⟨.ok ⟨[], 10, []⟩, fun _ _ => .ok (), fun _ _ => .ok ()⟩, ⟨"default", ()⟩, ["P1", "P2"]⟩

/-- The signature scheme of the sample world. -/
def sampleScheme : Scheme Unit Unit :=
  ⟨"pedersen-bls-chained", fun _ => some (), fun _ _ => none, fun _ _ _ _ => true⟩

/-- The peers of the sample world. -/
def sampleNetwork : Network String where
  protocolClient _ := true
  syncChain peer fromRound _ := some fun index =>
    if peer = "P1" ∧ 12 < fromRound + index then none
    else some ⟨[], fromRound + index, [], some ⟨"default", []⟩⟩
  publicClient _ := true
  chainInfo _ _ := .error ⟨14, "unavailable"⟩

/-- A progress receiver of the sample world that takes every message. -/
def sampleProgress : Channel String Beacon SyncProgressResponse := ⟨fun _ _ => true⟩

theorem processFollowRequest_stores_verified_chain_sample :
    sampleSyncer.store.last = .ok ⟨[], 10, []⟩ ∧
      ∃ ps, putCalls (sampleSyncer.processFollowRequest sampleScheme sampleProgress 15
          sampleNetwork).2 = ps.map fromPacket ∧
        sampleSyncer.VerifiedChain sampleScheme 15 ⟨[], 10, []⟩ ps ∧
        ps.map BeaconPacket.round = List.range' (10 + 1) ps.length ∧
        (ps ≠ [] → 10 + ps.length ≤ 15) :=
  ⟨rfl, sampleSyncer.processFollowRequest_stores_verified_chain sampleScheme sampleProgress 15
    sampleNetwork rfl⟩

end Drand.Sync
