import DrandSync.Proof.FollowOutcome
import DrandSync.Proof.ResyncOutcome

/-
This file proves that when nothing fails the follow and the resync run in lock step.
-/

namespace Drand.Sync

open BeaconRepr

variable {Addr B Key Sig : Type}

/-- The calls to the peers: a client, a stream, or a message read. -/
def Event.isNetworkCall : Event Addr B → Bool
  | .newClient .. | .syncChain .. | .message .. => true
  | _ => false

/-- The calls to the peers, in order. -/
def networkCalls (events : List (Event Addr B)) : List (Event Addr B) :=
  events.filter Event.isNetworkCall

@[simp] theorem networkCalls_nil : networkCalls ([] : List (Event Addr B)) = [] := rfl

@[simp] theorem networkCalls_append (events events' : List (Event Addr B)) :
    networkCalls (events ++ events') = networkCalls events ++ networkCalls events' :=
  List.filter_append _ _

@[simp] theorem networkCalls_cons (event : Event Addr B) (events : List (Event Addr B)) :
    networkCalls (event :: events) =
      if event.isNetworkCall then event :: networkCalls events else networkCalls events := by
  cases h : event.isNetworkCall <;> simp [networkCalls, List.filter, h]

/-- A world where every call of the follow and of the resync succeeds. -/
structure AllAccepted [BeaconRepr B] (syncer : DefaultSyncer Addr B Key) (scheme : Scheme Key Sig)
    (tx : Channel Addr B SyncProgressResponse) (txSynced : Channel Addr B BeaconPacket) : Prop where
  stores : ∀ history beacon, syncer.store.put history beacon = .ok ()
  reports : ∀ history response, tx.send history response = true
  forwards : ∀ history p, txSynced.send history p = true
  decodes : ∀ bytes, ∃ sig, scheme.deserialize bytes = some sig
  verifies : ∀ key previous round sig, scheme.isValidSignature key previous round sig = true

variable [BeaconRepr B]

/-- A follow and a resync in lock step: same round, same calls, the same packets. -/
structure Mirrors (following : Following Addr B) (resyncing : Resyncing Addr B) : Prop where
  sameRound : resyncing.lastSent = round following.lastStored
  sameCalls : networkCalls following.events = networkCalls resyncing.events
  samePackets : putCalls following.events = (sentPackets resyncing.events).map fromPacket

/-- A call to the peers, recorded by both loops, keeps them in lock step. -/
theorem Mirrors.record {following : Following Addr B} {resyncing : Resyncing Addr B}
    (mirrors : Mirrors following resyncing) (event : Event Addr B)
    (call : event.isNetworkCall = true) (unput : event.putBeacon = none)
    (unsent : event.sentPacket = none) :
    Mirrors (following.record event) (resyncing.record event) :=
  ⟨mirrors.sameRound, by simp [mirrors.sameCalls, call],
    by simp [mirrors.samePackets, unput, sentPackets, List.filterMap_append, unsent]⟩

section Lockstep

variable (syncer : DefaultSyncer Addr B Key) (scheme : Scheme Key Sig)
  (tx : Channel Addr B SyncProgressResponse) (txSynced : Channel Addr B BeaconPacket)
  (target startedFrom : Nat)

/-- With every signature valid, the follow's checks judge a packet as the resync's do. -/
theorem DefaultSyncer.verdict_eq_resyncVerdict (world : AllAccepted syncer scheme tx txSynced)
    {last : B} (below : round last < target) (fits : target < 2 ^ 64) (p : BeaconPacket) :
    syncer.verdict scheme target last p = resyncVerdict syncer.info.beaconId (round last) p := by
  unfold DefaultSyncer.verdict resyncVerdict
  rcases p.metadata with _ | metadata
  · rfl
  dsimp only
  split
  · rfl
  rw [addU64_of_lt (by omega)]
  dsimp only
  split
  · rfl
  rename_i next
  rw [subU64_of_le (by omega)]
  obtain ⟨sig, decoded⟩ := world.decodes p.signature
  simp [decoded, world.verifies]

/-- One message of the follow is one message of the resync. -/
theorem DefaultSyncer.followStep_mirrors (world : AllAccepted syncer scheme tx txSynced)
    {peer : Addr} {stream : BeaconStream} {index : Nat} {following following' : Following Addr B}
    {resyncing resyncing' : Resyncing Addr B} {out out' : Option Exit}
    (mirrors : Mirrors following resyncing) (below : round following.lastStored < target)
    (fits : target < 2 ^ 64)
    (step : syncer.followStep scheme tx target startedFrom peer stream index following =
      (out, following'))
    (step' : resyncStep syncer.info.beaconId txSynced target peer stream index resyncing =
      (out', resyncing')) :
    out' = out ∧ Mirrors following' resyncing' ∧
      (out = none → round following'.lastStored < target) ∧
      (out = some .nextPeer ∨ out = some (.ended (.returned (.ok ()))) ∨ out = none) ∧
      (out = some .nextPeer → following'.lastStored = following.lastStored) := by
  have ⟨sameRound, sameCalls, samePackets⟩ := mirrors
  unfold DefaultSyncer.followStep at step
  unfold resyncStep at step'
  simp only [Following.record_lastStored, Resyncing.record_lastSent, sameRound] at step step'
  rcases received : stream index with _ | p
  · simp only [received] at step step'
    cases step
    cases step'
    exact ⟨rfl, mirrors.record _ rfl rfl rfl, nofun, .inl rfl, fun _ => rfl⟩
  simp only [received, syncer.verdict_eq_resyncVerdict scheme tx txSynced target world below fits]
    at step step'
  rcases verdict : resyncVerdict syncer.info.beaconId (round following.lastStored) p with _ | _ | _
  · simp only [verdict] at step step'
    cases step
    cases step'
    exact ⟨rfl, mirrors.record _ rfl rfl rfl, nofun, .inl rfl, fun _ => rfl⟩
  · exact absurd verdict (resyncVerdict_ne_panic _ (by omega) _)
  obtain ⟨-, next_round, -⟩ := (resyncVerdict_eq_accept _).mp verdict
  simp only [verdict, world.stores, world.reports, world.forwards, Except.toBool_ok, Bool.not_true,
    Bool.false_eq_true, ↓reduceIte, round_fromPacket,
    addU64_of_lt (show round following.lastStored + 1 < 2 ^ 64 by omega), ← next_round] at step step'
  have mirrors' : Mirrors ⟨fromPacket p, following.events ++ [.message peer (some p)] ++
      [.put (fromPacket p) true] ++ [.sendProgress (.ok ⟨p.round, target⟩) true]⟩
      (⟨p.round, resyncing.events ++ [.message peer (some p)] ++ [.sendSynced p true]⟩ :
        Resyncing Addr B) :=
    ⟨by simp, by simp [sameCalls, Event.isNetworkCall],
      by simp [samePackets, Event.putBeacon, sentPackets, Event.sentPacket]⟩
  by_cases atTarget : p.round = target
  · rw [if_pos atTarget] at step step'
    cases step
    cases step'
    exact ⟨rfl, mirrors', nofun, .inr (.inl rfl), nofun⟩
  · rw [if_neg atTarget] at step step'
    cases step
    cases step'
    have := (syncer.verdict_accept_round scheme target
      ((syncer.verdict_eq_resyncVerdict scheme tx txSynced target world below fits p).trans verdict)).2
    exact ⟨rfl, mirrors', fun _ => by simp only [round_fromPacket]; omega, .inr (.inr rfl), nofun⟩

/-- Over one stream the two loops stay in lock step and leave alike. -/
theorem DefaultSyncer.followStream_mirrors (world : AllAccepted syncer scheme tx txSynced)
    {peer : Addr} {stream : BeaconStream} {index : Nat} {following following' : Following Addr B}
    {resyncing resyncing' : Resyncing Addr B} {exit exit' : Exit}
    (mirrors : Mirrors following resyncing) (below : round following.lastStored < target)
    (fits : target < 2 ^ 64)
    (run : syncer.followStream scheme tx target startedFrom peer stream index following =
      (exit, following'))
    (run' : resyncStream syncer.info.beaconId txSynced target peer stream index resyncing =
      (exit', resyncing')) :
    exit' = exit ∧ Mirrors following' resyncing' ∧
      ((exit = .nextPeer ∧ round following'.lastStored < target) ∨
        exit = .ended (.returned (.ok ()))) := by
  induction index, following using
    DefaultSyncer.followStream.induct syncer scheme tx target startedFrom peer stream
    generalizing resyncing with
  | case1 index following next stepped ih =>
    rcases step' : resyncStep syncer.info.beaconId txSynced target peer stream index resyncing with
      ⟨out', resyncing''⟩
    obtain ⟨rfl, mirrors', below', -, -⟩ :=
      syncer.followStep_mirrors scheme tx txSynced target startedFrom world mirrors below fits
        stepped step'
    rw [syncer.followStream_of_none scheme tx target startedFrom stepped] at run
    rw [resyncStream_of_none _ _ _ step'] at run'
    exact ih mirrors' (below' rfl) run run'
  | case2 index following out next leave =>
    rcases step' : resyncStep syncer.info.beaconId txSynced target peer stream index resyncing with
      ⟨out', resyncing''⟩
    obtain ⟨rfl, mirrors', -, kinds, kept⟩ :=
      syncer.followStep_mirrors scheme tx txSynced target startedFrom world mirrors below fits
        leave step'
    rw [syncer.followStream_of_some scheme tx target startedFrom leave] at run
    rw [resyncStream_of_some _ _ _ step'] at run'
    cases run
    cases run'
    refine ⟨rfl, mirrors', ?_⟩
    rcases kinds with moved | reached | stays
    · cases moved
      exact .inl ⟨rfl, kept rfl ▸ below⟩
    · cases reached
      exact .inr rfl
    · cases stays

/-- One pass of the follow on a peer is one pass of the resync on it. -/
theorem DefaultSyncer.followPeer_mirrors (world : AllAccepted syncer scheme tx txSynced)
    {net : Network Addr} {peer : Addr} {following following' : Following Addr B}
    {resyncing resyncing' : Resyncing Addr B} {exit exit' : Exit}
    (mirrors : Mirrors following resyncing) (below : round following.lastStored < target)
    (fits : target < 2 ^ 64)
    (pass : syncer.followPeer scheme tx target startedFrom net peer following = (exit, following'))
    (pass' : resyncPeer syncer.info.beaconId txSynced target net peer resyncing =
      (exit', resyncing')) :
    exit' = exit ∧ Mirrors following' resyncing' ∧
      ((exit = .nextPeer ∧ round following'.lastStored < target) ∨
        exit = .ended (.returned (.ok ()))) := by
  have sameRound := mirrors.sameRound
  unfold DefaultSyncer.followPeer at pass
  unfold resyncPeer at pass'
  rw [addU64_of_lt (by omega)] at pass
  simp only [Following.record_lastStored, Resyncing.record_lastSent, sameRound,
    addU64_of_lt (show round following.lastStored + 1 < 2 ^ 64 by omega), if_neg (show
      ¬target < round following.lastStored + 1 by omega), if_neg (show
      ¬target ≤ round following.lastStored by omega)] at pass pass'
  have opened' := mirrors.record (.newClient peer (net.protocolClient peer)) rfl rfl rfl
  cases opened : net.protocolClient peer
  · simp only [opened, Bool.not_false, ↓reduceIte] at pass pass' opened'
    cases pass
    cases pass'
    exact ⟨rfl, opened', .inl ⟨rfl, below⟩⟩
  simp only [opened, Bool.not_true, Bool.false_eq_true, ↓reduceIte] at pass pass' opened'
  have answered' := opened'.record
    (.syncChain peer (round following.lastStored + 1) syncer.info.beaconId
      (net.syncChain peer (round following.lastStored + 1) syncer.info.beaconId).isSome) rfl rfl rfl
  cases answered : net.syncChain peer (round following.lastStored + 1) syncer.info.beaconId with
  | none =>
    simp only [answered] at pass pass' answered'
    cases pass
    cases pass'
    exact ⟨rfl, answered', .inl ⟨rfl, below⟩⟩
  | some stream =>
    simp only [answered] at pass pass' answered'
    exact syncer.followStream_mirrors scheme tx txSynced target startedFrom world answered'
      below fits pass pass'

/-- The two `'peers` loops stay in lock step and end with the same result. -/
theorem DefaultSyncer.followPeers_mirrors (world : AllAccepted syncer scheme tx txSynced)
    {net : Network Addr} {peers : List Addr} {following following' : Following Addr B}
    {resyncing resyncing' : Resyncing Addr B} {joined joined' : Joined}
    (mirrors : Mirrors following resyncing) (below : round following.lastStored < target)
    (fits : target < 2 ^ 64)
    (run : syncer.followPeers scheme tx target startedFrom net peers following =
      (joined, following'))
    (run' : resyncPeers syncer.info.beaconId txSynced target net peers resyncing =
      (joined', resyncing')) :
    joined' = joined ∧ Mirrors following' resyncing' ∧
      (joined = .returned (.ok ()) ∨ ∃ last, joined = .returned (.error (.triedAllPers last))) := by
  induction peers generalizing following resyncing with
  | nil =>
    unfold DefaultSyncer.followPeers at run
    unfold resyncPeers at run'
    rw [if_pos below.ne] at run
    cases run
    cases run'
    refine ⟨by rw [mirrors.sameRound], ⟨mirrors.sameRound, ?_, ?_⟩, .inr ⟨_, rfl⟩⟩
    · simp [mirrors.sameCalls, Event.isNetworkCall]
    · simp [mirrors.samePackets, Event.putBeacon]
  | cons peer peers ih =>
    unfold DefaultSyncer.followPeers at run
    unfold resyncPeers at run'
    rcases pass : syncer.followPeer scheme tx target startedFrom net peer following with
      ⟨exit, mid⟩
    rcases pass' : resyncPeer syncer.info.beaconId txSynced target net peer resyncing with
      ⟨exit', mid'⟩
    rw [pass] at run
    rw [pass'] at run'
    obtain ⟨rfl, mirrors', moved | rfl⟩ :=
      syncer.followPeer_mirrors scheme tx txSynced target startedFrom world mirrors below fits
        pass pass'
    · obtain ⟨rfl, below'⟩ := moved
      exact ih mirrors' below' run run'
    · cases run
      cases run'
      exact ⟨rfl, mirrors', .inl rfl⟩

end Lockstep

section Session

variable (syncer : DefaultSyncer Addr B Key) (scheme : Scheme Key Sig)
  (tx : Channel Addr B SyncProgressResponse) (txSynced : Channel Addr B BeaconPacket) (target : Nat)
  (net : Network Addr)

/-- When every call succeeds, a follow and the matching resync make the same calls and end alike. -/
theorem DefaultSyncer.processFollowRequest_mirrors_resync {tail : B}
    (stored : syncer.store.last = .ok tail) (below : round tail < target) (fits : target < 2 ^ 64)
    (world : AllAccepted syncer scheme tx txSynced) :
    networkCalls (syncer.processFollowRequest scheme tx target net).2 =
        networkCalls (resync net (round tail + 1) target syncer.peers syncer.info.beaconId txSynced).2 ∧
      putCalls (syncer.processFollowRequest scheme tx target net).2 =
        (sentPackets (resync net (round tail + 1) target syncer.peers syncer.info.beaconId
          txSynced).2).map fromPacket ∧
      (((syncer.processFollowRequest scheme tx target net).1 = .returned (.ok ()) ∧
          (resync net (round tail + 1) target syncer.peers syncer.info.beaconId txSynced).1 =
            .returned (.ok ())) ∨
        ∃ last, (syncer.processFollowRequest scheme tx target net).1 =
            .returned (.error (.triedAllPers last)) ∧
          (resync net (round tail + 1) target syncer.peers syncer.info.beaconId txSynced).1 =
            .returned (.error (.triedAllPers last))) := by
  rcases run : syncer.followPeers scheme tx target (round tail) net syncer.peers
    ⟨tail, [.storeLast]⟩ with ⟨joined, following'⟩
  rcases run' : resyncPeers syncer.info.beaconId txSynced target net syncer.peers
    ⟨round tail, []⟩ with ⟨joined', resyncing'⟩
  have start : Mirrors (⟨tail, [.storeLast]⟩ : Following Addr B) ⟨round tail, []⟩ := ⟨rfl, rfl, rfl⟩
  obtain ⟨rfl, mirrors, outcome⟩ :=
    syncer.followPeers_mirrors scheme tx txSynced target (round tail) world start below fits run run'
  rw [syncer.processFollowRequest_of_lt scheme tx target stored below, run,
    resync_of_pos (Nat.le_add_left 1 _), Nat.add_sub_cancel, run']
  refine ⟨mirrors.sameCalls, mirrors.samePackets, ?_⟩
  rcases outcome with rfl | ⟨last, rfl⟩
  · exact .inl ⟨rfl, rfl⟩
  · exact .inr ⟨last, rfl, rfl⟩

end Session

/-- The sample world takes every call. -/
theorem sample_allAccepted : AllAccepted sampleSyncer sampleScheme sampleProgress samplePipeline :=
  ⟨fun _ _ => rfl, fun _ _ => rfl, fun _ _ => rfl, fun _ => ⟨(), rfl⟩, fun _ _ _ _ => rfl⟩

theorem processFollowRequest_mirrors_resync_sample :
    sampleSyncer.store.last = .ok ⟨[], 10, []⟩ ∧ round (⟨[], 10, []⟩ : Beacon) < 15 ∧ 15 < 2 ^ 64 ∧
    AllAccepted sampleSyncer sampleScheme sampleProgress samplePipeline ∧
    networkCalls (sampleSyncer.processFollowRequest sampleScheme sampleProgress 15 sampleNetwork).2 =
        networkCalls (resync sampleNetwork (round (⟨[], 10, []⟩ : Beacon) + 1) 15 sampleSyncer.peers
          sampleSyncer.info.beaconId samplePipeline).2 ∧
      putCalls (sampleSyncer.processFollowRequest sampleScheme sampleProgress 15 sampleNetwork).2 =
        (sentPackets (resync sampleNetwork (round (⟨[], 10, []⟩ : Beacon) + 1) 15 sampleSyncer.peers
          sampleSyncer.info.beaconId samplePipeline).2).map fromPacket ∧
      (((sampleSyncer.processFollowRequest sampleScheme sampleProgress 15 sampleNetwork).1 =
            .returned (.ok ()) ∧
          (resync sampleNetwork (round (⟨[], 10, []⟩ : Beacon) + 1) 15 sampleSyncer.peers
            sampleSyncer.info.beaconId samplePipeline).1 = .returned (.ok ())) ∨
        ∃ last, (sampleSyncer.processFollowRequest sampleScheme sampleProgress 15 sampleNetwork).1 =
            .returned (.error (.triedAllPers last)) ∧
          (resync sampleNetwork (round (⟨[], 10, []⟩ : Beacon) + 1) 15 sampleSyncer.peers
            sampleSyncer.info.beaconId samplePipeline).1 = .returned (.error (.triedAllPers last))) :=
  ⟨rfl, by decide, by decide, sample_allAccepted,
    sampleSyncer.processFollowRequest_mirrors_resync sampleScheme sampleProgress samplePipeline 15
      sampleNetwork rfl (by decide) (by decide) sample_allAccepted⟩

end Drand.Sync
