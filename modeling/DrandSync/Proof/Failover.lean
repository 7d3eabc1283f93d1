import DrandSync.Proof.Simulation

/-
This file proves that one peer that serves the chain is enough for either loop.
-/

namespace Drand.Sync

open BeaconRepr

variable {Addr B Key Sig : Type}

/-- A peer that opens and streams the rounds from any start up to `target`, in order. -/
structure Serves (net : Network Addr) (beaconId : String) (target : Nat) (peer : Addr) : Prop where
  opens : net.protocolClient peer = true
  streams : ∀ fromRound, fromRound ≤ target → ∃ stream,
    net.syncChain peer fromRound beaconId = some stream ∧
      ∀ index, fromRound + index ≤ target → ∃ p, stream index = some p ∧
        p.round = fromRound + index ∧ ∃ metadata, p.metadata = some metadata ∧
          metadata.beaconId = beaconId

section Pipeline

variable (beaconId : String) (txSynced : Channel Addr B BeaconPacket) (upTo : Nat)
  (net : Network Addr)

/-- The resync's stream loop leaves with `SyncClosedTx` only at a packet the pipeline refused. -/
theorem resyncStep_closedTx {peer : Addr} {stream : BeaconStream} {index : Nat}
    {state state' : Resyncing Addr B}
    (leave : resyncStep beaconId txSynced upTo peer stream index state =
      (some (.ended (.returned (.error .syncClosedTx))), state')) :
    ∃ history p, txSynced.send history p = false := by
  unfold resyncStep at leave
  dsimp only at leave
  split at leave
  · cases leave
  split at leave
  · cases leave
  · cases leave
  split at leave
  · rename_i refused
    exact ⟨_, _, by simpa using refused⟩
  split at leave
  · cases leave
  split at leave <;> cases leave

theorem resyncStream_closedTx {peer : Addr} {stream : BeaconStream} {index : Nat}
    {state state' : Resyncing Addr B}
    (run : resyncStream beaconId txSynced upTo peer stream index state =
      (.ended (.returned (.error .syncClosedTx)), state')) :
    ∃ history p, txSynced.send history p = false := by
  induction index, state using resyncStream.induct beaconId txSynced upTo peer stream with
  | case1 index state next stepped ih =>
    rw [resyncStream_of_none beaconId txSynced upTo stepped] at run
    exact ih run
  | case2 index state exit next leave =>
    rw [resyncStream_of_some beaconId txSynced upTo leave] at run
    cases run
    exact resyncStep_closedTx beaconId txSynced upTo leave

theorem resyncPeer_closedTx {peer : Addr} {state state' : Resyncing Addr B}
    (pass : resyncPeer beaconId txSynced upTo net peer state =
      (.ended (.returned (.error .syncClosedTx)), state')) :
    ∃ history p, txSynced.send history p = false := by
  unfold resyncPeer at pass
  dsimp only at pass
  split at pass
  · split at pass <;> cases pass
  split at pass
  · cases pass
  split at pass
  · cases pass
  split at pass
  · cases pass
  · exact resyncStream_closedTx beaconId txSynced upTo pass

theorem resyncPeers_closedTx {peers : List Addr} {state state' : Resyncing Addr B}
    (run : resyncPeers beaconId txSynced upTo net peers state =
      (.returned (.error .syncClosedTx), state')) :
    ∃ history p, txSynced.send history p = false := by
  induction peers generalizing state with
  | nil => cases run
  | cons peer peers ih =>
    unfold resyncPeers at run
    split at run
    · exact ih run
    · rename_i ended
      cases run
      exact resyncPeer_closedTx beaconId txSynced upTo net ended

/-- A resync fails with `SyncClosedTx` only after the pipeline refused a packet. -/
theorem resync_closedTx {startFrom : Nat} {peers : List Addr}
    (closed : (resync net startFrom upTo peers beaconId txSynced).1 =
      .returned (.error .syncClosedTx)) :
    ∃ history p, txSynced.send history p = false := by
  rcases Nat.eq_zero_or_pos startFrom with rfl | start
  · cases closed
  rw [resync_of_pos start] at closed
  rcases run : resyncPeers beaconId txSynced upTo net peers ⟨startFrom - 1, []⟩ with
    ⟨joined, state'⟩
  rw [run] at closed
  cases closed
  exact resyncPeers_closedTx beaconId txSynced upTo net run

/-- A resync pass on a serving peer never moves on below `up_to`. -/
theorem resyncPass_serves {peer : Addr} (serves : Serves net beaconId upTo peer)
    {lastSent lastSent' : Nat} {added : List (Event Addr B)} (below : lastSent < upTo)
    (fits : upTo < 2 ^ 64)
    (pass : ResyncPass beaconId upTo net peer lastSent added .nextPeer lastSent') : False := by
  cases pass with
  | clientFailed _ refused => exact Bool.false_ne_true (refused.symm.trans serves.opens)
  | streamFailed _ _ _ unopened =>
    obtain ⟨_, answered, -⟩ := serves.streams _ below
    exact Option.noConfusion (unopened.symm.trans answered)
  | @streamed stream ps _ _ _ _ _ _ answered readOn leaves =>
    obtain ⟨served, answered', inOrder⟩ := serves.streams _ below
    cases answered.symm.trans answered'
    obtain ⟨-, -, stillBelow⟩ := resyncReadOn_sent beaconId upTo readOn below
    obtain ⟨p, received, nextRound, named⟩ := inOrder ps.length (by omega)
    have accepted : resyncVerdict beaconId (lastSent + ps.length) p = .accept :=
      (resyncVerdict_eq_accept _).mpr ⟨named, by omega, by omega⟩
    cases leaves with
    | closed ended => exact Option.noConfusion (ended.symm.trans received)
    | skipped received' rejected =>
      cases received'.symm.trans received
      exact Verdict.noConfusion (rejected.symm.trans accepted)

/-- The resync's passes over peers among which one serves the chain do not all move on. -/
theorem resyncAttempts_serves {peer : Addr} (serves : Serves net beaconId upTo peer)
    {tried : List Addr} (listed : peer ∈ tried) {lastSent lastSent' : Nat}
    {added : List (Event Addr B)} {exit : Exit} (below : lastSent < upTo) (fits : upTo < 2 ^ 64)
    (attempts : ResyncAttempts beaconId upTo net tried lastSent added exit lastSent')
    (moved : exit = .nextPeer) : False := by
  induction attempts with
  | nil => exact List.not_mem_nil _ listed
  | ended => cases moved
  | @cons other _ _ _ _ _ _ _ pass _ ih =>
    rcases List.mem_cons.mp listed with rfl | listed'
    · exact resyncPass_serves beaconId upTo net serves below fits pass
    · exact ih listed' ((resyncPass_sent beaconId upTo net pass).2.2.2 rfl) moved

/-- With a pipeline that takes every packet, one serving peer brings the resync to `up_to`. -/
theorem resync_of_serves {startFrom : Nat} {peers : List Addr} (start : 1 ≤ startFrom)
    (inside : startFrom ≤ upTo) (fits : upTo < 2 ^ 64)
    (takes : ∀ history p, txSynced.send history p = true) {peer : Addr} (listed : peer ∈ peers)
    (serves : Serves net beaconId upTo peer) :
    (resync net startFrom upTo peers beaconId txSynced).1 = .returned (.ok ()) := by
  have below : startFrom - 1 < upTo := by omega
  obtain ⟨tried, _, exit, _, _, -, attempts, run, ended | ⟨moved, rfl, -⟩⟩ :=
    resync_run beaconId txSynced upTo net start
  · rcases resyncAttempts_ended beaconId upTo net below fits attempts ended with
      ⟨synced, -⟩ | ⟨closed, -⟩
    · rw [run, synced]
    · obtain ⟨history, p, refused⟩ :=
        resync_closedTx beaconId txSynced upTo net (by rw [run, closed])
      exact (Bool.false_ne_true (refused.symm.trans (takes history p))).elim
  · exact (resyncAttempts_serves beaconId upTo net serves listed below fits attempts moved).elim

end Pipeline

variable [BeaconRepr B]

/-- A follow world where every call succeeds: the store, the progress receiver and the scheme. -/
structure FollowAccepted (syncer : DefaultSyncer Addr B Key) (scheme : Scheme Key Sig)
    (tx : Channel Addr B SyncProgressResponse) : Prop where
  stores : ∀ history beacon, syncer.store.put history beacon = .ok ()
  reports : ∀ history response, tx.send history response = true
  decodes : ∀ bytes, ∃ sig, scheme.deserialize bytes = some sig
  verifies : ∀ key previous round sig, scheme.isValidSignature key previous round sig = true

/-- A follow world that accepts every call, beside a pipeline that takes every packet. -/
theorem FollowAccepted.allAccepted {syncer : DefaultSyncer Addr B Key} {scheme : Scheme Key Sig}
    {tx : Channel Addr B SyncProgressResponse} (world : FollowAccepted syncer scheme tx) :
    AllAccepted syncer scheme tx ⟨fun _ _ => true⟩ :=
  ⟨world.stores, world.reports, fun _ _ => rfl, world.decodes, world.verifies⟩

section Passes

variable (syncer : DefaultSyncer Addr B Key) (scheme : Scheme Key Sig)
  (tx : Channel Addr B SyncProgressResponse) (target startedFrom : Nat) (net : Network Addr)

/-- With every signature valid, a pass on a serving peer never moves on below the target. -/
theorem DefaultSyncer.peerPass_serves (world : FollowAccepted syncer scheme tx)
    {peer : Addr} (serves : Serves net syncer.info.beaconId target peer) {last last' : B}
    {added : List (Event Addr B)} (below : round last < target) (fits : target < 2 ^ 64)
    (pass : syncer.PeerPass scheme target startedFrom net peer last added .nextPeer last') :
    False := by
  cases pass with
  | clientFailed _ _ refused => exact Bool.false_ne_true (refused.symm.trans serves.opens)
  | streamFailed _ ahead _ unopened =>
    obtain ⟨_, answered, -⟩ := serves.streams _ ahead
    exact Option.noConfusion (unopened.symm.trans answered)
  | @streamed stream ps _ _ _ _ ahead _ answered readOn leaves =>
    obtain ⟨served, answered', inOrder⟩ := serves.streams _ ahead
    cases answered.symm.trans answered'
    obtain ⟨rounds, stillBelow⟩ := syncer.readOn_round scheme target readOn
    have reached := stillBelow below
    obtain ⟨p, received, nextRound, named⟩ := inOrder ps.length (by omega)
    have accepted : syncer.verdict scheme target (lastStoredAfter last ps) p = .accept := by
      rw [syncer.verdict_eq_resyncVerdict scheme tx _ target world.allAccepted reached fits]
      exact (resyncVerdict_eq_accept _).mpr ⟨named, by omega, by omega⟩
    cases leaves with
    | closed ended => exact Option.noConfusion (ended.symm.trans received)
    | skipped received' rejected =>
      cases received'.symm.trans received
      exact Verdict.noConfusion (rejected.symm.trans accepted)

/-- Passes over peers that include a serving one do not all move on. -/
theorem DefaultSyncer.attempts_serves (world : FollowAccepted syncer scheme tx)
    {peer : Addr} (serves : Serves net syncer.info.beaconId target peer) {tried : List Addr}
    (listed : peer ∈ tried) {last last' : B} {added : List (Event Addr B)} {exit : Exit}
    (within : Within startedFrom target last)
    (attempts : syncer.Attempts scheme target startedFrom net tried last added exit last')
    (moved : exit = .nextPeer) : False := by
  induction attempts with
  | nil => exact List.not_mem_nil _ listed
  | ended => cases moved
  | @cons other _ _ _ _ _ _ _ pass _ ih =>
    rcases syncer.peerPass_within scheme target startedFrom net within pass with
      ⟨-, within'⟩ | ⟨_, _, _, stop, -⟩
    · rcases List.mem_cons.mp listed with rfl | listed'
      · exact syncer.peerPass_serves scheme tx target startedFrom net world serves
          within.2.1 within.2.2 pass
      · exact ih listed' within' moved
    · cases stop

end Passes

section Session

variable (syncer : DefaultSyncer Addr B Key) (scheme : Scheme Key Sig)
  (tx : Channel Addr B SyncProgressResponse) (target : Nat) (net : Network Addr)

/-- When every call succeeds, one serving peer brings the follow to its target. -/
theorem DefaultSyncer.processFollowRequest_of_serves (world : FollowAccepted syncer scheme tx)
    {tail : B} (stored : syncer.store.last = .ok tail) (fits : target < 2 ^ 64) {peer : Addr}
    (listed : peer ∈ syncer.peers) (serves : Serves net syncer.info.beaconId target peer) :
    (syncer.processFollowRequest scheme tx target net).1 = .returned (.ok ()) := by
  rcases Nat.lt_or_ge (round tail) target with below | reached
  swap
  · rw [syncer.processFollowRequest_of_le scheme tx target stored reached]
  rcases run : syncer.followPeers scheme tx target (round tail) net syncer.peers
    ⟨tail, [.storeLast]⟩ with ⟨joined, following'⟩
  rcases run' : resyncPeers syncer.info.beaconId (⟨fun _ _ => true⟩ : Channel Addr B BeaconPacket)
    target net syncer.peers
    ⟨round tail, []⟩ with ⟨joined', resyncing'⟩
  have start : Mirrors (⟨tail, [.storeLast]⟩ : Following Addr B) ⟨round tail, []⟩ := ⟨rfl, rfl, rfl⟩
  rw [syncer.processFollowRequest_of_lt scheme tx target stored below, run]
  obtain ⟨-, -, synced | ⟨last, rfl⟩⟩ :=
    syncer.followPeers_mirrors scheme tx _ target (round tail) world.allAccepted start below fits
      run run'
  · exact synced
  have within : Within (round tail) target tail := ⟨le_rfl, below, fits⟩
  exfalso
  obtain ⟨tried, _, exit, _, -, attempts, ⟨rfl, -⟩ | ⟨moved, all, -⟩⟩ :=
    syncer.followPeers_run scheme tx target (round tail) net run
  · rcases syncer.attempts_within scheme target (round tail) net within attempts with
      ⟨stop, -⟩ | ⟨_, _, _, _, stop, -, finalEnd⟩
    · cases stop
    · cases stop
      cases finalEnd
  · exact syncer.attempts_serves scheme tx target (round tail) net world serves
      (all ▸ listed) within attempts moved

end Session

/-- The peer `P2` of the sample world serves the chain up to round 15; `P1` stops after 12. -/
theorem sampleNetwork_serves : Serves sampleNetwork "default" 15 "P2" :=
  ⟨rfl, fun _ _ => ⟨_, rfl, fun _ _ => ⟨_, if_neg fun isFirst => absurd isFirst.1 (by decide),
    rfl, _, rfl, rfl⟩⟩⟩

/-- The sample world takes every call of the follow. -/
theorem sample_followAccepted : FollowAccepted sampleSyncer sampleScheme sampleProgress :=
  ⟨fun _ _ => rfl, fun _ _ => rfl, fun _ => ⟨(), rfl⟩, fun _ _ _ _ => rfl⟩

theorem processFollowRequest_of_serves_sample :
    FollowAccepted sampleSyncer sampleScheme sampleProgress ∧
      sampleSyncer.store.last = .ok ⟨[], 10, []⟩ ∧ 15 < 2 ^ 64 ∧ "P2" ∈ sampleSyncer.peers ∧
      Serves sampleNetwork sampleSyncer.info.beaconId 15 "P2" ∧
      (sampleSyncer.processFollowRequest sampleScheme sampleProgress 15 sampleNetwork).1 =
        .returned (.ok ()) :=
  ⟨sample_followAccepted, rfl, by decide, by decide, sampleNetwork_serves,
    sampleSyncer.processFollowRequest_of_serves sampleScheme sampleProgress 15 sampleNetwork
      sample_followAccepted rfl (by decide) (show "P2" ∈ sampleSyncer.peers by decide)
      sampleNetwork_serves⟩

theorem resync_of_serves_sample :
    1 ≤ 11 ∧ 11 ≤ 15 ∧ 15 < 2 ^ 64 ∧ (∀ history p, samplePipeline.send history p = true) ∧
      "P2" ∈ ["P1", "P2"] ∧ Serves sampleNetwork "default" 15 "P2" ∧
      (resync sampleNetwork 11 15 ["P1", "P2"] "default" samplePipeline).1 = .returned (.ok ()) :=
  ⟨by decide, by decide, by decide, fun _ _ => rfl, by decide, sampleNetwork_serves,
    resync_of_serves "default" samplePipeline 15 sampleNetwork (by decide) (by decide) (by decide)
      (fun _ _ => rfl) (show "P2" ∈ ["P1", "P2"] by decide) sampleNetwork_serves⟩

end Drand.Sync
