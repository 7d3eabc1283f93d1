import DrandSync.Construction.Follow

/-
This file describes a run of the follow's stream loop; the loop is unfolded only here.
-/

namespace Drand.Sync

open BeaconRepr

variable {Addr B Key Sig : Type} [BeaconRepr B]

/-- The events of a packet the stream loop stores and reports. -/
def storedEvents (peer : Addr) (target : Nat) (p : BeaconPacket) (delivered : Bool) :
    List (Event Addr B) :=
  [.message peer (some p), .put (fromPacket p) true, .sendProgress (.ok ⟨p.round, target⟩) delivered]

/-- The beacon stored last once the packets `ps` are stored after `last`. -/
def lastStoredAfter (last : B) (ps : List BeaconPacket) : B :=
  ps.foldl (fun _ p => fromPacket p) last

@[simp] theorem lastStoredAfter_nil (last : B) : lastStoredAfter last [] = last := rfl

@[simp] theorem lastStoredAfter_cons (last : B) (p : BeaconPacket) (ps : List BeaconPacket) :
    lastStoredAfter last (p :: ps) = lastStoredAfter (fromPacket p) ps := rfl

section Run

variable (syncer : DefaultSyncer Addr B Key) (scheme : Scheme Key Sig)
  (tx : Channel Addr B SyncProgressResponse) (target startedFrom : Nat) (peer : Addr)
  (stream : BeaconStream)

/-- The packets `ps` are the messages from `index` that the loop stores and reads on from. -/
def DefaultSyncer.ReadOn : Nat → B → List BeaconPacket → Prop
  | _, _, [] => True
  | index, last, p :: ps => stream index = some p ∧ syncer.verdict scheme target last p = .accept ∧
      p.round ≠ target ∧ DefaultSyncer.ReadOn (index + 1) (fromPacket p) ps

@[simp] theorem DefaultSyncer.readOn_nil (index : Nat) (last : B) :
    syncer.ReadOn scheme target stream index last [] := trivial

@[simp] theorem DefaultSyncer.readOn_cons (index : Nat) (last : B) (p : BeaconPacket)
    (ps : List BeaconPacket) :
    syncer.ReadOn scheme target stream index last (p :: ps) ↔
      stream index = some p ∧ syncer.verdict scheme target last p = .accept ∧ p.round ≠ target ∧
        syncer.ReadOn scheme target stream (index + 1) (fromPacket p) ps := Iff.rfl

/-- How the loop leaves the stream at message `index`: its events, exit and stored beacon. -/
inductive DefaultSyncer.LastMessage (index : Nat) (last : B) :
    List (Event Addr B) → Exit → B → Prop
  | closed (ended : stream index = none) :
      DefaultSyncer.LastMessage index last [.message peer none] .nextPeer last
  | skipped {p : BeaconPacket} (received : stream index = some p)
      (rejected : syncer.verdict scheme target last p = .skip) :
      DefaultSyncer.LastMessage index last [.message peer (some p)] .nextPeer last
  | panicked {p : BeaconPacket} (received : stream index = some p)
      (overflow : syncer.verdict scheme target last p = .panic) :
      DefaultSyncer.LastMessage index last [.message peer (some p)] (.ended .panicked) last
  | putFailed {p : BeaconPacket} {err : StoreError} (received : stream index = some p)
      (accepted : syncer.verdict scheme target last p = .accept) :
      DefaultSyncer.LastMessage index last [.message peer (some p), .put (fromPacket p) false]
        (.ended (.returned (.error (.chainStore err)))) last
  | receiverGone {p : BeaconPacket} (received : stream index = some p)
      (accepted : syncer.verdict scheme target last p = .accept) (fromStart : startedFrom ≤ p.round) :
      DefaultSyncer.LastMessage index last (storedEvents peer target p false)
        (.ended (.returned (.ok ()))) (fromPacket p)
  | logPanicked {p : BeaconPacket} (received : stream index = some p)
      (accepted : syncer.verdict scheme target last p = .accept) (belowStart : p.round < startedFrom) :
      DefaultSyncer.LastMessage index last (storedEvents peer target p false) (.ended .panicked)
        (fromPacket p)
  | targetReached {p : BeaconPacket} (received : stream index = some p)
      (accepted : syncer.verdict scheme target last p = .accept) (atTarget : p.round = target) :
      DefaultSyncer.LastMessage index last (storedEvents peer target p true)
        (.ended (.returned (.ok ()))) (fromPacket p)

/-- When the loop leaves the stream, its step is one of the ways to leave. -/
theorem DefaultSyncer.followStep_some {index : Nat} {state state' : Following Addr B} {exit : Exit}
    (leave : syncer.followStep scheme tx target startedFrom peer stream index state =
      (some exit, state')) :
    ∃ added, state'.events = state.events ++ added ∧
      syncer.LastMessage scheme target startedFrom peer stream index state.lastStored added exit
        state'.lastStored := by
  unfold DefaultSyncer.followStep at leave
  dsimp only at leave
  split at leave
  · rename_i ended
    simp only [ended] at leave
    cases leave
    exact ⟨_, rfl, .closed ended⟩
  rename_i p received
  simp only [received] at leave
  split at leave
  · rename_i rejected
    cases leave
    exact ⟨_, rfl, .skipped received rejected⟩
  · rename_i overflow
    cases leave
    exact ⟨_, rfl, .panicked received overflow⟩
  rename_i accepted
  split at leave
  · cases leave
    exact ⟨_, by simp_all, .putFailed received accepted⟩
  split at leave
  · split at leave <;> cases leave
    · exact ⟨_, by simp_all [storedEvents], .logPanicked received accepted (by simp_all)⟩
    · exact ⟨_, by simp_all [storedEvents], .receiverGone received accepted (by simp_all)⟩
  split at leave
  · cases leave
    exact ⟨_, by simp_all [storedEvents], .targetReached received accepted (by simp_all)⟩
  · simp at leave

/-- A run of the stream loop reads on from what it stores, then leaves at the next message. -/
theorem DefaultSyncer.followStream_run {index : Nat} {state state' : Following Addr B}
    {exit : Exit}
    (run : syncer.followStream scheme tx target startedFrom peer stream index state =
      (exit, state')) :
    ∃ ps added, syncer.ReadOn scheme target stream index state.lastStored ps ∧
      syncer.LastMessage scheme target startedFrom peer stream (index + ps.length)
        (lastStoredAfter state.lastStored ps) added exit state'.lastStored ∧
      state'.events =
        state.events ++ (ps.map fun p => storedEvents peer target p true).flatten ++ added := by
  induction index, state using
    DefaultSyncer.followStream.induct syncer scheme tx target startedFrom peer stream with
  | case1 index state next stepped ih =>
    rw [syncer.followStream_of_none scheme tx target startedFrom stepped] at run
    obtain ⟨ps, added, readOn, last, events⟩ := ih run
    obtain ⟨p, received, accepted, notTarget, rfl⟩ :=
      syncer.followStep_none scheme tx target startedFrom stepped
    refine ⟨p :: ps, added, ⟨received, accepted, notTarget, readOn⟩, ?_, ?_⟩
    · simpa [Nat.add_assoc, Nat.add_comm 1] using last
    · simp [events, storedEvents]
  | case2 index state exit' next leave =>
    rw [syncer.followStream_of_some scheme tx target startedFrom leave] at run
    cases run
    obtain ⟨added, events, last⟩ := syncer.followStep_some scheme tx target startedFrom peer stream leave
    exact ⟨[], added, trivial, last, by simpa using events⟩

end Run

section Peers

variable (syncer : DefaultSyncer Addr B Key) (scheme : Scheme Key Sig)
  (tx : Channel Addr B SyncProgressResponse) (target startedFrom : Nat) (net : Network Addr)

/-- One pass of the `'peers` loop on `peer` from `last`: its events, exit and stored beacon. -/
inductive DefaultSyncer.PeerPass (peer : Addr) (last : B) : List (Event Addr B) → Exit → B → Prop
  | overflow (big : 2 ^ 64 ≤ round last + 1) :
      DefaultSyncer.PeerPass peer last [] (.ended .panicked) last
  | behind (fits : round last + 1 < 2 ^ 64) (past : target < round last + 1) :
      DefaultSyncer.PeerPass peer last []
        (.ended (.returned (.error (.invalidTarget (round last + 1) target)))) last
  | clientFailed (fits : round last + 1 < 2 ^ 64) (ahead : round last + 1 ≤ target)
      (refused : net.protocolClient peer = false) :
      DefaultSyncer.PeerPass peer last [.newClient peer false] .nextPeer last
  | streamFailed (fits : round last + 1 < 2 ^ 64) (ahead : round last + 1 ≤ target)
      (opened : net.protocolClient peer = true)
      (unopened : net.syncChain peer (round last + 1) syncer.info.beaconId = none) :
      DefaultSyncer.PeerPass peer last
        [.newClient peer true, .syncChain peer (round last + 1) syncer.info.beaconId false]
        .nextPeer last
  | streamed {stream : BeaconStream} {ps : List BeaconPacket} {added : List (Event Addr B)}
      {exit : Exit} {last' : B} (fits : round last + 1 < 2 ^ 64) (ahead : round last + 1 ≤ target)
      (opened : net.protocolClient peer = true)
      (answered : net.syncChain peer (round last + 1) syncer.info.beaconId = some stream)
      (readOn : syncer.ReadOn scheme target stream 0 last ps)
      (leaves : syncer.LastMessage scheme target startedFrom peer stream ps.length
        (lastStoredAfter last ps) added exit last') :
      DefaultSyncer.PeerPass peer last
        ([.newClient peer true, .syncChain peer (round last + 1) syncer.info.beaconId true] ++
          (ps.map fun p => storedEvents peer target p true).flatten ++ added) exit last'

theorem DefaultSyncer.followPeer_run {peer : Addr} {state state' : Following Addr B} {exit : Exit}
    (pass : syncer.followPeer scheme tx target startedFrom net peer state = (exit, state')) :
    ∃ added, state'.events = state.events ++ added ∧
      syncer.PeerPass scheme target startedFrom net peer state.lastStored added exit
        state'.lastStored := by
  unfold DefaultSyncer.followPeer at pass
  dsimp only at pass
  split at pass
  · cases pass
    exact ⟨[], by simp, .overflow (by simp_all)⟩
  rename_i fromRound computed
  obtain ⟨fits, rfl⟩ := addU64_eq_some.mp computed
  split at pass
  · cases pass
    exact ⟨[], by simp, .behind fits (by assumption)⟩
  rename_i notBehind
  have ahead : round state.lastStored + 1 ≤ target := by omega
  split at pass
  · cases pass
    rename_i refused
    simp only [Bool.not_eq_true'] at refused
    refine ⟨_, rfl, ?_⟩
    rw [refused]
    exact .clientFailed fits ahead refused
  rename_i opened
  simp only [Bool.not_eq_true', Bool.not_eq_false] at opened
  split at pass
  · cases pass
    rename_i unopened
    exact ⟨_, by simp [opened, unopened], .streamFailed fits ahead opened unopened⟩
  rename_i stream answered
  obtain ⟨ps, added, readOn, leaves, events⟩ :=
    syncer.followStream_run scheme tx target startedFrom peer stream pass
  refine ⟨_, ?_, .streamed fits ahead opened answered readOn (by simpa using leaves)⟩
  simp [events, opened, answered]

/-- The passes over the peers tried: each but the last moves on, the last ends with `exit`. -/
inductive DefaultSyncer.Attempts : List Addr → B → List (Event Addr B) → Exit → B → Prop
  | nil (last : B) : DefaultSyncer.Attempts [] last [] .nextPeer last
  | ended {peer : Addr} {last last' : B} {added : List (Event Addr B)} {joined : Joined}
      (pass : syncer.PeerPass scheme target startedFrom net peer last added (.ended joined) last') :
      DefaultSyncer.Attempts [peer] last added (.ended joined) last'
  | cons {peer : Addr} {peers : List Addr} {last mid last' : B} {added rest : List (Event Addr B)}
      {exit : Exit} (pass : syncer.PeerPass scheme target startedFrom net peer last added .nextPeer mid)
      (next : DefaultSyncer.Attempts peers mid rest exit last') :
      DefaultSyncer.Attempts (peer :: peers) last (added ++ rest) exit last'

/-- What the follow does once it has tried every peer, after the stored beacon `last`. -/
inductive Exhausted (tx : Channel Addr B SyncProgressResponse) (target : Nat) (last : B) :
    List (Event Addr B) → Joined → Prop
  | short (below : round last ≠ target) (delivered : Bool) :
      Exhausted tx target last [.sendProgress
        (.error (Status.cancelled (SyncError.triedAllPers (round last)).toString)) delivered]
        (.returned (.error (.triedAllPers (round last))))
  | reached (atTarget : round last = target) : Exhausted tx target last [] (.returned (.ok ()))

/-- The `'peers` loop tries a prefix of the peers in order, one pass each. -/
theorem DefaultSyncer.followPeers_run {peers : List Addr} {state state' : Following Addr B}
    {joined : Joined}
    (run : syncer.followPeers scheme tx target startedFrom net peers state = (joined, state')) :
    ∃ tried added exit last, tried <+: peers ∧
      syncer.Attempts scheme target startedFrom net tried state.lastStored added exit last ∧
      ((exit = .ended joined ∧ state'.lastStored = last ∧ state'.events = state.events ++ added) ∨
        (exit = .nextPeer ∧ tried = peers ∧ state'.lastStored = last ∧ ∃ final,
          Exhausted tx target last final joined ∧ state'.events = state.events ++ added ++ final)) := by
  induction peers generalizing state with
  | nil =>
    unfold DefaultSyncer.followPeers at run
    split at run <;> cases run
    · rename_i below
      exact ⟨[], [], _, _, List.prefix_rfl, .nil _, .inr ⟨rfl, rfl, rfl, _, .short below (tx.send _ _), by simp; rfl⟩⟩
    · rename_i atTarget
      exact ⟨[], [], _, _, List.prefix_rfl, .nil _,
        .inr ⟨rfl, rfl, rfl, _, .reached (not_not.mp atTarget), by simp⟩⟩
  | cons peer peers ih =>
    unfold DefaultSyncer.followPeers at run
    split at run
    · rename_i mid moved
      obtain ⟨added, events, pass⟩ := syncer.followPeer_run scheme tx target startedFrom net moved
      obtain ⟨tried, rest, exit, last, inOrder, attempts, outcome⟩ := ih run
      refine ⟨peer :: tried, added ++ rest, exit, last, List.cons_prefix_cons.mpr ⟨rfl, inOrder⟩,
        .cons pass attempts, ?_⟩
      rcases outcome with ⟨rfl, last', events'⟩ | ⟨rfl, rfl, last', final, exhausted, events'⟩
      · exact .inl ⟨rfl, last', by simp [events', events]⟩
      · exact .inr ⟨rfl, rfl, last', final, exhausted, by simp [events', events]⟩
    · rename_i joined' mid ended
      cases run
      obtain ⟨added, events, pass⟩ := syncer.followPeer_run scheme tx target startedFrom net ended
      exact ⟨[peer], added, _, _, by simp, .ended pass, .inl ⟨rfl, rfl, events⟩⟩

/-- A follow from a tail below the target is its `'peers` loop from that tail. -/
theorem DefaultSyncer.processFollowRequest_run (tx : Channel Addr B SyncProgressResponse)
    {tail : B} (stored : syncer.store.last = .ok tail) (below : round tail < target) :
    ∃ tried added exit last joined final, tried <+: syncer.peers ∧
      syncer.Attempts scheme target (round tail) net tried tail added exit last ∧
      syncer.processFollowRequest scheme tx target net = (joined, .storeLast :: added ++ final) ∧
      ((exit = .ended joined ∧ final = []) ∨
        (exit = .nextPeer ∧ tried = syncer.peers ∧ Exhausted tx target last final joined)) := by
  rcases run : syncer.followPeers scheme tx target (round tail) net syncer.peers
    ⟨tail, [.storeLast]⟩ with ⟨joined, state'⟩
  rw [syncer.processFollowRequest_of_lt scheme tx target stored below, run]
  obtain ⟨tried, added, exit, last, inOrder, attempts, outcome⟩ :=
    syncer.followPeers_run scheme tx target (round tail) net run
  rcases outcome with ⟨rfl, -, events⟩ | ⟨rfl, rfl, -, final, exhausted, events⟩
  · exact ⟨_, added, _, last, joined, [], inOrder, attempts, by simpa using events, .inl ⟨rfl, rfl⟩⟩
  · exact ⟨_, added, _, last, joined, final, inOrder, attempts, by simpa using events,
      .inr ⟨rfl, rfl, exhausted⟩⟩

end Peers

end Drand.Sync
