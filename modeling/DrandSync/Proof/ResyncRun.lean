import DrandSync.Construction.Resync

/-
This file describes a run of the resync's loops; they are unfolded only here.
-/

namespace Drand.Sync

variable {Addr B : Type}

/-- The events of a packet the resync forwards on `tx_synced`. -/
def sentEvents (peer : Addr) (p : BeaconPacket) (delivered : Bool) : List (Event Addr B) :=
  [.message peer (some p), .sendSynced p delivered]

section Run

variable (beaconId : String) (txSynced : Channel Addr B BeaconPacket) (upTo : Nat) (peer : Addr)
  (stream : BeaconStream)

/-- The packets `ps` are the messages from `index` that the resync forwards and reads on from. -/
def ResyncReadOn : Nat → Nat → List BeaconPacket → Prop
  | _, _, [] => True
  | index, lastSent, p :: ps => stream index = some p ∧
      resyncVerdict beaconId lastSent p = .accept ∧ p.round ≠ upTo ∧
      ResyncReadOn (index + 1) p.round ps

@[simp] theorem resyncReadOn_nil (index lastSent : Nat) :
    ResyncReadOn beaconId upTo stream index lastSent [] := trivial

@[simp] theorem resyncReadOn_cons (index lastSent : Nat) (p : BeaconPacket) (ps : List BeaconPacket) :
    ResyncReadOn beaconId upTo stream index lastSent (p :: ps) ↔
      stream index = some p ∧ resyncVerdict beaconId lastSent p = .accept ∧ p.round ≠ upTo ∧
        ResyncReadOn beaconId upTo stream (index + 1) p.round ps := Iff.rfl

/-- How the resync leaves the stream at message `index`: its events, exit and round. -/
inductive ResyncLastMessage (index lastSent : Nat) : List (Event Addr B) → Exit → Nat → Prop
  | closed (ended : stream index = none) :
      ResyncLastMessage index lastSent [.message peer none] .nextPeer lastSent
  | skipped {p : BeaconPacket} (received : stream index = some p)
      (rejected : resyncVerdict beaconId lastSent p = .skip) :
      ResyncLastMessage index lastSent [.message peer (some p)] .nextPeer lastSent
  | panicked {p : BeaconPacket} (received : stream index = some p)
      (overflow : resyncVerdict beaconId lastSent p = .panic) :
      ResyncLastMessage index lastSent [.message peer (some p)] (.ended .panicked) lastSent
  | closedTx {p : BeaconPacket} (received : stream index = some p)
      (accepted : resyncVerdict beaconId lastSent p = .accept) :
      ResyncLastMessage index lastSent (sentEvents peer p false)
        (.ended (.returned (.error .syncClosedTx))) lastSent
  | reached {p : BeaconPacket} (received : stream index = some p)
      (accepted : resyncVerdict beaconId lastSent p = .accept) (atTarget : p.round = upTo) :
      ResyncLastMessage index lastSent (sentEvents peer p true) (.ended (.returned (.ok ()))) p.round

/-- When the resync leaves the stream, its step is one of the ways to leave. -/
theorem resyncStep_some {index : Nat} {state state' : Resyncing Addr B} {exit : Exit}
    (leave : resyncStep beaconId txSynced upTo peer stream index state = (some exit, state')) :
    ∃ added, state'.events = state.events ++ added ∧
      ResyncLastMessage beaconId upTo peer stream index state.lastSent added exit state'.lastSent := by
  unfold resyncStep at leave
  dsimp only at leave
  split at leave
  · rename_i ended
    simp only [ended] at leave
    cases leave
    exact ⟨_, rfl, .closed ended⟩
  rename_i p received
  simp only [received, Resyncing.record_lastSent] at leave
  split at leave
  · rename_i rejected
    cases leave
    exact ⟨_, rfl, .skipped received rejected⟩
  · rename_i overflow
    cases leave
    exact ⟨_, rfl, .panicked received overflow⟩
  rename_i accepted
  obtain ⟨-, next_round, fits⟩ := (resyncVerdict_eq_accept beaconId).mp accepted
  split at leave
  · rename_i refused
    cases leave
    simp only [Bool.not_eq_true', Resyncing.record_events] at refused
    exact ⟨sentEvents peer p false, by simp [sentEvents, refused], .closedTx received accepted⟩
  rename_i delivered
  simp only [Bool.not_eq_true', Bool.not_eq_false, Resyncing.record_events] at delivered
  split at leave
  · rename_i overflow
    simp only [Resyncing.record_lastSent, addU64_eq_none] at overflow
    omega
  rename_i next computed
  obtain ⟨-, rfl⟩ := addU64_eq_some.mp computed
  split at leave
  · rename_i atTarget
    cases leave
    refine ⟨sentEvents peer p true, by simp [sentEvents, delivered], ?_⟩
    simpa [next_round] using ResyncLastMessage.reached received accepted (next_round.trans atTarget)
  · simp at leave

/-- A run of the stream loop reads on from what it forwards, then leaves at the next message. -/
theorem resyncStream_run {index : Nat} {state state' : Resyncing Addr B} {exit : Exit}
    (run : resyncStream beaconId txSynced upTo peer stream index state = (exit, state')) :
    ∃ ps added, ResyncReadOn beaconId upTo stream index state.lastSent ps ∧
      ResyncLastMessage beaconId upTo peer stream (index + ps.length) (state.lastSent + ps.length)
        added exit state'.lastSent ∧
      state'.events = state.events ++ (ps.map fun p => sentEvents peer p true).flatten ++ added := by
  induction index, state using resyncStream.induct beaconId txSynced upTo peer stream with
  | case1 index state next stepped ih =>
    rw [resyncStream_of_none beaconId txSynced upTo stepped] at run
    obtain ⟨ps, added, readOn, last, events⟩ := ih run
    obtain ⟨p, received, accepted, notTarget, rfl⟩ := resyncStep_none beaconId txSynced upTo stepped
    have next_round := ((resyncVerdict_eq_accept beaconId).mp accepted).2.1
    refine ⟨p :: ps, added, ⟨received, accepted, notTarget, readOn⟩, ?_, ?_⟩
    · simpa [next_round, Nat.add_assoc, Nat.add_comm 1] using last
    · simp [events, sentEvents]
  | case2 index state exit' next leave =>
    rw [resyncStream_of_some beaconId txSynced upTo leave] at run
    cases run
    obtain ⟨added, events, last⟩ := resyncStep_some beaconId txSynced upTo peer stream leave
    exact ⟨[], added, trivial, last, by simpa using events⟩

end Run

section Peers

variable (beaconId : String) (txSynced : Channel Addr B BeaconPacket) (upTo : Nat)
  (net : Network Addr)

/-- One pass of the resync's `'peers` loop on `peer`: its events, exit and round sent last. -/
inductive ResyncPass (peer : Addr) (lastSent : Nat) : List (Event Addr B) → Exit → Nat → Prop
  | overflow (reached : upTo ≤ lastSent) (big : 2 ^ 64 ≤ lastSent + 1) :
      ResyncPass peer lastSent [] (.ended .panicked) lastSent
  | behind (reached : upTo ≤ lastSent) (fits : lastSent + 1 < 2 ^ 64) :
      ResyncPass peer lastSent []
        (.ended (.returned (.error (.invalidTarget (lastSent + 1) upTo)))) lastSent
  | clientFailed (below : lastSent < upTo) (refused : net.protocolClient peer = false) :
      ResyncPass peer lastSent [.newClient peer false] .nextPeer lastSent
  | fromOverflow (below : lastSent < upTo) (opened : net.protocolClient peer = true)
      (big : 2 ^ 64 ≤ lastSent + 1) :
      ResyncPass peer lastSent [.newClient peer true] (.ended .panicked) lastSent
  | streamFailed (below : lastSent < upTo) (fits : lastSent + 1 < 2 ^ 64)
      (opened : net.protocolClient peer = true)
      (unopened : net.syncChain peer (lastSent + 1) beaconId = none) :
      ResyncPass peer lastSent [.newClient peer true, .syncChain peer (lastSent + 1) beaconId false]
        .nextPeer lastSent
  | streamed {stream : BeaconStream} {ps : List BeaconPacket} {added : List (Event Addr B)}
      {exit : Exit} {lastSent' : Nat} (below : lastSent < upTo) (fits : lastSent + 1 < 2 ^ 64)
      (opened : net.protocolClient peer = true)
      (answered : net.syncChain peer (lastSent + 1) beaconId = some stream)
      (readOn : ResyncReadOn beaconId upTo stream 0 lastSent ps)
      (leaves : ResyncLastMessage beaconId upTo peer stream ps.length (lastSent + ps.length) added
        exit lastSent') :
      ResyncPass peer lastSent
        ([.newClient peer true, .syncChain peer (lastSent + 1) beaconId true] ++
          (ps.map fun p => sentEvents peer p true).flatten ++ added) exit lastSent'

theorem resyncPeer_run {peer : Addr} {state state' : Resyncing Addr B} {exit : Exit}
    (pass : resyncPeer beaconId txSynced upTo net peer state = (exit, state')) :
    ∃ added, state'.events = state.events ++ added ∧
      ResyncPass beaconId upTo net peer state.lastSent added exit state'.lastSent := by
  unfold resyncPeer at pass
  dsimp only at pass
  split at pass
  · rename_i reached
    split at pass
    · cases pass
      rename_i big
      exact ⟨[], by simp, .overflow reached (addU64_eq_none.mp big)⟩
    · cases pass
      rename_i fromRound computed
      obtain ⟨fits, rfl⟩ := addU64_eq_some.mp computed
      exact ⟨[], by simp, .behind reached fits⟩
  rename_i notReached
  have below : state.lastSent < upTo := by omega
  split at pass
  · cases pass
    rename_i refused
    simp only [Bool.not_eq_true'] at refused
    refine ⟨_, rfl, ?_⟩
    rw [refused]
    exact .clientFailed below refused
  rename_i opened
  simp only [Bool.not_eq_true', Bool.not_eq_false] at opened
  split at pass
  · cases pass
    rename_i big
    exact ⟨_, by simp [opened], .fromOverflow below opened (by simpa using big)⟩
  rename_i fromRound computed
  simp only [Resyncing.record_lastSent] at computed
  obtain ⟨fits, rfl⟩ := addU64_eq_some.mp computed
  split at pass
  · cases pass
    rename_i unopened
    exact ⟨_, by simp [opened, unopened], .streamFailed below fits opened unopened⟩
  rename_i stream answered
  obtain ⟨ps, added, readOn, leaves, events⟩ := resyncStream_run beaconId txSynced upTo peer stream pass
  refine ⟨_, ?_, .streamed below fits opened answered (by simpa using readOn) (by simpa using leaves)⟩
  simp [events, opened, answered]

/-- The resync's passes over the peers tried: each but the last moves on. -/
inductive ResyncAttempts : List Addr → Nat → List (Event Addr B) → Exit → Nat → Prop
  | nil (lastSent : Nat) : ResyncAttempts [] lastSent [] .nextPeer lastSent
  | ended {peer : Addr} {lastSent lastSent' : Nat} {added : List (Event Addr B)} {joined : Joined}
      (pass : ResyncPass beaconId upTo net peer lastSent added (.ended joined) lastSent') :
      ResyncAttempts [peer] lastSent added (.ended joined) lastSent'
  | cons {peer : Addr} {peers : List Addr} {lastSent mid lastSent' : Nat}
      {added rest : List (Event Addr B)} {exit : Exit}
      (pass : ResyncPass beaconId upTo net peer lastSent added .nextPeer mid)
      (next : ResyncAttempts peers mid rest exit lastSent') :
      ResyncAttempts (peer :: peers) lastSent (added ++ rest) exit lastSent'

/-- The resync's `'peers` loop tries a prefix of the peers in order, one pass each. -/
theorem resyncPeers_run {peers : List Addr} {state state' : Resyncing Addr B} {joined : Joined}
    (run : resyncPeers beaconId txSynced upTo net peers state = (joined, state')) :
    ∃ tried added exit, tried <+: peers ∧
      ResyncAttempts beaconId upTo net tried state.lastSent added exit state'.lastSent ∧
      state'.events = state.events ++ added ∧
      (exit = .ended joined ∨
        (exit = .nextPeer ∧ tried = peers ∧ joined = .returned (.error (.triedAllPers state'.lastSent)))) := by
  induction peers generalizing state with
  | nil =>
    unfold resyncPeers at run
    cases run
    exact ⟨[], [], _, List.prefix_rfl, .nil _, by simp, .inr ⟨rfl, rfl, rfl⟩⟩
  | cons peer peers ih =>
    unfold resyncPeers at run
    split at run
    · rename_i mid moved
      obtain ⟨added, events, pass⟩ := resyncPeer_run beaconId txSynced upTo net moved
      obtain ⟨tried, rest, exit, inOrder, attempts, events', outcome⟩ := ih run
      refine ⟨peer :: tried, added ++ rest, exit, List.cons_prefix_cons.mpr ⟨rfl, inOrder⟩,
        .cons pass attempts, by simp [events', events], ?_⟩
      rcases outcome with rfl | ⟨rfl, rfl, rfl⟩
      · exact .inl rfl
      · exact .inr ⟨rfl, rfl, rfl⟩
    · rename_i joined' mid ended
      cases run
      obtain ⟨added, events, pass⟩ := resyncPeer_run beaconId txSynced upTo net ended
      exact ⟨[peer], added, _, by simp, .ended pass, events, .inl rfl⟩

/-- A resync from `start_from ≥ 1` is its `'peers` loop from the round before `start_from`. -/
theorem resync_run {startFrom : Nat} {peers : List Addr} (start : 1 ≤ startFrom) :
    ∃ tried events exit last joined, tried <+: peers ∧
      ResyncAttempts beaconId upTo net tried (startFrom - 1) events exit last ∧
      resync net startFrom upTo peers beaconId txSynced = (joined, events) ∧
      (exit = .ended joined ∨
        (exit = .nextPeer ∧ tried = peers ∧ joined = .returned (.error (.triedAllPers last)))) := by
  rcases run : resyncPeers beaconId txSynced upTo net peers ⟨startFrom - 1, []⟩ with
    ⟨joined, state'⟩
  obtain ⟨tried, added, exit, inOrder, attempts, events, outcome⟩ :=
    resyncPeers_run beaconId txSynced upTo net run
  refine ⟨tried, added, exit, state'.lastSent, joined, inOrder, attempts, ?_, outcome⟩
  rw [resync_of_pos start, run]
  simpa using events

end Peers

end Drand.Sync
