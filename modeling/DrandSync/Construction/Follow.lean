import DrandSync.Construction.World

/-
This file models `process_follow_request`: the `'peers` loop and the stream loop inside it.
-/

namespace Drand.Sync

open BeaconRepr

variable {Addr B Key Sig : Type}

/-- `DefaultSyncer`: the store, the chain info and the peers of one follow. -/
structure DefaultSyncer (Addr B Key : Type) where
  store : ChainStore Addr B
  info : ChainInfo Key
  peers : List Addr

/-- A follow session between two calls: the beacon stored last and the events so far. -/
structure Following (Addr B : Type) where
  lastStored : B
  events : List (Event Addr B)

/-- The session after one more call. -/
def Following.record (state : Following Addr B) (event : Event Addr B) : Following Addr B :=
  { state with events := state.events ++ [event] }

@[simp] theorem Following.record_lastStored (state : Following Addr B) (event : Event Addr B) :
    (state.record event).lastStored = state.lastStored := rfl

@[simp] theorem Following.record_events (state : Following Addr B) (event : Event Addr B) :
    (state.record event).events = state.events ++ [event] := rfl

section Loops

variable [BeaconRepr B] (syncer : DefaultSyncer Addr B Key) (scheme : Scheme Key Sig)
  (tx : Channel Addr B SyncProgressResponse) (target startedFrom : Nat)

/-- The stream loop's checks on `p` after `last`, in order, with the panic of `target - p.round`. -/
def DefaultSyncer.verdict (last : B) (p : BeaconPacket) : Verdict :=
  match p.metadata with
  | none => .skip
  | some metadata =>
    if syncer.info.beaconId ≠ metadata.beaconId then .skip else
    match addU64 (round last) 1 with
    | none => .panic
    | some expected =>
      if p.round ≠ expected then .skip else
      match subU64 target p.round with
      | none => .panic
      | some _ =>
        match scheme.deserialize p.signature with
        | none => .skip
        | some sig =>
          if scheme.isValidSignature syncer.info.publicKey (signature last) p.round sig then .accept
          else .skip

/-- One pass of the stream loop on message `index` (`none`: it reads on), with its logs' panics. -/
def DefaultSyncer.followStep (peer : Addr) (stream : BeaconStream) (index : Nat)
    (state : Following Addr B) : Option Exit × Following Addr B :=
  let state := state.record (.message peer (stream index))
  match stream index with
  | none => (some .nextPeer, state)
  | some p =>
    match syncer.verdict scheme target state.lastStored p with
    | .skip => (some .nextPeer, state)
    | .panic => (some (.ended .panicked), state)
    | .accept =>
      let beacon := fromPacket p
      let stored := syncer.store.put state.events beacon
      let state := state.record (.put beacon stored.toBool)
      match stored with
      | .error err => (some (.ended (.returned (.error (.chainStore err)))), state)
      | .ok () =>
        let progress : SyncProgressResponse := .ok ⟨round beacon, target⟩
        let delivered := tx.send state.events progress
        let state : Following Addr B := ⟨beacon, state.events ++ [.sendProgress progress delivered]⟩
        if !delivered then
          match subU64 (round beacon) startedFrom with
          | none => (some (.ended .panicked), state)
          | some _ => (some (.ended (.returned (.ok ()))), state)
        else if round beacon = target then (some (.ended (.returned (.ok ()))), state)
        else (none, state)

/-- A packet the checks accept has the next round, at most the target. -/
theorem DefaultSyncer.verdict_accept_round {last : B} {p : BeaconPacket}
    (accepted : syncer.verdict scheme target last p = .accept) :
    p.round = round last + 1 ∧ p.round ≤ target := by
  unfold DefaultSyncer.verdict at accepted
  split at accepted
  · cases accepted
  · split at accepted
    · cases accepted
    · split at accepted
      · cases accepted
      · split at accepted
        · cases accepted
        · split at accepted
          · cases accepted
          · simp_all
          
/-- When the stream loop reads on, it stored and reported an accepted packet below the target. -/
theorem DefaultSyncer.followStep_none {peer : Addr} {stream : BeaconStream} {index : Nat}
    {state state' : Following Addr B}
    (next : syncer.followStep scheme tx target startedFrom peer stream index state = (none, state')) :
    ∃ p, stream index = some p ∧ syncer.verdict scheme target state.lastStored p = .accept ∧
      p.round ≠ target ∧ state' = ⟨fromPacket p, state.events ++ [.message peer (some p),
        .put (fromPacket p) true, .sendProgress (.ok ⟨p.round, target⟩) true]⟩ := by
  unfold DefaultSyncer.followStep at next
  dsimp only at next
  split at next
  · simp at next
  · rename_i p received
    split at next
    · simp at next
    · simp at next
    · rename_i accepted
      split at next
      · simp at next
      · split at next
        · split at next <;> simp at next
        · split at next
          · simp at next
          · rename_i stored delivered _
            simp_all

/-- The stream loop from message `index`; each pass that reads on raises the stored round. -/
def DefaultSyncer.followStream (peer : Addr) (stream : BeaconStream) (index : Nat)
    (state : Following Addr B) : Exit × Following Addr B :=
  match next : syncer.followStep scheme tx target startedFrom peer stream index state with
  | (none, state') => DefaultSyncer.followStream peer stream (index + 1) state'
  | (some exit, state') => (exit, state')
termination_by target - round state.lastStored
decreasing_by
  obtain ⟨p, -, accepted, -, rfl⟩ := syncer.followStep_none scheme tx target startedFrom next
  have := syncer.verdict_accept_round scheme target accepted
  simp only [round_fromPacket]
  omega

theorem DefaultSyncer.followStream_of_none {peer : Addr} {stream : BeaconStream} {index : Nat}
    {state state' : Following Addr B}
    (next : syncer.followStep scheme tx target startedFrom peer stream index state = (none, state')) :
    syncer.followStream scheme tx target startedFrom peer stream index state =
      syncer.followStream scheme tx target startedFrom peer stream (index + 1) state' := by
  rw [DefaultSyncer.followStream]
  split <;> simp_all

theorem DefaultSyncer.followStream_of_some {peer : Addr} {stream : BeaconStream} {index : Nat}
    {state state' : Following Addr B} {exit : Exit}
    (leave : syncer.followStep scheme tx target startedFrom peer stream index state =
      (some exit, state')) :
    syncer.followStream scheme tx target startedFrom peer stream index state = (exit, state') := by
  rw [DefaultSyncer.followStream]
  split <;> simp_all

/-- One pass of the `'peers` loop on `peer`: target check, client, stream, stream loop. -/
def DefaultSyncer.followPeer (net : Network Addr) (peer : Addr) (state : Following Addr B) :
    Exit × Following Addr B :=
  match addU64 (round state.lastStored) 1 with
  | none => (.ended .panicked, state)
  | some fromRound =>
    if target < fromRound then (.ended (.returned (.error (.invalidTarget fromRound target))), state)
    else
      let opened := net.protocolClient peer
      let state := state.record (.newClient peer opened)
      if !opened then (.nextPeer, state) else
      let answer := net.syncChain peer fromRound syncer.info.beaconId
      let state := state.record (.syncChain peer fromRound syncer.info.beaconId answer.isSome)
      match answer with
      | none => (.nextPeer, state)
      | some stream => syncer.followStream scheme tx target startedFrom peer stream 0 state

/-- The `'peers` loop over `peers`, then the final check and report. -/
def DefaultSyncer.followPeers (net : Network Addr) :
    List Addr → Following Addr B → Joined × Following Addr B
  | [], state =>
    if round state.lastStored ≠ target then
      let err := SyncError.triedAllPers (round state.lastStored)
      let response : SyncProgressResponse := .error (Status.cancelled err.toString)
      (.returned (.error err), state.record (.sendProgress response (tx.send state.events response)))
    else (.returned (.ok ()), state)
  | peer :: peers, state =>
    match syncer.followPeer scheme tx target startedFrom net peer state with
    | (.nextPeer, state) => DefaultSyncer.followPeers net peers state
    | (.ended joined, state) => (joined, state)

end Loops

section Request

variable [BeaconRepr B] (syncer : DefaultSyncer Addr B Key) (scheme : Scheme Key Sig)
  (tx : Channel Addr B SyncProgressResponse) (target : Nat)

/-- `process_follow_request`: how the task ends and the calls it made. -/
def DefaultSyncer.processFollowRequest (net : Network Addr) : Joined × List (Event Addr B) :=
  match syncer.store.last with
  | .error err => (.returned (.error (.chainStore err)), [.storeLast])
  | .ok last =>
    if target ≤ round last then (.returned (.ok ()), [.storeLast])
    else
      match subU64 target (round last) with
      | none => (.panicked, [.storeLast])
      | some _ =>
        let run := syncer.followPeers scheme tx target (round last) net syncer.peers
          ⟨last, [.storeLast]⟩
        (run.1, run.2.events)

theorem DefaultSyncer.processFollowRequest_of_error {net : Network Addr} {err : StoreError}
    (failed : syncer.store.last = .error err) :
    syncer.processFollowRequest scheme tx target net =
      (.returned (.error (.chainStore err)), [.storeLast]) := by
  simp [DefaultSyncer.processFollowRequest, failed]

theorem DefaultSyncer.processFollowRequest_of_le {net : Network Addr} {tail : B}
    (stored : syncer.store.last = .ok tail) (reached : target ≤ round tail) :
    syncer.processFollowRequest scheme tx target net = (.returned (.ok ()), [.storeLast]) := by
  simp [DefaultSyncer.processFollowRequest, stored, reached]

theorem DefaultSyncer.processFollowRequest_of_lt {net : Network Addr} {tail : B}
    (stored : syncer.store.last = .ok tail) (below : round tail < target) :
    syncer.processFollowRequest scheme tx target net =
      let run := syncer.followPeers scheme tx target (round tail) net syncer.peers
        ⟨tail, [.storeLast]⟩
      (run.1, run.2.events) := by
  simp [DefaultSyncer.processFollowRequest, stored, Nat.not_le.mpr below, subU64_of_le below.le]

end Request

end Drand.Sync
