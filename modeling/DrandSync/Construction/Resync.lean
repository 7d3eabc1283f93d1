import DrandSync.Construction.World

/-
This file models `resync`: the follow's `'peers` loop, forwarding on `tx_synced` unverified.
-/

namespace Drand.Sync

variable {Addr B : Type}

/-- A resync between two calls: the round of the packet sent last and the events so far. -/
structure Resyncing (Addr B : Type) where
  lastSent : Nat
  events : List (Event Addr B)

/-- The resync after one more call. -/
def Resyncing.record (state : Resyncing Addr B) (event : Event Addr B) : Resyncing Addr B :=
  { state with events := state.events ++ [event] }

@[simp] theorem Resyncing.record_lastSent (state : Resyncing Addr B) (event : Event Addr B) :
    (state.record event).lastSent = state.lastSent := rfl

@[simp] theorem Resyncing.record_events (state : Resyncing Addr B) (event : Event Addr B) :
    (state.record event).events = state.events ++ [event] := rfl

section Loops

variable (beaconId : String) (txSynced : Channel Addr B BeaconPacket) (upTo : Nat)

/-- The checks of the resync's stream loop on packet `p` after the round `last_sent`. -/
def resyncVerdict (lastSent : Nat) (p : BeaconPacket) : Verdict :=
  match p.metadata with
  | none => .skip
  | some metadata =>
    if beaconId ≠ metadata.beaconId then .skip else
    match addU64 lastSent 1 with
    | none => .panic
    | some expected => if p.round ≠ expected then .skip else .accept

/-- One pass of the resync's stream loop on message `index`; `none` when it reads on. -/
def resyncStep (peer : Addr) (stream : BeaconStream) (index : Nat) (state : Resyncing Addr B) :
    Option Exit × Resyncing Addr B :=
  let state := state.record (.message peer (stream index))
  match stream index with
  | none => (some .nextPeer, state)
  | some p =>
    match resyncVerdict beaconId state.lastSent p with
    | .skip => (some .nextPeer, state)
    | .panic => (some (.ended .panicked), state)
    | .accept =>
      let delivered := txSynced.send state.events p
      let state := state.record (.sendSynced p delivered)
      if !delivered then (some (.ended (.returned (.error .syncClosedTx))), state) else
      match addU64 state.lastSent 1 with
      | none => (some (.ended .panicked), state)
      | some next =>
        let state := { state with lastSent := next }
        if next = upTo then (some (.ended (.returned (.ok ()))), state) else (none, state)

/-- The checks take exactly a packet that names the beacon id and has the next `u64` round. -/
theorem resyncVerdict_eq_accept {lastSent : Nat} {p : BeaconPacket} :
    resyncVerdict beaconId lastSent p = .accept ↔
      (∃ metadata, p.metadata = some metadata ∧ metadata.beaconId = beaconId) ∧
        p.round = lastSent + 1 ∧ lastSent + 1 < 2 ^ 64 := by
  unfold resyncVerdict
  split
  · simp_all
  rename_i metadata present
  split
  · simp_all [eq_comm]
  rename_i same
  split
  · simp_all
  rename_i expected computed
  obtain ⟨fits, rfl⟩ := addU64_eq_some.mp computed
  split <;> simp_all [eq_comm]

/-- When the resync reads on, it sent an accepted packet whose round is not `up_to`. -/
theorem resyncStep_none {peer : Addr} {stream : BeaconStream} {index : Nat}
    {state state' : Resyncing Addr B}
    (next : resyncStep beaconId txSynced upTo peer stream index state = (none, state')) :
    ∃ p, stream index = some p ∧ resyncVerdict beaconId state.lastSent p = .accept ∧
      p.round ≠ upTo ∧ state' = ⟨p.round, state.events ++ [.message peer (some p),
        .sendSynced p true]⟩ := by
  unfold resyncStep at next
  dsimp only at next
  split at next
  · simp at next
  rename_i p received
  split at next
  · simp at next
  · simp at next
  rename_i accepted
  simp only [Resyncing.record_lastSent] at accepted next
  obtain ⟨-, next_round, fits⟩ := (resyncVerdict_eq_accept beaconId).mp accepted
  split at next
  · simp at next
  split at next
  · simp_all
  split at next
  · simp at next
  · simp_all

/-- The resync's stream loop from message `index`; each pass that reads on raises `last_sent`. -/
def resyncStream (peer : Addr) (stream : BeaconStream) (index : Nat) (state : Resyncing Addr B) :
    Exit × Resyncing Addr B :=
  match next : resyncStep beaconId txSynced upTo peer stream index state with
  | (none, state') => resyncStream peer stream (index + 1) state'
  | (some exit, state') => (exit, state')
termination_by 2 ^ 64 - state.lastSent
decreasing_by
  obtain ⟨p, -, accepted, -, rfl⟩ := resyncStep_none beaconId txSynced upTo next
  obtain ⟨-, next, fits⟩ := (resyncVerdict_eq_accept beaconId).mp accepted
  dsimp only
  omega

theorem resyncStream_of_none {peer : Addr} {stream : BeaconStream} {index : Nat}
    {state state' : Resyncing Addr B}
    (next : resyncStep beaconId txSynced upTo peer stream index state = (none, state')) :
    resyncStream beaconId txSynced upTo peer stream index state =
      resyncStream beaconId txSynced upTo peer stream (index + 1) state' := by
  rw [resyncStream]
  split <;> simp_all

theorem resyncStream_of_some {peer : Addr} {stream : BeaconStream} {index : Nat}
    {state state' : Resyncing Addr B} {exit : Exit}
    (leave : resyncStep beaconId txSynced upTo peer stream index state = (some exit, state')) :
    resyncStream beaconId txSynced upTo peer stream index state = (exit, state') := by
  rw [resyncStream]
  split <;> simp_all

/-- One pass of the resync's `'peers` loop on `peer`. -/
def resyncPeer (net : Network Addr) (peer : Addr) (state : Resyncing Addr B) :
    Exit × Resyncing Addr B :=
  if upTo ≤ state.lastSent then
    match addU64 state.lastSent 1 with
    | none => (.ended .panicked, state)
    | some fromRound => (.ended (.returned (.error (.invalidTarget fromRound upTo))), state)
  else
    let opened := net.protocolClient peer
    let state := state.record (.newClient peer opened)
    if !opened then (.nextPeer, state) else
    match addU64 state.lastSent 1 with
    | none => (.ended .panicked, state)
    | some fromRound =>
      let answer := net.syncChain peer fromRound beaconId
      let state := state.record (.syncChain peer fromRound beaconId answer.isSome)
      match answer with
      | none => (.nextPeer, state)
      | some stream => resyncStream beaconId txSynced upTo peer stream 0 state

/-- The resync's `'peers` loop over `peers`; out of peers, it fails with the round sent last. -/
def resyncPeers (net : Network Addr) : List Addr → Resyncing Addr B → Joined × Resyncing Addr B
  | [], state => (.returned (.error (.triedAllPers state.lastSent)), state)
  | peer :: peers, state =>
    match resyncPeer beaconId txSynced upTo net peer state with
    | (.nextPeer, state) => resyncPeers net peers state
    | (.ended joined, state) => (joined, state)

end Loops

/-- `resync` from `start_from` up to `up_to`: how the task ends and the calls it made. -/
def resync (net : Network Addr) (startFrom upTo : Nat) (peers : List Addr) (beaconId : String)
    (txSynced : Channel Addr B BeaconPacket) : Joined × List (Event Addr B) :=
  match subU64 startFrom 1 with
  | none => (.panicked, [])
  | some lastSent =>
    let run := resyncPeers beaconId txSynced upTo net peers ⟨lastSent, []⟩
    (run.1, run.2.events)

section Resync

variable {net : Network Addr} {startFrom upTo : Nat} {beaconId : String}
  {txSynced : Channel Addr B BeaconPacket}

theorem resync_of_zero (peers : List Addr) :
    resync net 0 upTo peers beaconId txSynced = (.panicked, []) := rfl

theorem resync_of_pos {peers : List Addr} (start : 1 ≤ startFrom) :
    resync net startFrom upTo peers beaconId txSynced =
      let run := resyncPeers beaconId txSynced upTo net peers ⟨startFrom - 1, []⟩
      (run.1, run.2.events) := by
  simp [resync, subU64_of_le start]

/-- With no peer the resync fails at once with the round before `start_from`. -/
theorem resync_of_nil (start : 1 ≤ startFrom) :
    resync net startFrom upTo [] beaconId txSynced =
      (.returned (.error (.triedAllPers (startFrom - 1))), []) := by
  simp [resync_of_pos start, resyncPeers]

/-- A window that ends before `start_from` fails the first target check before any call. -/
theorem resync_of_behind {peer : Addr} {peers : List Addr} (start : 1 ≤ startFrom)
    (fits : startFrom < 2 ^ 64) (behind : upTo < startFrom) :
    resync net startFrom upTo (peer :: peers) beaconId txSynced =
      (.returned (.error (.invalidTarget startFrom upTo)), []) := by
  have reached : upTo ≤ startFrom - 1 := by omega
  have next : startFrom - 1 + 1 = startFrom := by omega
  simp [resync_of_pos start, resyncPeers, resyncPeer, reached, addU64_of_lt (next ▸ fits), next]

end Resync

end Drand.Sync
