import DrandSync.Proof.FollowVerified

/-
This file proves how a follow session ends, from the invariant of its `'peers` loop.
-/

namespace Drand.Sync

open BeaconRepr

variable {Addr B Key Sig : Type}

/-- The peer of a `ProtocolClient::new` call. -/
def Event.clientPeer : Event Addr B → Option Addr
  | .newClient peer _ => some peer
  | _ => none

/-- The peers of the `ProtocolClient::new` calls, in the order of the calls. -/
def clientCalls (events : List (Event Addr B)) : List Addr := events.filterMap Event.clientPeer

@[simp] theorem clientCalls_append (events events' : List (Event Addr B)) :
    clientCalls (events ++ events') = clientCalls events ++ clientCalls events' :=
  List.filterMap_append _ _ _

variable [BeaconRepr B]

@[simp] theorem clientCalls_storedEvents (peer : Addr) (target : Nat) (ps : List BeaconPacket)
    (delivered : Bool) :
    clientCalls (ps.map fun p => (storedEvents peer target p delivered : List (Event Addr B))).flatten
      = [] := by
  induction ps <;> simp_all [clientCalls, storedEvents, Event.clientPeer]

/-- The beacon stored last after a run of packets is the beacon of the last one. -/
theorem lastStoredAfter_eq_getLast (last : B) (ps : List BeaconPacket) :
    lastStoredAfter last ps = ((ps.map fromPacket).getLast?).getD last := by
  induction ps generalizing last with
  | nil => rfl
  | cons p ps ih => simp [ih, List.getLast?_cons]

section Invariant

variable (syncer : DefaultSyncer Addr B Key) (scheme : Scheme Key Sig)
  (target startedFrom : Nat) (net : Network Addr)

/-- Inside the `'peers` loop: from the start round, below the target, which is a `u64`. -/
def Within (startedFrom target : Nat) (last : B) : Prop :=
  startedFrom ≤ round last ∧ round last < target ∧ target < 2 ^ 64

/-- The checks panic only past the target or past `u64::MAX`. -/
theorem DefaultSyncer.verdict_ne_panic {last : B} (below : round last < target)
    (fits : target < 2 ^ 64) (p : BeaconPacket) : syncer.verdict scheme target last p ≠ .panic := by
  unfold DefaultSyncer.verdict
  split
  · simp
  split
  · simp
  rw [addU64_of_lt (by omega)]
  dsimp only
  split
  · simp
  rw [subU64_of_le (by omega)]
  dsimp only
  split
  · simp
  split <;> simp

/-- Reading on from stored messages keeps the round below the target, one round a message. -/
theorem DefaultSyncer.readOn_round {stream : BeaconStream} {index : Nat} {last : B}
    {ps : List BeaconPacket} (readOn : syncer.ReadOn scheme target stream index last ps) :
    round (lastStoredAfter last ps) = round last + ps.length ∧
      (round last < target → round (lastStoredAfter last ps) < target) := by
  induction ps generalizing index last with
  | nil => simp
  | cons p ps ih =>
    obtain ⟨-, accepted, notTarget, rest⟩ := readOn
    obtain ⟨next, atMost⟩ := syncer.verdict_accept_round scheme target accepted
    obtain ⟨rounds, below⟩ := ih rest
    simp only [round_fromPacket, lastStoredAfter_cons, List.length_cons] at rounds below ⊢
    exact ⟨by omega, fun _ => below (by omega)⟩

/-- How a pass ends the session inside the loop: at the target, a gone receiver or a failed put. -/
inductive FollowEnd (peer : Addr) (target : Nat) : List (Event Addr B) → Joined → Prop
  | reached {p : BeaconPacket} (atTarget : p.round = target) :
      FollowEnd peer target (storedEvents peer target p true) (.returned (.ok ()))
  | receiverGone {p : BeaconPacket} :
      FollowEnd peer target (storedEvents peer target p false) (.returned (.ok ()))
  | putFailed {p : BeaconPacket} {err : StoreError} :
      FollowEnd peer target [.message peer (some p), .put (fromPacket p) false]
        (.returned (.error (.chainStore err)))

/-- Inside the loop a stream is left for the next peer with nothing stored, or ends the session. -/
theorem DefaultSyncer.lastMessage_within {peer : Addr} {stream : BeaconStream} {index : Nat}
    {last last' : B} {added : List (Event Addr B)} {exit : Exit}
    (within : Within startedFrom target last)
    (leaves : syncer.LastMessage scheme target startedFrom peer stream index last added exit last') :
    (exit = .nextPeer ∧ last' = last ∧ added = [.message peer (stream index)]) ∨
      ∃ joined, exit = .ended joined ∧ FollowEnd peer target added joined := by
  obtain ⟨fromStart, below, fits⟩ := within
  cases leaves with
  | closed ended => exact .inl ⟨rfl, rfl, by rw [ended]⟩
  | skipped received => exact .inl ⟨rfl, rfl, by rw [received]⟩
  | panicked _ overflow => exact absurd overflow (syncer.verdict_ne_panic scheme target below fits _)
  | putFailed => exact .inr ⟨_, rfl, .putFailed⟩
  | receiverGone => exact .inr ⟨_, rfl, .receiverGone⟩
  | logPanicked _ accepted belowStart =>
    have := (syncer.verdict_accept_round scheme target accepted).1
    omega
  | targetReached _ _ atTarget => exact .inr ⟨_, rfl, .reached atTarget⟩

/-- Inside the loop a pass moves on with the stored beacon inside, or ends the session. -/
theorem DefaultSyncer.peerPass_within {peer : Addr} {last last' : B}
    {added : List (Event Addr B)} {exit : Exit} (within : Within startedFrom target last)
    (pass : syncer.PeerPass scheme target startedFrom net peer last added exit last') :
    (exit = .nextPeer ∧ Within startedFrom target last') ∨
      ∃ joined pre final, exit = .ended joined ∧ added = pre ++ final ∧ FollowEnd peer target final joined := by
  have ⟨fromStart, below, fits⟩ := within
  cases pass with
  | overflow big => omega
  | behind _ past => omega
  | clientFailed | streamFailed => exact .inl ⟨rfl, within⟩
  | @streamed _ ps _ _ _ _ _ _ _ readOn leaves =>
    obtain ⟨rounds, stillBelow⟩ := syncer.readOn_round scheme target readOn
    have inside : Within startedFrom target (lastStoredAfter last ps) :=
      ⟨by omega, stillBelow below, fits⟩
    rcases syncer.lastMessage_within scheme target startedFrom inside leaves with
      ⟨rfl, rfl, -⟩ | ⟨joined, rfl, final⟩
    · exact .inl ⟨rfl, inside⟩
    · exact .inr ⟨joined, _, _, rfl, rfl, final⟩

/-- Inside the loop the passes keep the stored beacon inside; only the last can end the session. -/
theorem DefaultSyncer.attempts_within {tried : List Addr} {last last' : B}
    {added : List (Event Addr B)} {exit : Exit} (within : Within startedFrom target last)
    (attempts : syncer.Attempts scheme target startedFrom net tried last added exit last') :
    (exit = .nextPeer ∧ Within startedFrom target last') ∨
      ∃ joined pre final peer, exit = .ended joined ∧ added = pre ++ final ∧
        FollowEnd peer target final joined := by
  induction attempts with
  | nil => exact .inl ⟨rfl, within⟩
  | ended pass =>
    rcases syncer.peerPass_within scheme target startedFrom net within pass with
      ⟨next, -⟩ | ⟨joined, pre, final, ended, events, finalEnd⟩
    · cases next
    · exact .inr ⟨joined, pre, final, _, ended, events, finalEnd⟩
  | @cons _ _ _ _ _ added _ _ pass _ ih =>
    rcases syncer.peerPass_within scheme target startedFrom net within pass with
      ⟨-, inside⟩ | ⟨_, _, _, ended, -⟩
    · rcases ih inside with moved | ⟨joined, pre, final, peer, ended, events, finalEnd⟩
      · exact .inl moved
      · exact .inr ⟨joined, added ++ pre, final, peer, ended, by simp [events], finalEnd⟩
    · cases ended

theorem DefaultSyncer.lastMessage_clientCalls {peer : Addr} {stream : BeaconStream} {index : Nat}
    {last last' : B} {added : List (Event Addr B)} {exit : Exit}
    (leaves : syncer.LastMessage scheme target startedFrom peer stream index last added exit last') :
    clientCalls added = [] := by
  cases leaves <;> simp [clientCalls, storedEvents, Event.clientPeer]

/-- Inside the loop every pass opens one client, for its own peer. -/
theorem DefaultSyncer.attempts_clientCalls {tried : List Addr} {last last' : B}
    {added : List (Event Addr B)} {exit : Exit} (within : Within startedFrom target last)
    (attempts : syncer.Attempts scheme target startedFrom net tried last added exit last') :
    clientCalls added = tried := by
  have pass_calls : ∀ {peer last last' added exit}, Within startedFrom target last →
      syncer.PeerPass scheme target startedFrom net peer last added exit last' →
      clientCalls added = [peer] := by
    intro peer last last' added exit ⟨_, below, fits⟩ pass
    cases pass with
    | overflow | behind => omega
    | clientFailed | streamFailed => simp [clientCalls, Event.clientPeer]
    | streamed _ _ _ _ _ leaves =>
      rw [clientCalls_append, clientCalls_append, clientCalls_storedEvents,
        syncer.lastMessage_clientCalls scheme target startedFrom leaves]
      simp [clientCalls, Event.clientPeer]
  induction attempts with
  | nil => rfl
  | ended pass => exact pass_calls within pass
  | cons pass _ ih =>
    rcases syncer.peerPass_within scheme target startedFrom net within pass with
      ⟨-, inside⟩ | ⟨_, _, _, ended, -⟩
    · simp [pass_calls within pass, ih inside]
    · cases ended

end Invariant

section Session

variable (syncer : DefaultSyncer Addr B Key) (scheme : Scheme Key Sig)
  (tx : Channel Addr B SyncProgressResponse) (target : Nat) (net : Network Addr)

/-- Below a `u64` target a follow opens clients to a prefix of its peers, in order, one each. -/
theorem DefaultSyncer.processFollowRequest_clientCalls (fits : target < 2 ^ 64) :
    clientCalls (syncer.processFollowRequest scheme tx target net).2 <+: syncer.peers := by
  rcases lastAnswer : syncer.store.last with err | tail
  · rw [syncer.processFollowRequest_of_error scheme tx target lastAnswer]
    exact List.nil_prefix
  rcases Nat.lt_or_ge (round tail) target with below | reached
  swap
  · rw [syncer.processFollowRequest_of_le scheme tx target lastAnswer reached]
    exact List.nil_prefix
  obtain ⟨tried, added, _, _, _, final, inOrder, attempts, run, outcome⟩ :=
    syncer.processFollowRequest_run scheme target net tx lastAnswer below
  have calls := syncer.attempts_clientCalls scheme target (round tail) net ⟨le_rfl, below, fits⟩
    attempts
  have finalCalls : clientCalls final = [] := by
    rcases outcome with ⟨-, rfl⟩ | ⟨-, -, _ | _⟩ <;> rfl
  rw [run, clientCalls_append, finalCalls, List.append_nil]
  show clientCalls added <+: _
  rw [calls]
  exact inOrder

/-- A follow below its target tries a prefix of its peers in order, one pass each. -/
theorem DefaultSyncer.processFollowRequest_tries_peers_in_order {tail : B}
    (stored : syncer.store.last = .ok tail) (below : round tail < target) :
    ∃ tried added exit last final, tried <+: syncer.peers ∧
      syncer.Attempts scheme target (round tail) net tried tail added exit last ∧
      (syncer.processFollowRequest scheme tx target net).2 = .storeLast :: added ++ final ∧
      ((∃ joined, exit = .ended joined ∧ final = []) ∨
        (exit = .nextPeer ∧ tried = syncer.peers ∧ ∃ joined, Exhausted tx target last final joined)) := by
  obtain ⟨tried, added, exit, last, joined, final, inOrder, attempts, run, outcome⟩ :=
    syncer.processFollowRequest_run scheme target net tx stored below
  rw [run]
  refine ⟨tried, added, exit, last, final, inOrder, attempts, rfl, ?_⟩
  rcases outcome with ⟨ended, empty⟩ | ⟨next, all, exhausted⟩
  · exact .inl ⟨joined, ended, empty⟩
  · exact .inr ⟨next, all, joined, exhausted⟩

theorem processFollowRequest_tries_peers_in_order_sample :
    sampleSyncer.store.last = .ok ⟨[], 10, []⟩ ∧ round (⟨[], 10, []⟩ : Beacon) < 15 ∧
    ∃ tried added exit last final, tried <+: sampleSyncer.peers ∧
      sampleSyncer.Attempts sampleScheme 15 (round (⟨[], 10, []⟩ : Beacon)) sampleNetwork tried
        ⟨[], 10, []⟩ added exit last ∧
      (sampleSyncer.processFollowRequest sampleScheme sampleProgress 15 sampleNetwork).2 =
        .storeLast :: added ++ final ∧
      ((∃ joined, exit = .ended joined ∧ final = []) ∨ (exit = .nextPeer ∧
        tried = sampleSyncer.peers ∧ ∃ joined, Exhausted sampleProgress 15 last final joined)) :=
  ⟨rfl, by decide, sampleSyncer.processFollowRequest_tries_peers_in_order sampleScheme
    sampleProgress 15 sampleNetwork rfl (by decide)⟩

/-- Every way a follow session with a `u64` target can end. -/
theorem DefaultSyncer.processFollowRequest_outcome (fits : target < 2 ^ 64) :
    (∀ err, syncer.store.last = .error err →
      syncer.processFollowRequest scheme tx target net =
        (.returned (.error (.chainStore err)), [.storeLast])) ∧
    (∀ tail, syncer.store.last = .ok tail → target ≤ round tail →
      syncer.processFollowRequest scheme tx target net = (.returned (.ok ()), [.storeLast])) ∧
    (∀ tail, syncer.store.last = .ok tail → round tail < target →
      (∃ pre peer final joined, FollowEnd peer target final joined ∧
        syncer.processFollowRequest scheme tx target net = (joined, pre ++ final)) ∨
      (∃ pre delivered, clientCalls pre = syncer.peers ∧
        round (((putCalls pre).getLast?).getD tail) < target ∧
        syncer.processFollowRequest scheme tx target net =
          (.returned (.error (.triedAllPers (round (((putCalls pre).getLast?).getD tail)))),
            pre ++ [.sendProgress (.error (Status.cancelled
              (SyncError.triedAllPers (round (((putCalls pre).getLast?).getD tail))).toString))
              delivered]))) := by
  refine ⟨fun _ failed => syncer.processFollowRequest_of_error scheme tx target failed,
    fun _ stored reached => syncer.processFollowRequest_of_le scheme tx target stored reached,
    fun tail stored below => ?_⟩
  obtain ⟨tried, added, exit, last, joined, final, -, attempts, run, outcome⟩ :=
    syncer.processFollowRequest_run scheme target net tx stored below
  rw [run]
  have within : Within (round tail) target tail := ⟨le_rfl, below, fits⟩
  rcases syncer.attempts_within scheme target (round tail) net within attempts with
    ⟨rfl, inside⟩ | ⟨ended, pre, final', peer, rfl, events, finalEnd⟩
  · rcases outcome with ⟨stop, -⟩ | ⟨-, rfl, exhausted⟩
    · cases stop
    obtain ⟨qs, puts, -, moved⟩ := syncer.attempts_puts scheme target (round tail) net attempts
    cases exhausted with
    | reached atTarget => exact absurd atTarget inside.2.1.ne
    | short _ delivered =>
      have last_eq : ((putCalls (.storeLast :: added)).getLast?).getD tail = last := by
        show ((putCalls added).getLast?).getD tail = _
        rw [puts, moved rfl, lastStoredAfter_eq_getLast]
      refine .inr ⟨.storeLast :: added, delivered, ?_, ?_, ?_⟩
      · simpa [clientCalls, Event.clientPeer] using
          syncer.attempts_clientCalls scheme target (round tail) net within attempts
      · rw [last_eq]
        exact inside.2.1
      · rw [last_eq]
  · rcases outcome with ⟨stop, rfl⟩ | ⟨stop, -⟩
    · cases stop
      exact .inl ⟨.storeLast :: pre, peer, final', joined, finalEnd, by simp [events]⟩
    · cases stop

end Session

theorem processFollowRequest_outcome_sample :
    15 < 2 ^ 64 ∧
    (∀ err, sampleSyncer.store.last = .error err →
      sampleSyncer.processFollowRequest sampleScheme sampleProgress 15 sampleNetwork =
        (.returned (.error (.chainStore err)), [.storeLast])) ∧
    (∀ tail, sampleSyncer.store.last = .ok tail → 15 ≤ round tail →
      sampleSyncer.processFollowRequest sampleScheme sampleProgress 15 sampleNetwork =
        (.returned (.ok ()), [.storeLast])) ∧
    (∀ tail, sampleSyncer.store.last = .ok tail → round tail < 15 →
      (∃ pre peer final joined, FollowEnd peer 15 final joined ∧
        sampleSyncer.processFollowRequest sampleScheme sampleProgress 15 sampleNetwork =
          (joined, pre ++ final)) ∨
      (∃ pre delivered, clientCalls pre = sampleSyncer.peers ∧
        round (((putCalls pre).getLast?).getD tail) < 15 ∧
        sampleSyncer.processFollowRequest sampleScheme sampleProgress 15 sampleNetwork =
          (.returned (.error (.triedAllPers (round (((putCalls pre).getLast?).getD tail)))),
            pre ++ [.sendProgress (.error (Status.cancelled
              (SyncError.triedAllPers (round (((putCalls pre).getLast?).getD tail))).toString))
              delivered]))) :=
  ⟨by decide, sampleSyncer.processFollowRequest_outcome sampleScheme sampleProgress 15 sampleNetwork
    (by decide)⟩

end Drand.Sync
