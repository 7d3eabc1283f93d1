import DrandSync.Proof.FollowOutcome
import DrandSync.Proof.ResyncOutcome

/-
This file proves that neither loop panics on `u64` arithmetic, and bounds the reads of each.
-/

namespace Drand.Sync

open BeaconRepr

variable {Addr B Key Sig : Type}

/-- A message read from a stream. -/
def Event.isMessage : Event Addr B → Bool
  | .message .. => true
  | _ => false

/-- A `sync_chain` call: a stream asked from a peer. -/
def Event.isStreamRequest : Event Addr B → Bool
  | .syncChain .. => true
  | _ => false

/-- The number of messages read. -/
def messageReads (events : List (Event Addr B)) : Nat := events.countP Event.isMessage

/-- The number of streams asked. -/
def streamRequests (events : List (Event Addr B)) : Nat := events.countP Event.isStreamRequest

@[simp] theorem messageReads_nil : messageReads ([] : List (Event Addr B)) = 0 := rfl

@[simp] theorem messageReads_append (events events' : List (Event Addr B)) :
    messageReads (events ++ events') = messageReads events + messageReads events' :=
  List.countP_append _ _ _

@[simp] theorem messageReads_cons (event : Event Addr B) (events : List (Event Addr B)) :
    messageReads (event :: events) = messageReads events + if event.isMessage then 1 else 0 :=
  List.countP_cons _ _ _

@[simp] theorem streamRequests_nil : streamRequests ([] : List (Event Addr B)) = 0 := rfl

@[simp] theorem streamRequests_append (events events' : List (Event Addr B)) :
    streamRequests (events ++ events') = streamRequests events + streamRequests events' :=
  List.countP_append _ _ _

@[simp] theorem streamRequests_cons (event : Event Addr B) (events : List (Event Addr B)) :
    streamRequests (event :: events) =
      streamRequests events + if event.isStreamRequest then 1 else 0 :=
  List.countP_cons _ _ _

section Follow

variable [BeaconRepr B] (syncer : DefaultSyncer Addr B Key) (scheme : Scheme Key Sig)
  (tx : Channel Addr B SyncProgressResponse) (target startedFrom : Nat) (net : Network Addr)

@[simp] theorem messageReads_storedEvents (peer : Addr) (ps : List BeaconPacket) (delivered : Bool) :
    messageReads (ps.map fun p => (storedEvents peer target p delivered : List (Event Addr B))).flatten =
      ps.length := by
  induction ps <;> simp_all [storedEvents, Event.isMessage, Nat.add_comm]

@[simp] theorem streamRequests_storedEvents (peer : Addr) (ps : List BeaconPacket) (delivered : Bool) :
    streamRequests (ps.map fun p => (storedEvents peer target p delivered : List (Event Addr B))).flatten =
      0 := by
  induction ps <;> simp_all [storedEvents, Event.isStreamRequest]

/-- A stream is left at one message, which asks for no stream. -/
theorem DefaultSyncer.lastMessage_reads {peer : Addr} {stream : BeaconStream} {index : Nat}
    {last last' : B} {added : List (Event Addr B)} {exit : Exit}
    (leaves : syncer.LastMessage scheme target startedFrom peer stream index last added exit last') :
    messageReads added = 1 ∧ streamRequests added = 0 := by
  cases leaves <;> simp [storedEvents, Event.isMessage, Event.isStreamRequest]

/-- A pass reads at most one message more than it puts, and asks at most one stream. -/
theorem DefaultSyncer.peerPass_reads {peer : Addr} {last last' : B} {added : List (Event Addr B)}
    {exit : Exit} (pass : syncer.PeerPass scheme target startedFrom net peer last added exit last') :
    messageReads added ≤ (putCalls added).length + 1 ∧ streamRequests added ≤ 1 := by
  cases pass with
  | overflow | behind => simp
  | clientFailed | streamFailed => simp [Event.isMessage, Event.isStreamRequest]
  | @streamed _ ps _ _ _ _ _ _ _ _ leaves =>
    obtain ⟨reads, requests⟩ := syncer.lastMessage_reads scheme target startedFrom leaves
    simp [reads, requests, Event.isMessage, Event.isStreamRequest, Event.putBeacon]

/-- The follow's passes read at most one message per peer more than they put, one stream each. -/
theorem DefaultSyncer.attempts_reads {tried : List Addr} {last last' : B}
    {added : List (Event Addr B)} {exit : Exit}
    (attempts : syncer.Attempts scheme target startedFrom net tried last added exit last') :
    messageReads added ≤ (putCalls added).length + tried.length ∧
      streamRequests added ≤ tried.length := by
  induction attempts with
  | nil => simp
  | ended pass => simpa using syncer.peerPass_reads scheme target startedFrom net pass
  | cons pass _ ih =>
    obtain ⟨reads, requests⟩ := syncer.peerPass_reads scheme target startedFrom net pass
    simp only [messageReads_append, streamRequests_append, putCalls_append, List.length_append,
      List.length_cons]
    omega

/-- The follow reads at most one message per peer beyond the rounds left, one stream each. -/
theorem DefaultSyncer.processFollowRequest_reads {tail : B} (stored : syncer.store.last = .ok tail) :
    messageReads (syncer.processFollowRequest scheme tx target net).2 ≤
        (target - round tail) + syncer.peers.length ∧
      streamRequests (syncer.processFollowRequest scheme tx target net).2 ≤ syncer.peers.length := by
  rcases Nat.lt_or_ge (round tail) target with below | reached
  · obtain ⟨tried, added, _, last, joined, final, inOrder, attempts, run, outcome⟩ :=
      syncer.processFollowRequest_run scheme target net tx stored below
    rw [run]
    obtain ⟨reads, requests⟩ := syncer.attempts_reads scheme target (round tail) net attempts
    obtain ⟨ps, puts, chain, -⟩ := syncer.attempts_puts scheme target (round tail) net attempts
    have stored : ps.length ≤ target - round tail := by
      rcases ps with _ | ⟨p, ps⟩
      · simp
      · have := (syncer.verifiedChain_rounds scheme target chain).2 (List.cons_ne_nil _ _)
        omega
    have tried := inOrder.length_le
    rw [puts, List.length_map] at reads
    have silent : messageReads final = 0 ∧ streamRequests final = 0 := by
      rcases outcome with ⟨-, rfl⟩ | ⟨-, -, _ | _⟩ <;> simp [Event.isMessage, Event.isStreamRequest]
    simp only [List.cons_append, messageReads_cons, streamRequests_cons, messageReads_append,
      streamRequests_append, silent]
    simp [Event.isMessage, Event.isStreamRequest]
    omega
  · rw [syncer.processFollowRequest_of_le scheme tx target stored reached]
    simp [Event.isMessage, Event.isStreamRequest]

/-- With a `u64` target the follow never panics. -/
theorem DefaultSyncer.processFollowRequest_ne_panicked (fits : target < 2 ^ 64) :
    (syncer.processFollowRequest scheme tx target net).1 ≠ .panicked := by
  rcases stored : syncer.store.last with err | tail
  · rw [syncer.processFollowRequest_of_error scheme tx target stored]
    nofun
  rcases Nat.lt_or_ge (round tail) target with below | reached
  · obtain ⟨_, _, _, _, _, _, -, attempts, run, outcome⟩ :=
      syncer.processFollowRequest_run scheme target net tx stored below
    rw [run]
    rcases syncer.attempts_within scheme target (round tail) net ⟨le_rfl, below, fits⟩ attempts with
      ⟨rfl, -⟩ | ⟨_, _, _, _, rfl, -, finalEnd⟩
    · rcases outcome with ⟨stop, -⟩ | ⟨-, -, exhausted⟩
      · cases stop
      · cases exhausted <;> nofun
    · rcases outcome with ⟨stop, -⟩ | ⟨stop, -⟩ <;> cases stop
      cases finalEnd <;> nofun
  · rw [syncer.processFollowRequest_of_le scheme tx target stored reached]
    nofun

end Follow

section Resync

variable (beaconId : String) (upTo : Nat) (net : Network Addr)

@[simp] theorem messageReads_sentEvents (peer : Addr) (ps : List BeaconPacket) :
    messageReads (ps.map fun p => (sentEvents peer p true : List (Event Addr B))).flatten =
      ps.length := by
  induction ps <;> simp_all [sentEvents, Event.isMessage, Nat.add_comm]

@[simp] theorem streamRequests_sentEvents (peer : Addr) (ps : List BeaconPacket) :
    streamRequests (ps.map fun p => (sentEvents peer p true : List (Event Addr B))).flatten = 0 := by
  induction ps <;> simp_all [sentEvents, Event.isStreamRequest]

/-- The resync leaves a stream at one message, which asks for no stream. -/
theorem resyncLastMessage_reads {peer : Addr} {stream : BeaconStream} {index lastSent lastSent' : Nat}
    {added : List (Event Addr B)} {exit : Exit}
    (leaves : ResyncLastMessage beaconId upTo peer stream index lastSent added exit lastSent') :
    messageReads added = 1 ∧ streamRequests added = 0 := by
  cases leaves <;> simp [sentEvents, Event.isMessage, Event.isStreamRequest]

/-- A resync pass reads at most one message more than it forwards, and asks one stream. -/
theorem resyncPass_reads {peer : Addr} {lastSent lastSent' : Nat} {added : List (Event Addr B)}
    {exit : Exit} (pass : ResyncPass beaconId upTo net peer lastSent added exit lastSent') :
    messageReads added ≤ (sentPackets added).length + 1 ∧ streamRequests added ≤ 1 := by
  cases pass with
  | overflow | behind => simp
  | clientFailed | fromOverflow | streamFailed => simp [Event.isMessage, Event.isStreamRequest]
  | @streamed _ ps _ _ _ _ _ _ _ _ leaves =>
    obtain ⟨reads, requests⟩ := resyncLastMessage_reads beaconId upTo leaves
    simp [reads, requests, Event.isMessage, Event.isStreamRequest]

/-- The resync's passes read at most one message per peer more than they forward. -/
theorem resyncAttempts_reads {tried : List Addr} {lastSent lastSent' : Nat}
    {added : List (Event Addr B)} {exit : Exit}
    (attempts : ResyncAttempts beaconId upTo net tried lastSent added exit lastSent') :
    messageReads added ≤ (sentPackets added).length + tried.length ∧
      streamRequests added ≤ tried.length := by
  induction attempts with
  | nil => simp
  | ended pass => simpa using resyncPass_reads beaconId upTo net pass
  | cons pass _ ih =>
    obtain ⟨reads, requests⟩ := resyncPass_reads beaconId upTo net pass
    simp only [messageReads_append, streamRequests_append, sentPackets_append, List.length_append,
      List.length_cons]
    omega

/-- The resync reads at most one message per peer beyond its window, one stream each. -/
theorem resync_reads (startFrom : Nat) (peers : List Addr) (txSynced : Channel Addr B BeaconPacket) :
    messageReads (resync net startFrom upTo peers beaconId txSynced).2 ≤
        (upTo + 1 - startFrom) + peers.length ∧
      streamRequests (resync net startFrom upTo peers beaconId txSynced).2 ≤ peers.length := by
  rcases Nat.eq_zero_or_pos startFrom with rfl | start
  · simp [resync_of_zero]
  obtain ⟨tried, added, _, _, _, inOrder, attempts, run, -⟩ :=
    resync_run beaconId txSynced upTo net start
  rw [run]
  dsimp only
  obtain ⟨reads, requests⟩ := resyncAttempts_reads beaconId upTo net attempts
  obtain ⟨rounds, forwarded, -, -⟩ := resyncAttempts_sent beaconId upTo net attempts
  have sent : (sentPackets added).length ≤ upTo + 1 - startFrom := by
    rcases Nat.eq_zero_or_pos (sentPackets added).length with empty | nonempty
    · omega
    have last : startFrom - 1 + (sentPackets added).length ∈
        (sentPackets added).map BeaconPacket.round := by
      rw [rounds, List.mem_range']
      exact ⟨(sentPackets added).length - 1, by omega, by omega⟩
    obtain ⟨q, sentQ, roundQ⟩ := List.mem_map.mp last
    have := (forwarded q sentQ).atMostUpTo
    omega
  have tried := inOrder.length_le
  omega

/-- With `u64` bounds and `start_from ≥ 1` the resync never panics. -/
theorem resync_ne_panicked (startFrom : Nat) (peers : List Addr)
    (txSynced : Channel Addr B BeaconPacket) (start : 1 ≤ startFrom) (startFits : startFrom < 2 ^ 64)
    (upToFits : upTo < 2 ^ 64) :
    (resync net startFrom upTo peers beaconId txSynced).1 ≠ .panicked := by
  rcases Nat.lt_or_ge upTo startFrom with behind | inside
  · rcases peers with _ | ⟨peer, peers⟩
    · rw [resync_of_nil start]
      nofun
    · rw [resync_of_behind start startFits behind]
      nofun
  obtain ⟨joined, events, run, -, outcome⟩ :=
    resync_inside net startFrom upTo peers beaconId txSynced start inside upToFits
  rw [run]
  rcases outcome with ⟨rfl, -⟩ | ⟨rfl, -⟩ | ⟨rfl, -⟩ <;> nofun

end Resync

section Session

variable [BeaconRepr B] (syncer : DefaultSyncer Addr B Key) (scheme : Scheme Key Sig)
  (tx : Channel Addr B SyncProgressResponse) (target : Nat) (net : Network Addr)
  (startFrom upTo : Nat) (peers : List Addr) (beaconId : String)
  (txSynced : Channel Addr B BeaconPacket)

/-- Whatever the peers stream, neither loop leaves the `u64` range. -/
theorem sync_never_overflows (fits : target < 2 ^ 64) (start : 1 ≤ startFrom)
    (startFits : startFrom < 2 ^ 64) (upToFits : upTo < 2 ^ 64) :
    (syncer.processFollowRequest scheme tx target net).1 ≠ .panicked ∧
      (resync net startFrom upTo peers beaconId txSynced).1 ≠ .panicked :=
  ⟨syncer.processFollowRequest_ne_panicked scheme tx target net fits,
    resync_ne_panicked beaconId upTo net startFrom peers txSynced start startFits upToFits⟩

/-- Whatever the peers stream, even without end, both loops read a bounded number of messages. -/
theorem sync_reads_bounded {tail : B} (stored : syncer.store.last = .ok tail) :
    messageReads (syncer.processFollowRequest scheme tx target net).2 ≤
        (target - round tail) + syncer.peers.length ∧
      streamRequests (syncer.processFollowRequest scheme tx target net).2 ≤ syncer.peers.length ∧
      messageReads (resync net startFrom upTo peers beaconId txSynced).2 ≤
        (upTo + 1 - startFrom) + peers.length ∧
      streamRequests (resync net startFrom upTo peers beaconId txSynced).2 ≤ peers.length :=
  (syncer.processFollowRequest_reads scheme tx target net stored).elim fun reads requests =>
    ⟨reads, requests, resync_reads beaconId upTo net startFrom peers txSynced⟩

end Session

theorem sync_never_overflows_sample :
    15 < 2 ^ 64 ∧ 1 ≤ 11 ∧ 11 < 2 ^ 64 ∧ 15 < 2 ^ 64 ∧
    (sampleSyncer.processFollowRequest sampleScheme sampleProgress 15 sampleNetwork).1 ≠ .panicked ∧
      (resync sampleNetwork 11 15 ["P1", "P2"] "default" samplePipeline).1 ≠ .panicked :=
  ⟨by decide, by decide, by decide, by decide,
    sync_never_overflows sampleSyncer sampleScheme sampleProgress 15 sampleNetwork 11 15 ["P1", "P2"]
      "default" samplePipeline (by decide) (by decide) (by decide) (by decide)⟩

theorem sync_reads_bounded_sample :
    sampleSyncer.store.last = .ok ⟨[], 10, []⟩ ∧
    messageReads (sampleSyncer.processFollowRequest sampleScheme sampleProgress 15 sampleNetwork).2 ≤
        (15 - round (⟨[], 10, []⟩ : Beacon)) + sampleSyncer.peers.length ∧
      streamRequests (sampleSyncer.processFollowRequest sampleScheme sampleProgress 15
        sampleNetwork).2 ≤ sampleSyncer.peers.length ∧
      messageReads (resync sampleNetwork 11 15 ["P1", "P2"] "default" samplePipeline).2 ≤
        (15 + 1 - 11) + ["P1", "P2"].length ∧
      streamRequests (resync sampleNetwork 11 15 ["P1", "P2"] "default" samplePipeline).2 ≤
        ["P1", "P2"].length :=
  ⟨rfl, sync_reads_bounded sampleSyncer sampleScheme sampleProgress 15 sampleNetwork 11 15
    ["P1", "P2"] "default" samplePipeline rfl⟩

end Drand.Sync
