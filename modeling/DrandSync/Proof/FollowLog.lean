import DrandSync.Construction.Follow

/-
This file proves that a follow's events record the answers of its store and its receiver.
-/

namespace Drand.Sync

variable {Addr B Key Sig : Type}

/-- The event records the answer the store or the receiver gave after `history`. -/
def Event.Answered (tx : Channel Addr B SyncProgressResponse) (store : ChainStore Addr B)
    (history : List (Event Addr B)) : Event Addr B → Prop
  | .put beacon stored => stored = (store.put history beacon).toBool
  | .sendProgress response delivered => delivered = tx.send history response
  | _ => True

/-- Every event records the answer given after the events before it. -/
inductive Answered (tx : Channel Addr B SyncProgressResponse) (store : ChainStore Addr B) :
    List (Event Addr B) → Prop
  | nil : Answered tx store []
  | snoc {events : List (Event Addr B)} {event : Event Addr B} (before : Answered tx store events)
      (answered : event.Answered tx store events) : Answered tx store (events ++ [event])

section Log

variable {tx : Channel Addr B SyncProgressResponse} {store : ChainStore Addr B}

/-- An event of an answered log records the answer given after the events before it. -/
theorem Answered.of_eq {events : List (Event Addr B)} (answered : Answered tx store events)
    {pre post : List (Event Addr B)} {event : Event Addr B}
    (split : events = pre ++ event :: post) :
    event.Answered tx store pre := by
  induction answered generalizing post with
  | nil => simp at split
  | @snoc events last _ lastAnswered ih =>
    rcases List.eq_nil_or_concat post with rfl | ⟨post', final, rfl⟩
    · obtain ⟨rfl, single⟩ := List.append_inj' split rfl
      cases List.singleton_inj.mp single
      exact lastAnswered
    · rw [List.concat_eq_append, ← List.cons_append, ← List.append_assoc] at split
      exact ih (List.append_inj' split rfl).1

theorem Answered.put {events : List (Event Addr B)} (answered : Answered tx store events)
    (beacon : B) : Answered tx store (events ++ [.put beacon (store.put events beacon).toBool]) :=
  answered.snoc rfl

theorem Answered.sendProgress {events : List (Event Addr B)} (answered : Answered tx store events)
    (response : SyncProgressResponse) :
    Answered tx store (events ++ [.sendProgress response (tx.send events response)]) :=
  answered.snoc rfl

/-- If the store and the receiver take everything, the log records no failure. -/
theorem Answered.not_failed {events : List (Event Addr B)} (answered : Answered tx store events)
    (stores : ∀ history beacon, store.put history beacon = .ok ())
    (reports : ∀ history response, tx.send history response = true) :
    (∀ beacon, .put beacon false ∉ events) ∧
      ∀ response, .sendProgress response false ∉ events := by
  refine ⟨fun beacon listed => ?_, fun response listed => ?_⟩
  · obtain ⟨pre, post, split⟩ := List.append_of_mem listed
    have recorded : false = (store.put pre beacon).toBool := answered.of_eq split
    simp [stores] at recorded
  · obtain ⟨pre, post, split⟩ := List.append_of_mem listed
    have recorded : false = tx.send pre response := answered.of_eq split
    simp [reports] at recorded

end Log

section Steps

variable [BeaconRepr B] (syncer : DefaultSyncer Addr B Key) (scheme : Scheme Key Sig)
  (tx : Channel Addr B SyncProgressResponse) (target startedFrom : Nat) (net : Network Addr)

/-- One pass of the stream loop records the answers of the store and of the receiver. -/
theorem DefaultSyncer.followStep_answered {peer : Addr} {stream : BeaconStream} {index : Nat}
    {state : Following Addr B} (answered : Answered tx syncer.store state.events) :
    Answered tx syncer.store
      (syncer.followStep scheme tx target startedFrom peer stream index state).2.events := by
  have read : Answered tx syncer.store (state.events ++ [.message peer (stream index)]) :=
    answered.snoc trivial
  unfold DefaultSyncer.followStep
  dsimp only
  split
  · exact read
  split
  · exact read
  · exact read
  split
  · exact read.put _
  split
  · split <;> exact (read.put _).sendProgress _
  split <;> exact (read.put _).sendProgress _

theorem DefaultSyncer.followStream_answered {peer : Addr} {stream : BeaconStream} {index : Nat}
    {state : Following Addr B} (answered : Answered tx syncer.store state.events) :
    Answered tx syncer.store
      (syncer.followStream scheme tx target startedFrom peer stream index state).2.events := by
  induction index, state using
    DefaultSyncer.followStream.induct syncer scheme tx target startedFrom peer stream with
  | case1 index state next stepped ih =>
    have step : Answered tx syncer.store
        (syncer.followStep scheme tx target startedFrom peer stream index state).2.events :=
      syncer.followStep_answered scheme tx target startedFrom answered
    rw [stepped] at step
    rw [syncer.followStream_of_none scheme tx target startedFrom stepped]
    exact ih step
  | case2 index state exit next leave =>
    have step : Answered tx syncer.store
        (syncer.followStep scheme tx target startedFrom peer stream index state).2.events :=
      syncer.followStep_answered scheme tx target startedFrom answered
    rw [leave] at step
    rwa [syncer.followStream_of_some scheme tx target startedFrom leave]

theorem DefaultSyncer.followPeer_answered {peer : Addr} {state : Following Addr B}
    (answered : Answered tx syncer.store state.events) :
    Answered tx syncer.store
      (syncer.followPeer scheme tx target startedFrom net peer state).2.events := by
  have client : Answered tx syncer.store
      (state.events ++ [.newClient peer (net.protocolClient peer)]) := answered.snoc trivial
  unfold DefaultSyncer.followPeer
  dsimp only
  split
  · exact answered
  split
  · exact answered
  split
  · exact client
  rename_i fromRound _ _ _
  have opened : Answered tx syncer.store
      (state.events ++ [.newClient peer (net.protocolClient peer)] ++
        [.syncChain peer fromRound syncer.info.beaconId
          (net.syncChain peer fromRound syncer.info.beaconId).isSome]) := client.snoc trivial
  split
  · exact opened
  · exact syncer.followStream_answered scheme tx target startedFrom opened

theorem DefaultSyncer.followPeers_answered {peers : List Addr} {state : Following Addr B}
    (answered : Answered tx syncer.store state.events) :
    Answered tx syncer.store
      (syncer.followPeers scheme tx target startedFrom net peers state).2.events := by
  induction peers generalizing state with
  | nil =>
    unfold DefaultSyncer.followPeers
    split
    · exact answered.sendProgress _
    · exact answered
  | cons peer peers ih =>
    have pass : Answered tx syncer.store
        (syncer.followPeer scheme tx target startedFrom net peer state).2.events :=
      syncer.followPeer_answered scheme tx target startedFrom net answered
    unfold DefaultSyncer.followPeers
    split
    · rename_i moved
      rw [moved] at pass
      exact ih pass
    · rename_i ended
      rwa [ended] at pass

/-- The events of a follow record the answers of its store and its receiver. -/
theorem DefaultSyncer.processFollowRequest_answered :
    Answered tx syncer.store (syncer.processFollowRequest scheme tx target net).2 := by
  have opening : Answered tx syncer.store [.storeLast] := Answered.nil.snoc trivial
  unfold DefaultSyncer.processFollowRequest
  split
  · exact opening
  split
  · exact opening
  split
  · exact opening
  · exact syncer.followPeers_answered scheme tx target _ net opening

end Steps

end Drand.Sync
