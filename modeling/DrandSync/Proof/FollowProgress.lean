import DrandSync.Proof.FollowOutcome

/-
This file proves what a follow session reports on its progress channel.
-/

namespace Drand.Sync

open BeaconRepr

variable {Addr B Key Sig : Type}

/-- The message of a `tx.send` call on the progress channel. -/
def Event.progress : Event Addr B → Option SyncProgressResponse
  | .sendProgress response _ => some response
  | _ => none

/-- The messages sent on the progress channel, in order. -/
def progressSent (events : List (Event Addr B)) : List SyncProgressResponse :=
  events.filterMap Event.progress

/-- The message of a `tx.send` call the receiver took. -/
def Event.deliveredProgress : Event Addr B → Option SyncProgressResponse
  | .sendProgress response true => some response
  | _ => none

/-- The messages the receiver of the progress channel took, in order. -/
def progressDelivered (events : List (Event Addr B)) : List SyncProgressResponse :=
  events.filterMap Event.deliveredProgress

/-- The beacon of a `store.put` call that succeeded. -/
def Event.storedBeacon : Event Addr B → Option B
  | .put beacon true => some beacon
  | _ => none

/-- The beacons stored, in order. -/
def storedBeacons (events : List (Event Addr B)) : List B := events.filterMap Event.storedBeacon

/-- No message of the events was refused by the receiver. -/
def NoRefusal (events : List (Event Addr B)) : Prop :=
  ∀ response, .sendProgress response false ∉ events

/-- The report the follow pushes on the progress channel when it ends with `joined`. -/
def finalReport : Joined → List SyncProgressResponse
  | .returned (.error (.triedAllPers last)) =>
      [.error (Status.cancelled (SyncError.triedAllPers last).toString)]
  | _ => []

@[simp] theorem progressSent_append (events events' : List (Event Addr B)) :
    progressSent (events ++ events') = progressSent events ++ progressSent events' :=
  List.filterMap_append _ _ _

@[simp] theorem progressDelivered_append (events events' : List (Event Addr B)) :
    progressDelivered (events ++ events') = progressDelivered events ++ progressDelivered events' :=
  List.filterMap_append _ _ _

@[simp] theorem storedBeacons_append (events events' : List (Event Addr B)) :
    storedBeacons (events ++ events') = storedBeacons events ++ storedBeacons events' :=
  List.filterMap_append _ _ _

@[simp] theorem progressSent_nil : progressSent ([] : List (Event Addr B)) = [] := rfl

@[simp] theorem storedBeacons_nil : storedBeacons ([] : List (Event Addr B)) = [] := rfl

@[simp] theorem progressSent_cons_storeLast (events : List (Event Addr B)) :
    progressSent (.storeLast :: events) = progressSent events := rfl

@[simp] theorem storedBeacons_cons_storeLast (events : List (Event Addr B)) :
    storedBeacons (.storeLast :: events) = storedBeacons events := rfl

@[simp] theorem progressSent_cons_sendProgress (response : SyncProgressResponse) (delivered : Bool)
    (events : List (Event Addr B)) :
    progressSent (.sendProgress response delivered :: events) = response :: progressSent events := rfl

@[simp] theorem storedBeacons_cons_sendProgress (response : SyncProgressResponse)
    (delivered : Bool) (events : List (Event Addr B)) :
    storedBeacons (.sendProgress response delivered :: events) = storedBeacons events := rfl

@[simp] theorem noRefusal_nil : NoRefusal ([] : List (Event Addr B)) := by simp [NoRefusal]

@[simp] theorem noRefusal_append {events events' : List (Event Addr B)} :
    NoRefusal (events ++ events') ↔ NoRefusal events ∧ NoRefusal events' := by
  simp only [NoRefusal, List.mem_append, not_or, forall_and]

@[simp] theorem noRefusal_cons {event : Event Addr B} {events : List (Event Addr B)} :
    NoRefusal (event :: events) ↔ (∀ response, event ≠ .sendProgress response false) ∧
      NoRefusal events := by
  simp only [NoRefusal, List.mem_cons, not_or, forall_and, ne_comm]

/-- Refused messages stand only last: the events but the last one refuse nothing. -/
theorem dropLast_append_noRefusal {events events' : List (Event Addr B)}
    (first : NoRefusal events) (rest : NoRefusal events'.dropLast) :
    NoRefusal (events ++ events').dropLast := by
  rcases List.eq_nil_or_concat events' with rfl | ⟨init, last, rfl⟩
  · simpa using List.dropLast_subset events |> fun sub response mem => first response (sub mem)
  · simp_all [← List.append_assoc]

/-- When all messages but the last are taken, a refused one is the last event. -/
theorem refused_last {events pre post : List (Event Addr B)} {response : SyncProgressResponse}
    (onlyLast : NoRefusal events.dropLast) (split : events = pre ++ .sendProgress response false :: post) :
    post = [] := by
  rcases List.eq_nil_or_concat post with rfl | ⟨init, last, rfl⟩
  · rfl
  · subst split
    rw [List.concat_eq_append, ← List.cons_append, ← List.append_assoc, List.dropLast_concat]
      at onlyLast
    exact absurd (by simp) (onlyLast response)

/-- With no message refused, the receiver took every message sent. -/
theorem progressDelivered_of_noRefusal {events : List (Event Addr B)} (taken : NoRefusal events) :
    progressDelivered events = progressSent events := by
  induction events with
  | nil => rfl
  | cons event events ih =>
    rw [noRefusal_cons] at taken
    have rest := ih taken.2
    cases event with
    | sendProgress response delivered =>
      cases delivered
      · exact absurd rfl (taken.1 response)
      · simp_all [progressDelivered, progressSent, Event.deliveredProgress, Event.progress]
    | _ => simp_all [progressDelivered, progressSent, Event.deliveredProgress, Event.progress]

/-- Events with no failed `put` stored every beacon they put. -/
theorem storedBeacons_eq_putCalls {events : List (Event Addr B)}
    (noFailure : ∀ beacon, .put beacon false ∉ events) : storedBeacons events = putCalls events := by
  induction events with
  | nil => rfl
  | cons event events ih =>
    have rest := ih fun beacon listed => noFailure beacon (List.mem_cons_of_mem _ listed)
    cases event with
    | put beacon stored =>
      cases stored
      · exact absurd (List.mem_cons_self _ _) (noFailure beacon)
      · simpa [storedBeacons, putCalls, Event.storedBeacon, Event.putBeacon] using rest
    | _ => simpa [storedBeacons, putCalls, Event.storedBeacon, Event.putBeacon] using rest

theorem finalReport_eq (joined : Joined) :
    finalReport joined = [] ∨ ∃ status, finalReport joined = [.error status] := by
  unfold finalReport
  split <;> simp

variable [BeaconRepr B]

/-- The report of a stored beacon. -/
def progressOf (target : Nat) (beacon : B) : SyncProgressResponse := .ok ⟨round beacon, target⟩

/-- The events report each beacon they store and nothing else, and refuse at most their last. -/
def Reported (target : Nat) (events : List (Event Addr B)) : Prop :=
  progressSent events = (storedBeacons events).map (progressOf target) ∧ NoRefusal events.dropLast

theorem reported_append {target : Nat} {events events' : List (Event Addr B)}
    (first : Reported target events) (taken : NoRefusal events) (rest : Reported target events') :
    Reported target (events ++ events') :=
  ⟨by simp only [progressSent_append, storedBeacons_append, List.map_append, first.1, rest.1],
    dropLast_append_noRefusal taken rest.2⟩

theorem reported_storedRun (peer : Addr) (target : Nat) (ps : List BeaconPacket) :
    Reported target (ps.map fun p => (storedEvents peer target p true : List (Event Addr B))).flatten ∧
      NoRefusal (ps.map fun p => (storedEvents peer target p true : List (Event Addr B))).flatten := by
  induction ps with
  | nil => simp [Reported, progressSent, storedBeacons]
  | cons p ps ih =>
    have head : Reported target (storedEvents peer target p true : List (Event Addr B)) ∧
        NoRefusal (storedEvents peer target p true : List (Event Addr B)) := by
      simp [Reported, storedEvents, progressSent, storedBeacons, Event.progress, Event.storedBeacon,
        progressOf, NoRefusal]
    simp only [List.map_cons, List.flatten_cons]
    exact ⟨reported_append head.1 head.2 ih.1, noRefusal_append.mpr ⟨head.2, ih.2⟩⟩

section Reports

variable (syncer : DefaultSyncer Addr B Key) (scheme : Scheme Key Sig)
  (target startedFrom : Nat) (net : Network Addr)

/-- The message that leaves a stream is reported when stored, and refused only last. -/
theorem DefaultSyncer.lastMessage_reported {peer : Addr} {stream : BeaconStream} {index : Nat}
    {last last' : B} {added : List (Event Addr B)} {exit : Exit}
    (leaves : syncer.LastMessage scheme target startedFrom peer stream index last added exit last') :
    Reported target added ∧ (exit = .nextPeer → NoRefusal added) := by
  cases leaves <;> simp [Reported, storedEvents, progressSent, storedBeacons, Event.progress,
    Event.storedBeacon, progressOf, NoRefusal]

theorem DefaultSyncer.peerPass_reported {peer : Addr} {last last' : B}
    {added : List (Event Addr B)} {exit : Exit}
    (pass : syncer.PeerPass scheme target startedFrom net peer last added exit last') :
    Reported target added ∧ (exit = .nextPeer → NoRefusal added) := by
  cases pass with
  | overflow | behind | clientFailed | streamFailed =>
    simp [Reported, progressSent, storedBeacons, Event.progress, Event.storedBeacon, NoRefusal]
  | @streamed _ ps _ _ _ _ _ _ _ _ leaves =>
    have opening : Reported target ([.newClient peer true,
        .syncChain peer (round last + 1) syncer.info.beaconId true] : List (Event Addr B)) ∧
        NoRefusal ([.newClient peer true,
          .syncChain peer (round last + 1) syncer.info.beaconId true] : List (Event Addr B)) := by
      simp [Reported, progressSent, storedBeacons, Event.progress, Event.storedBeacon, NoRefusal]
    obtain ⟨run, runTaken⟩ : Reported target (ps.map fun p =>
        (storedEvents peer target p true : List (Event Addr B))).flatten ∧ NoRefusal _ :=
      reported_storedRun peer target ps
    obtain ⟨final, finalTaken⟩ := syncer.lastMessage_reported scheme target startedFrom leaves
    refine ⟨reported_append (reported_append opening.1 opening.2 run)
      (noRefusal_append.mpr ⟨opening.2, runTaken⟩) final, fun next => ?_⟩
    simp [opening.2, runTaken, finalTaken next]

theorem DefaultSyncer.attempts_reported {tried : List Addr} {last last' : B}
    {added : List (Event Addr B)} {exit : Exit}
    (attempts : syncer.Attempts scheme target startedFrom net tried last added exit last') :
    Reported target added ∧ (exit = .nextPeer → NoRefusal added) := by
  induction attempts with
  | nil => simp [Reported, progressSent, storedBeacons]
  | ended pass => exact syncer.peerPass_reported scheme target startedFrom net pass
  | cons pass _ ih =>
    obtain ⟨first, taken⟩ := syncer.peerPass_reported scheme target startedFrom net pass
    exact ⟨reported_append first (taken rfl) ih.1,
      fun next => noRefusal_append.mpr ⟨taken rfl, ih.2 next⟩⟩

/-- A pass that ends the session pushes no final report. -/
theorem DefaultSyncer.attempts_ended_finalReport {tried : List Addr} {last last' : B}
    {added : List (Event Addr B)} {joined : Joined}
    (attempts : syncer.Attempts scheme target startedFrom net tried last added (.ended joined) last') :
    finalReport joined = [] := by
  have pass_report : ∀ {peer last added last'},
      syncer.PeerPass scheme target startedFrom net peer last added (.ended joined) last' →
      finalReport joined = [] := by
    intro peer last added last' pass
    cases pass with
    | overflow | behind => rfl
    | streamed _ _ _ _ _ leaves => cases leaves <;> rfl
  generalize ended : Exit.ended joined = exit at attempts
  induction attempts with
  | nil => cases ended
  | ended pass => cases ended; exact pass_report pass
  | cons _ _ ih => exact ih ended

end Reports

section Stored

variable (syncer : DefaultSyncer Addr B Key) (scheme : Scheme Key Sig)
  (tx : Channel Addr B SyncProgressResponse) (target startedFrom : Nat) (net : Network Addr)

@[simp] theorem storedBeacons_storedEvents (peer : Addr) (ps : List BeaconPacket) :
    storedBeacons
        (ps.map fun p => (storedEvents peer target p true : List (Event Addr B))).flatten =
      ps.map fromPacket := by
  induction ps <;> simp_all [storedEvents, storedBeacons, Event.storedBeacon]

/-- Where the loop leaves a stream only a last `put` can fail; a pass that moves on fails none. -/
theorem DefaultSyncer.lastMessage_stored {peer : Addr} {stream : BeaconStream} {index : Nat}
    {last last' : B} {added : List (Event Addr B)} {exit : Exit}
    (leaves :
      syncer.LastMessage scheme target startedFrom peer stream index last added exit last') :
    storedBeacons added <+: putCalls added ∧
      (exit = .nextPeer → storedBeacons added = putCalls added) := by
  cases leaves <;> simp [storedEvents, storedBeacons, Event.storedBeacon, Event.putBeacon]

theorem DefaultSyncer.peerPass_stored {peer : Addr} {last last' : B}
    {added : List (Event Addr B)} {exit : Exit}
    (pass : syncer.PeerPass scheme target startedFrom net peer last added exit last') :
    storedBeacons added <+: putCalls added ∧
      (exit = .nextPeer → storedBeacons added = putCalls added) := by
  cases pass with
  | overflow | behind | clientFailed | streamFailed =>
    simp [storedBeacons, Event.storedBeacon, Event.putBeacon]
  | streamed _ _ _ _ _ leaves =>
    obtain ⟨kept, movedOn⟩ := syncer.lastMessage_stored scheme target startedFrom leaves
    simp only [storedBeacons_append, putCalls_append, storedBeacons_storedEvents,
      putCalls_storedEvents]
    exact ⟨List.prefix_append_right_inj _ |>.mpr kept, fun next => by rw [movedOn next]; rfl⟩

theorem DefaultSyncer.attempts_stored {tried : List Addr} {last last' : B}
    {added : List (Event Addr B)} {exit : Exit}
    (attempts : syncer.Attempts scheme target startedFrom net tried last added exit last') :
    storedBeacons added <+: putCalls added ∧
      (exit = .nextPeer → storedBeacons added = putCalls added) := by
  induction attempts with
  | nil => simp [storedBeacons]
  | ended pass => exact syncer.peerPass_stored scheme target startedFrom net pass
  | cons pass _ ih =>
    have first := (syncer.peerPass_stored scheme target startedFrom net pass).2 rfl
    simp only [storedBeacons_append, putCalls_append, first]
    exact ⟨List.prefix_append_right_inj _ |>.mpr ih.1, fun next => by rw [ih.2 next]⟩

/-- The beacons a follow stored are the first of those it put. -/
theorem DefaultSyncer.processFollowRequest_stored :
    storedBeacons (syncer.processFollowRequest scheme tx target net).2 <+:
      putCalls (syncer.processFollowRequest scheme tx target net).2 := by
  rcases lastAnswer : syncer.store.last with err | tail
  · rw [syncer.processFollowRequest_of_error scheme tx target lastAnswer]
    simp [storedBeacons, putCalls, Event.storedBeacon, Event.putBeacon]
  rcases Nat.lt_or_ge (round tail) target with below | reached
  · obtain ⟨_, added, _, _, _, final, -, attempts, run, outcome⟩ :=
      syncer.processFollowRequest_run scheme target net tx lastAnswer below
    have kept := (syncer.attempts_stored scheme target (round tail) net attempts).1
    rw [run]
    rcases outcome with ⟨-, rfl⟩ | ⟨-, -, exhausted⟩
    · simpa [Event.putBeacon, Event.storedBeacon] using kept
    · cases exhausted <;> simpa [Event.putBeacon, Event.storedBeacon, storedBeacons] using kept
  · rw [syncer.processFollowRequest_of_le scheme tx target lastAnswer reached]
    simp [storedBeacons, putCalls, Event.storedBeacon, Event.putBeacon]

end Stored

section Session

variable (syncer : DefaultSyncer Addr B Key) (scheme : Scheme Key Sig)
  (tx : Channel Addr B SyncProgressResponse) (target : Nat) (net : Network Addr)

/-- A follow reports each stored beacon, then its final report, and refuses at most its last. -/
theorem DefaultSyncer.processFollowRequest_reported :
    progressSent (syncer.processFollowRequest scheme tx target net).2 =
      (storedBeacons (syncer.processFollowRequest scheme tx target net).2).map (progressOf target) ++
        finalReport (syncer.processFollowRequest scheme tx target net).1 ∧
    NoRefusal (syncer.processFollowRequest scheme tx target net).2.dropLast := by
  have opening : NoRefusal ([.storeLast] : List (Event Addr B)) := by simp [NoRefusal]
  rcases lastAnswer : syncer.store.last with err | tail
  · rw [syncer.processFollowRequest_of_error scheme tx target lastAnswer]
    exact ⟨by simp [finalReport], by simp⟩
  rcases Nat.lt_or_ge (round tail) target with below | reached
  swap
  · rw [syncer.processFollowRequest_of_le scheme tx target lastAnswer reached]
    exact ⟨by simp [finalReport], by simp⟩
  obtain ⟨tried, added, exit, last, joined, final, -, attempts, run, outcome⟩ :=
    syncer.processFollowRequest_run scheme target net tx lastAnswer below
  rw [run, ← List.singleton_append]
  obtain ⟨⟨sent, onlyLast⟩, movesOn⟩ :=
    syncer.attempts_reported scheme target (round tail) net attempts
  rcases outcome with ⟨rfl, rfl⟩ | ⟨rfl, -, exhausted⟩
  · rw [List.append_nil, syncer.attempts_ended_finalReport scheme target (round tail) net attempts]
    exact ⟨by simp [sent], dropLast_append_noRefusal opening onlyLast⟩
  · cases exhausted with
    | short =>
      refine ⟨by simp [sent, finalReport], ?_⟩
      rw [List.dropLast_concat]
      exact noRefusal_append.mpr ⟨opening, movesOn rfl⟩
    | reached =>
      exact ⟨by simp [sent, finalReport],
        by simpa using dropLast_append_noRefusal opening onlyLast⟩

/-- The beacons a follow stored are those of a chain verified from the tail it read. -/
theorem DefaultSyncer.processFollowRequest_storedChain {tail : B}
    (stored : syncer.store.last = .ok tail) :
    ∃ ps, syncer.VerifiedChain scheme target tail ps ∧
      storedBeacons (syncer.processFollowRequest scheme tx target net).2 = ps.map fromPacket := by
  obtain ⟨ps, puts, chain⟩ := syncer.processFollowRequest_puts scheme tx target net stored
  have firstPuts := syncer.processFollowRequest_stored scheme tx target net
  rw [puts, List.prefix_iff_eq_take, ← List.map_take] at firstPuts
  obtain ⟨n, kept⟩ : ∃ n, storedBeacons (syncer.processFollowRequest scheme tx target net).2 =
      (ps.take n).map fromPacket := ⟨_, firstPuts⟩
  refine ⟨ps.take n, ((syncer.verifiedChain_append scheme target tail _ (ps.drop n)).mp ?_).1, kept⟩
  rwa [List.take_append_drop]

/-- The rounds a follow session stored run on one by one from the tail, up to the target. -/
theorem DefaultSyncer.processFollowRequest_storedRounds {tail : B}
    (stored : syncer.store.last = .ok tail) (below : round tail < target) :
    (storedBeacons (syncer.processFollowRequest scheme tx target net).2).map BeaconRepr.round =
        List.range' (round tail + 1)
          (storedBeacons (syncer.processFollowRequest scheme tx target net).2).length ∧
      round tail + (storedBeacons (syncer.processFollowRequest scheme tx target net).2).length ≤
        target := by
  obtain ⟨ps, chain, kept⟩ := syncer.processFollowRequest_storedChain scheme tx target net stored
  obtain ⟨rounds, bounded⟩ := syncer.verifiedChain_rounds scheme target chain
  rw [kept, List.map_map, List.length_map]
  refine ⟨by simpa [Function.comp_def] using rounds, ?_⟩
  rcases eq_or_ne ps [] with rfl | nonEmpty
  · simpa using below.le
  · exact bounded nonEmpty

/-- The progress a follow reports: its stored rounds in order, then the failure out of peers. -/
theorem DefaultSyncer.processFollowRequest_reports_progress :
    progressSent (syncer.processFollowRequest scheme tx target net).2 =
        (storedBeacons (syncer.processFollowRequest scheme tx target net).2).map
          (progressOf target) ++ finalReport (syncer.processFollowRequest scheme tx target net).1 ∧
      (∀ tail, syncer.store.last = .ok tail → round tail < target →
        (storedBeacons (syncer.processFollowRequest scheme tx target net).2).map
            BeaconRepr.round =
          List.range' (round tail + 1)
            (storedBeacons (syncer.processFollowRequest scheme tx target net).2).length ∧
        round tail + (storedBeacons (syncer.processFollowRequest scheme tx target net).2).length ≤
          target) ∧
      (∀ pre response post, (syncer.processFollowRequest scheme tx target net).2 =
        pre ++ .sendProgress response false :: post → post = []) ∧
      (∀ pre progress, (syncer.processFollowRequest scheme tx target net).2 =
          pre ++ [.sendProgress (.ok progress) false] →
        (storedBeacons (syncer.processFollowRequest scheme tx target net).2).length =
          (progressDelivered (syncer.processFollowRequest scheme tx target net).2).length + 1) := by
  obtain ⟨sent, onlyLast⟩ := syncer.processFollowRequest_reported scheme tx target net
  refine ⟨sent, fun _ stored below => syncer.processFollowRequest_storedRounds scheme tx target net
    stored below, fun _ _ _ split => refused_last onlyLast split, fun pre progress split => ?_⟩
  rw [split] at sent onlyLast ⊢
  rw [List.dropLast_concat] at onlyLast
  have delivered : progressDelivered (pre ++ [.sendProgress (.ok progress) false]) =
      progressSent pre := by
    rw [progressDelivered_append, progressDelivered_of_noRefusal onlyLast]
    exact List.append_nil _
  rw [delivered]
  rw [progressSent_append] at sent
  rcases finalReport_eq (syncer.processFollowRequest scheme tx target net).1 with
    empty | ⟨status, single⟩
  · rw [empty, List.append_nil] at sent
    simpa using (congrArg List.length sent).symm
  · rw [single] at sent
    have := (List.append_inj' sent rfl).2
    simp at this

end Session

end Drand.Sync
