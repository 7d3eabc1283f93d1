import DrandSync.Proof.ResyncRun
import DrandSync.Proof.FollowVerified

/-
This file proves what the resync forwards and how it ends.
-/

namespace Drand.Sync

variable {Addr B : Type}

/-- The packet of a `tx_synced.send` call that the pipeline took. -/
def Event.sentPacket : Event Addr B → Option BeaconPacket
  | .sendSynced p true => some p
  | _ => none

/-- The packets the pipeline took, in order. -/
def sentPackets (events : List (Event Addr B)) : List BeaconPacket :=
  events.filterMap Event.sentPacket

@[simp] theorem sentPackets_nil : sentPackets ([] : List (Event Addr B)) = [] := rfl

@[simp] theorem sentPackets_append (events events' : List (Event Addr B)) :
    sentPackets (events ++ events') = sentPackets events ++ sentPackets events' :=
  List.filterMap_append _ _ _

@[simp] theorem sentPackets_sentEvents (peer : Addr) (p : BeaconPacket) (delivered : Bool) :
    sentPackets (sentEvents peer p delivered : List (Event Addr B)) = if delivered then [p] else [] := by
  cases delivered <;> rfl

@[simp] theorem sentPackets_forwarded (peer : Addr) (ps : List BeaconPacket) :
    sentPackets (ps.map fun p => (sentEvents peer p true : List (Event Addr B))).flatten = ps := by
  induction ps <;> simp_all

@[simp] theorem sentPackets_cons_newClient (peer : Addr) (opened : Bool)
    (events : List (Event Addr B)) :
    sentPackets (.newClient peer opened :: events) = sentPackets events := rfl

@[simp] theorem sentPackets_cons_syncChain (peer : Addr) (fromRound : Nat) (beaconId : String)
    (opened : Bool) (events : List (Event Addr B)) :
    sentPackets (.syncChain peer fromRound beaconId opened :: events) = sentPackets events := rfl

@[simp] theorem sentPackets_cons_message (peer : Addr) (received : Option BeaconPacket)
    (events : List (Event Addr B)) :
    sentPackets (.message peer received :: events) = sentPackets events := rfl

/-- A forwarded packet names the beacon id and is within `up_to`. -/
structure Forwarded (beaconId : String) (upTo : Nat) (p : BeaconPacket) : Prop where
  named : ∃ metadata, p.metadata = some metadata ∧ metadata.beaconId = beaconId
  atMostUpTo : p.round ≤ upTo

/-- The checks panic only when the next round is past `u64::MAX`. -/
theorem resyncVerdict_ne_panic (beaconId : String) {lastSent : Nat} (fits : lastSent + 1 < 2 ^ 64)
    (p : BeaconPacket) : resyncVerdict beaconId lastSent p ≠ .panic := by
  unfold resyncVerdict
  split
  · simp
  split
  · simp
  rw [addU64_of_lt fits]
  dsimp only
  split <;> simp

section Sent

variable (beaconId : String) (upTo : Nat) (net : Network Addr)

/-- The packets a stream is read on from run on one round at a time and stay below `up_to`. -/
theorem resyncReadOn_sent {stream : BeaconStream} {index lastSent : Nat} {ps : List BeaconPacket}
    (readOn : ResyncReadOn beaconId upTo stream index lastSent ps) (below : lastSent < upTo) :
    ps.map BeaconPacket.round = List.range' (lastSent + 1) ps.length ∧
      (∀ p ∈ ps, Forwarded beaconId upTo p) ∧ lastSent + ps.length < upTo := by
  induction ps generalizing index lastSent with
  | nil => simpa using below
  | cons p ps ih =>
    obtain ⟨-, accepted, notTarget, rest⟩ := readOn
    obtain ⟨named, next_round, -⟩ := (resyncVerdict_eq_accept beaconId).mp accepted
    obtain ⟨rounds, forwarded, stillBelow⟩ := ih rest (by omega)
    refine ⟨by simp [next_round, rounds, List.range'_succ], ?_, by simp only [List.length_cons]; omega⟩
    simp only [List.mem_cons, forall_eq_or_imp]
    exact ⟨⟨named, by omega⟩, forwarded⟩

/-- A pass forwards rounds one at a time after `last_sent`; moving on, it stays below `up_to`. -/
theorem resyncPass_sent {peer : Addr} {lastSent lastSent' : Nat} {added : List (Event Addr B)}
    {exit : Exit} (pass : ResyncPass beaconId upTo net peer lastSent added exit lastSent') :
    (sentPackets added).map BeaconPacket.round =
        List.range' (lastSent + 1) (sentPackets added).length ∧
      (∀ p ∈ sentPackets added, Forwarded beaconId upTo p) ∧
      lastSent' = lastSent + (sentPackets added).length ∧ (exit = .nextPeer → lastSent' < upTo) := by
  cases pass with
  | overflow | behind | fromOverflow => simp
  | clientFailed below | streamFailed below => simp [below]
  | @streamed _ ps _ _ _ below _ _ _ readOn leaves =>
    obtain ⟨rounds, forwarded, stillBelow⟩ := resyncReadOn_sent beaconId upTo readOn below
    cases leaves with
    | closed | skipped | panicked | closedTx => simpa [rounds, stillBelow] using forwarded
    | @reached p _ accepted atTarget =>
      obtain ⟨named, next_round, -⟩ := (resyncVerdict_eq_accept beaconId).mp accepted
      refine ⟨by simp [rounds, List.range'_concat, next_round]; omega, ?_, by simp [next_round]; omega,
        nofun⟩
      simp only [sentPackets_append, sentPackets_cons_newClient, sentPackets_cons_syncChain,
        sentPackets_nil, sentPackets_forwarded, sentPackets_sentEvents, if_true, List.nil_append,
        List.mem_append, List.mem_singleton]
      rintro q (mem | rfl)
      · exact forwarded q mem
      · exact ⟨named, atTarget.le⟩

/-- Over the passes the forwarded rounds run on one at a time after `last_sent`. -/
theorem resyncAttempts_sent {tried : List Addr} {lastSent lastSent' : Nat}
    {added : List (Event Addr B)} {exit : Exit}
    (attempts : ResyncAttempts beaconId upTo net tried lastSent added exit lastSent') :
    (sentPackets added).map BeaconPacket.round =
        List.range' (lastSent + 1) (sentPackets added).length ∧
      (∀ p ∈ sentPackets added, Forwarded beaconId upTo p) ∧
      lastSent' = lastSent + (sentPackets added).length ∧
      (exit = .nextPeer → lastSent < upTo → lastSent' < upTo) := by
  induction attempts with
  | nil => simp
  | ended pass =>
    obtain ⟨rounds, forwarded, counted, -⟩ := resyncPass_sent beaconId upTo net pass
    exact ⟨rounds, forwarded, counted, nofun⟩
  | @cons _ _ lastSent _ _ added rest _ pass _ ih =>
    obtain ⟨rounds, forwarded, counted, stillBelow⟩ := resyncPass_sent beaconId upTo net pass
    obtain ⟨rounds', forwarded', counted', stillBelow'⟩ := ih
    subst counted
    refine ⟨?_, ?_, by simp [counted']; omega, fun next _ => stillBelow' next (stillBelow rfl)⟩
    · rw [sentPackets_append, List.map_append, rounds, rounds', List.length_append,
        show lastSent + (sentPackets added).length + 1 =
          lastSent + 1 + 1 * (sentPackets added).length by omega,
        List.range'_append, Nat.add_comm (sentPackets rest).length]
    · simp only [sentPackets_append, List.mem_append]
      exact fun p mem => mem.elim (forwarded p) (forwarded' p)

/-- Inside the loop a pass ends the resync only at `up_to` or a closed pipeline. -/
theorem resyncPass_ended {peer : Addr} {lastSent lastSent' : Nat} {added : List (Event Addr B)}
    {joined : Joined} (below : lastSent < upTo) (fits : upTo < 2 ^ 64)
    (pass : ResyncPass beaconId upTo net peer lastSent added (.ended joined) lastSent') :
    (joined = .returned (.ok ()) ∧ lastSent' = upTo) ∨
      (joined = .returned (.error .syncClosedTx) ∧ lastSent' < upTo ∧
        ∃ pre p, added = pre ++ [.message peer (some p), .sendSynced p false]) := by
  cases pass with
  | overflow reached | behind reached => omega
  | fromOverflow _ _ big => omega
  | @streamed _ ps _ _ _ _ _ _ _ readOn leaves =>
    obtain ⟨-, -, stillBelow⟩ := resyncReadOn_sent beaconId upTo readOn below
    cases leaves with
    | panicked _ overflow => exact absurd overflow (resyncVerdict_ne_panic beaconId (by omega) _)
    | closedTx => exact .inr ⟨rfl, stillBelow, _, _, rfl⟩
    | reached _ _ atTarget => exact .inl ⟨rfl, atTarget⟩

/-- Inside the loop the passes end the resync only as one pass can. -/
theorem resyncAttempts_ended {tried : List Addr} {lastSent lastSent' : Nat}
    {added : List (Event Addr B)} {exit : Exit} {joined : Joined} (below : lastSent < upTo)
    (fits : upTo < 2 ^ 64) (attempts : ResyncAttempts beaconId upTo net tried lastSent added exit lastSent')
    (ended : exit = .ended joined) :
    (joined = .returned (.ok ()) ∧ lastSent' = upTo) ∨
      (joined = .returned (.error .syncClosedTx) ∧ lastSent' < upTo ∧
        ∃ pre peer p, added = pre ++ [.message peer (some p), .sendSynced p false]) := by
  induction attempts with
  | nil => cases ended
  | ended pass =>
    cases ended
    rcases resyncPass_ended beaconId upTo net below fits pass with reached | ⟨closed, under, pre, p, events⟩
    · exact .inl reached
    · exact .inr ⟨closed, under, pre, _, p, events⟩
  | @cons _ _ _ _ _ added _ _ pass _ ih =>
    obtain ⟨-, -, -, stillBelow⟩ := resyncPass_sent beaconId upTo net pass
    rcases ih (stillBelow rfl) ended with reached | ⟨closed, under, pre, peer, p, events⟩
    · exact .inl reached
    · exact .inr ⟨closed, under, added ++ pre, peer, p, by simp [events]⟩

end Sent

section Resync

variable (net : Network Addr) (startFrom upTo : Nat) (peers : List Addr) (beaconId : String)
  (txSynced : Channel Addr B BeaconPacket)

/-- A resync with a non-empty `u64` window forwards rounds in order and ends in one of 3 ways. -/
theorem resync_inside (start : 1 ≤ startFrom) (inside : startFrom ≤ upTo) (fits : upTo < 2 ^ 64) :
    ∃ joined events, resync net startFrom upTo peers beaconId txSynced = (joined, events) ∧
      (sentPackets events).map BeaconPacket.round =
        List.range' startFrom (sentPackets events).length ∧
      ((joined = .returned (.ok ()) ∧ startFrom - 1 + (sentPackets events).length = upTo) ∨
        (joined = .returned (.error .syncClosedTx) ∧
          startFrom - 1 + (sentPackets events).length < upTo ∧
          ∃ pre peer p, events = pre ++ [.message peer (some p), .sendSynced p false]) ∨
        (joined = .returned (.error (.triedAllPers (startFrom - 1 + (sentPackets events).length))) ∧
          startFrom - 1 + (sentPackets events).length < upTo)) := by
  obtain ⟨tried, events, exit, last, joined, -, attempts, run, outcome⟩ :=
    resync_run beaconId txSynced upTo net start
  obtain ⟨rounds, -, counted, stillBelow⟩ := resyncAttempts_sent beaconId upTo net attempts
  have below : startFrom - 1 < upTo := by omega
  refine ⟨joined, events, run, by rw [rounds, Nat.sub_add_cancel start], ?_⟩
  rw [← counted]
  rcases outcome with ended | ⟨rfl, -, rfl⟩
  · rcases resyncAttempts_ended beaconId upTo net below fits attempts ended with reached | closed
    · exact .inl reached
    · exact .inr (.inl closed)
  · exact .inr (.inr ⟨rfl, stillBelow rfl below⟩)

/-- Whatever the world answers, the resync forwards rounds in order and tries peers in order. -/
theorem resync_forwards_in_order (start : 1 ≤ startFrom) :
    (sentPackets (resync net startFrom upTo peers beaconId txSynced).2).map BeaconPacket.round =
        List.range' startFrom (sentPackets (resync net startFrom upTo peers beaconId txSynced).2).length ∧
      (∀ p ∈ sentPackets (resync net startFrom upTo peers beaconId txSynced).2,
        Forwarded beaconId upTo p) ∧
      ∃ tried exit last, tried <+: peers ∧
        ResyncAttempts beaconId upTo net tried (startFrom - 1)
          (resync net startFrom upTo peers beaconId txSynced).2 exit last ∧
        (exit = .nextPeer → tried = peers) := by
  obtain ⟨tried, events, exit, last, _, inOrder, attempts, run, outcome⟩ :=
    resync_run beaconId txSynced upTo net start
  obtain ⟨rounds, forwarded, -, -⟩ := resyncAttempts_sent beaconId upTo net attempts
  rw [run]
  refine ⟨by rw [rounds, Nat.sub_add_cancel start], forwarded, tried, exit, last, inOrder,
    attempts, ?_⟩
  rcases outcome with rfl | ⟨-, rfl, -⟩
  · nofun
  · exact fun _ => rfl

/-- A pipeline of the sample world that takes every packet. -/
def samplePipeline : Channel String Beacon BeaconPacket := ⟨fun _ _ => true⟩

theorem resync_forwards_in_order_sample :
    1 ≤ 11 ∧
    (sentPackets (resync sampleNetwork 11 15 ["P1", "P2"] "default" samplePipeline).2).map
        BeaconPacket.round =
      List.range' 11 (sentPackets (resync sampleNetwork 11 15 ["P1", "P2"] "default"
        samplePipeline).2).length ∧
      (∀ p ∈ sentPackets (resync sampleNetwork 11 15 ["P1", "P2"] "default" samplePipeline).2,
        Forwarded "default" 15 p) ∧
      ∃ tried exit last, tried <+: ["P1", "P2"] ∧
        ResyncAttempts "default" 15 sampleNetwork tried (11 - 1)
          (resync sampleNetwork 11 15 ["P1", "P2"] "default" samplePipeline).2 exit last ∧
        (exit = .nextPeer → tried = ["P1", "P2"]) :=
  ⟨by decide, resync_forwards_in_order sampleNetwork 11 15 ["P1", "P2"] "default" samplePipeline
    (by decide)⟩

/-- Every way a resync with `u64` bounds and `start_from ≥ 1` can end. -/
theorem resync_outcome (start : 1 ≤ startFrom) (startFits : startFrom < 2 ^ 64)
    (upToFits : upTo < 2 ^ 64) :
    ((resync net startFrom upTo peers beaconId txSynced).1 =
        .returned (.error (.invalidTarget startFrom upTo)) ↔ peers ≠ [] ∧ upTo < startFrom) ∧
      (peers ≠ [] → upTo < startFrom → (resync net startFrom upTo peers beaconId txSynced).2 = []) ∧
      ((resync net startFrom upTo peers beaconId txSynced).1 = .returned (.ok ()) ↔
        startFrom ≤ upTo ∧ ((sentPackets (resync net startFrom upTo peers beaconId txSynced).2).getLast?).map
          BeaconPacket.round = some upTo) ∧
      ((resync net startFrom upTo peers beaconId txSynced).1 = .returned (.error .syncClosedTx) →
        ∃ pre peer p, (resync net startFrom upTo peers beaconId txSynced).2 =
          pre ++ [.message peer (some p), .sendSynced p false]) ∧
      ((resync net startFrom upTo peers beaconId txSynced).1 =
          .returned (.error (.invalidTarget startFrom upTo)) ∨
        (resync net startFrom upTo peers beaconId txSynced).1 = .returned (.ok ()) ∨
        (resync net startFrom upTo peers beaconId txSynced).1 = .returned (.error .syncClosedTx) ∨
        ((resync net startFrom upTo peers beaconId txSynced).1 = .returned (.error (.triedAllPers
            ((((sentPackets (resync net startFrom upTo peers beaconId txSynced).2).getLast?).map
              BeaconPacket.round).getD (startFrom - 1)))) ∧
          (startFrom ≤ upTo → (((sentPackets (resync net startFrom upTo peers beaconId txSynced).2).getLast?).map
            BeaconPacket.round).getD (startFrom - 1) < upTo))) := by
  rcases Nat.lt_or_ge upTo startFrom with behind | inside
  · rcases peers with _ | ⟨peer, peers⟩
    · rw [resync_of_nil start]
      simp [Nat.not_le.mpr behind]
    · rw [resync_of_behind start startFits behind]
      simp [behind]
  obtain ⟨joined, events, run, rounds, outcome⟩ :=
    resync_inside net startFrom upTo peers beaconId txSynced start inside upToFits
  have last : ((sentPackets events).getLast?).map BeaconPacket.round =
      if (sentPackets events).length = 0 then none
      else some (startFrom + (sentPackets events).length - 1) := by
    rw [← List.getLast?_map, rounds, List.getLast?_range']
  have lastRound : (((sentPackets events).getLast?).map BeaconPacket.round).getD (startFrom - 1) =
      startFrom - 1 + (sentPackets events).length := by
    rw [last]
    split <;> simp only [Option.getD_none, Option.getD_some] <;> omega
  have notAtTarget : startFrom - 1 + (sentPackets events).length < upTo →
      ((sentPackets events).getLast?).map BeaconPacket.round ≠ some upTo := fun under atTarget => by
    rw [atTarget, Option.getD_some] at lastRound
    omega
  have notBehind : ¬(peers ≠ [] ∧ upTo < startFrom) := fun ⟨_, behind⟩ => absurd inside (by omega)
  have noTarget : peers ≠ [] → upTo < startFrom → events = [] := fun _ behind => absurd inside (by omega)
  rw [run]
  dsimp only
  rcases outcome with ⟨rfl, reached⟩ | ⟨rfl, under, shape⟩ | ⟨rfl, under⟩
  · refine ⟨iff_of_false nofun notBehind, noTarget, ⟨fun _ => ⟨inside, ?_⟩, fun _ => rfl⟩, nofun,
      .inr (.inl rfl)⟩
    rw [last, if_neg (by omega)]
    congr 1
    omega
  · exact ⟨iff_of_false nofun notBehind, noTarget,
      iff_of_false nofun fun ⟨_, atTarget⟩ => notAtTarget under atTarget, fun _ => shape,
      .inr (.inr (.inl rfl))⟩
  · exact ⟨iff_of_false nofun notBehind, noTarget,
      iff_of_false nofun fun ⟨_, atTarget⟩ => notAtTarget under atTarget, nofun,
      .inr (.inr (.inr ⟨by rw [lastRound], fun _ => lastRound ▸ under⟩))⟩

theorem resync_outcome_sample :
    1 ≤ 11 ∧ 11 < 2 ^ 64 ∧ 15 < 2 ^ 64 ∧
    ((resync sampleNetwork 11 15 ["P1", "P2"] "default" samplePipeline).1 =
        .returned (.error (.invalidTarget 11 15)) ↔ ["P1", "P2"] ≠ [] ∧ 15 < 11) ∧
      (["P1", "P2"] ≠ [] → 15 < 11 →
        (resync sampleNetwork 11 15 ["P1", "P2"] "default" samplePipeline).2 = []) ∧
      ((resync sampleNetwork 11 15 ["P1", "P2"] "default" samplePipeline).1 = .returned (.ok ()) ↔
        11 ≤ 15 ∧ ((sentPackets (resync sampleNetwork 11 15 ["P1", "P2"] "default"
          samplePipeline).2).getLast?).map BeaconPacket.round = some 15) ∧
      ((resync sampleNetwork 11 15 ["P1", "P2"] "default" samplePipeline).1 =
          .returned (.error .syncClosedTx) →
        ∃ pre peer p, (resync sampleNetwork 11 15 ["P1", "P2"] "default" samplePipeline).2 =
          pre ++ [.message peer (some p), .sendSynced p false]) ∧
      ((resync sampleNetwork 11 15 ["P1", "P2"] "default" samplePipeline).1 =
          .returned (.error (.invalidTarget 11 15)) ∨
        (resync sampleNetwork 11 15 ["P1", "P2"] "default" samplePipeline).1 = .returned (.ok ()) ∨
        (resync sampleNetwork 11 15 ["P1", "P2"] "default" samplePipeline).1 =
          .returned (.error .syncClosedTx) ∨
        ((resync sampleNetwork 11 15 ["P1", "P2"] "default" samplePipeline).1 =
            .returned (.error (.triedAllPers ((((sentPackets (resync sampleNetwork 11 15 ["P1", "P2"]
              "default" samplePipeline).2).getLast?).map BeaconPacket.round).getD (11 - 1)))) ∧
          (11 ≤ 15 → (((sentPackets (resync sampleNetwork 11 15 ["P1", "P2"] "default"
            samplePipeline).2).getLast?).map BeaconPacket.round).getD (11 - 1) < 15))) :=
  ⟨by decide, by decide, by decide,
    resync_outcome sampleNetwork 11 15 ["P1", "P2"] "default" samplePipeline (by decide) (by decide)
      (by decide)⟩

end Resync

end Drand.Sync
