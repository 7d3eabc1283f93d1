import DrandSync.Proof.FollowStore
import DrandSync.Proof.FollowLog

/-
This file proves that under unique signatures one honest peer is enough for a follow session.
-/

namespace Drand.Sync

open BeaconRepr

variable {Addr B Key Sig : Type} [BeaconRepr B]

/-- The chain's packets after `tail` up to `target`, each signed on the one before. -/
structure Canonical (scheme : Scheme Key Sig) (info : ChainInfo Key) (tail : B) (target : Nat)
    (chain : Nat → BeaconPacket) : Prop where
  tailSignature : (chain (round tail)).signature = signature tail
  rounds : ∀ r, round tail < r → r ≤ target → (chain r).round = r
  named : ∀ r, round tail < r → r ≤ target →
    ∃ metadata, (chain r).metadata = some metadata ∧ metadata.beaconId = info.beaconId
  signed : ∀ r, round tail < r → r ≤ target → ∃ sig,
    scheme.deserialize (chain r).signature = some sig ∧
      scheme.isValidSignature info.publicKey (chain (r - 1)).signature r sig = true

/-- A peer that opens and streams the chain's packets from any start up to `target`. -/
structure ServesChain (net : Network Addr) (beaconId : String) (target : Nat)
    (chain : Nat → BeaconPacket) (peer : Addr) : Prop where
  opens : net.protocolClient peer = true
  streams : ∀ fromRound, fromRound ≤ target → ∃ stream,
    net.syncChain peer fromRound beaconId = some stream ∧
      ∀ index, fromRound + index ≤ target → stream index = some (chain (fromRound + index))

/-- The stored beacon `last` is at or after `tail` and has the chain's signature of its round. -/
def OnChain (chain : Nat → BeaconPacket) (tail last : B) : Prop :=
  round tail ≤ round last ∧ signature last = (chain (round last)).signature

section Honest

variable (syncer : DefaultSyncer Addr B Key) (scheme : Scheme Key Sig) (target startedFrom : Nat)
  (net : Network Addr) {tail : B} {chain : Nat → BeaconPacket}

/-- Under unique signatures a packet verified after a beacon on the chain is on it. -/
theorem DefaultSyncer.Verified.onChain (unique : scheme.UniqueSignatures syncer.info.publicKey)
    (canonical : Canonical scheme syncer.info tail target chain) {last : B} {p : BeaconPacket}
    (onChain : OnChain chain tail last) (verified : syncer.Verified scheme target last p) :
    OnChain chain tail (fromPacket p : B) := by
  obtain ⟨after, sameSignature⟩ := onChain
  obtain ⟨sig, decoded, valid⟩ := verified.signed
  have later : round tail < p.round := by rw [verified.nextRound]; omega
  obtain ⟨sig', decoded', valid'⟩ := canonical.signed p.round later verified.atMostTarget
  rw [verified.nextRound, Nat.add_sub_cancel, ← sameSignature] at valid'
  rw [verified.nextRound] at valid decoded'
  refine ⟨by simp only [round_fromPacket]; omega, ?_⟩
  simpa [verified.nextRound] using unique _ _ _ _ _ _ decoded decoded' valid valid'

theorem DefaultSyncer.VerifiedChain.onChain (unique : scheme.UniqueSignatures syncer.info.publicKey)
    (canonical : Canonical scheme syncer.info tail target chain) {last : B}
    {ps : List BeaconPacket} (onChain : OnChain chain tail last)
    (verified : syncer.VerifiedChain scheme target last ps) :
    OnChain chain tail (lastStoredAfter last ps) := by
  induction ps generalizing last with
  | nil => exact onChain
  | cons p ps ih =>
    exact ih (verified.1.onChain syncer scheme target unique canonical onChain) verified.2

/-- Under unique signatures a verified chain from the chain carries the chain's signatures. -/
theorem DefaultSyncer.VerifiedChain.entries (unique : scheme.UniqueSignatures syncer.info.publicKey)
    (canonical : Canonical scheme syncer.info tail target chain) {last : B}
    {ps : List BeaconPacket} (onChain : OnChain chain tail last)
    (verified : syncer.VerifiedChain scheme target last ps) :
    ps.map (fun p => (p.round, p.signature)) =
      (List.range' (round last + 1) ps.length).map fun r => (r, (chain r).signature) := by
  induction ps generalizing last with
  | nil => rfl
  | cons p ps ih =>
    have next := verified.1.onChain syncer scheme target unique canonical onChain
    have signed : p.signature = (chain p.round).signature := by simpa [OnChain] using next.2
    rw [List.map_cons, ih next verified.2]
    simp [List.range'_succ, verified.1.nextRound, signed]

/-- Below the target, the chain's next packet passes every check of the follow. -/
theorem DefaultSyncer.verdict_chain (canonical : Canonical scheme syncer.info tail target chain)
    {last : B} (onChain : OnChain chain tail last) (below : round last < target)
    (fits : target < 2 ^ 64) :
    syncer.verdict scheme target last (chain (round last + 1)) = .accept := by
  have later : round tail < round last + 1 := Nat.lt_succ_of_le onChain.1
  obtain ⟨metadata, present, named⟩ := canonical.named _ later below
  obtain ⟨sig, decoded, valid⟩ := canonical.signed _ later below
  rw [Nat.add_sub_cancel, ← onChain.2] at valid
  simp [DefaultSyncer.verdict, present, named, addU64_of_lt (show round last + 1 < 2 ^ 64 by omega),
    canonical.rounds _ later below, subU64_of_le below, decoded, valid]

/-- Under unique signatures a pass on an honest peer never moves on below the target. -/
theorem DefaultSyncer.peerPass_servesChain (unique : scheme.UniqueSignatures syncer.info.publicKey)
    (canonical : Canonical scheme syncer.info tail target chain) {peer : Addr}
    (serves : ServesChain net syncer.info.beaconId target chain peer) {last last' : B}
    {added : List (Event Addr B)} (onChain : OnChain chain tail last) (below : round last < target)
    (fits : target < 2 ^ 64)
    (pass : syncer.PeerPass scheme target startedFrom net peer last added .nextPeer last') :
    False := by
  cases pass with
  | clientFailed _ _ refused => exact Bool.false_ne_true (refused.symm.trans serves.opens)
  | streamFailed _ ahead _ unopened =>
    obtain ⟨_, answered, -⟩ := serves.streams _ ahead
    exact Option.noConfusion (unopened.symm.trans answered)
  | @streamed stream ps _ _ _ _ ahead _ answered readOn leaves =>
    obtain ⟨served, answered', inOrder⟩ := serves.streams _ ahead
    cases answered.symm.trans answered'
    obtain ⟨rounds, stillBelow⟩ := syncer.readOn_round scheme target readOn
    have onChain' := (syncer.readOn_verifiedChain scheme target readOn).onChain syncer scheme
      target unique canonical onChain
    have accepted := syncer.verdict_chain scheme target canonical onChain' (stillBelow below) fits
    have received := inOrder ps.length (by omega)
    rw [rounds, Nat.add_right_comm] at accepted
    cases leaves with
    | closed ended => exact Option.noConfusion (ended.symm.trans received)
    | skipped received' rejected =>
      cases received'.symm.trans received
      exact Verdict.noConfusion (rejected.symm.trans accepted)

/-- Passes over peers that include an honest one do not all move on. -/
theorem DefaultSyncer.attempts_servesChain (unique : scheme.UniqueSignatures syncer.info.publicKey)
    (canonical : Canonical scheme syncer.info tail target chain) {peer : Addr}
    (serves : ServesChain net syncer.info.beaconId target chain peer) {tried : List Addr}
    (listed : peer ∈ tried) {last last' : B} {added : List (Event Addr B)} {exit : Exit}
    (within : Within startedFrom target last) (onChain : OnChain chain tail last)
    (attempts : syncer.Attempts scheme target startedFrom net tried last added exit last')
    (moved : exit = .nextPeer) : False := by
  induction attempts with
  | nil => exact List.not_mem_nil _ listed
  | ended => cases moved
  | @cons other _ _ _ _ _ _ _ pass _ ih =>
    rcases List.mem_cons.mp listed with rfl | listed'
    · exact syncer.peerPass_servesChain scheme target startedFrom net unique canonical serves
        onChain within.2.1 within.2.2 pass
    rcases syncer.peerPass_within scheme target startedFrom net within pass with
      ⟨-, within'⟩ | ⟨_, _, _, stop, -⟩
    · obtain ⟨qs, -, verified, movedTo⟩ :=
        syncer.peerPass_puts scheme target startedFrom net pass
      rw [movedTo rfl] at within' ih
      exact ih listed' within'
        (verified.onChain syncer scheme target unique canonical onChain) moved
    · cases stop

end Honest

section Session

variable (syncer : DefaultSyncer Addr B Key) (scheme : Scheme Key Sig)
  (tx : Channel Addr B SyncProgressResponse) (target : Nat) (net : Network Addr)

/-- With an honest peer a follow below its target ends inside the loop. -/
theorem DefaultSyncer.processFollowRequest_servesChain_end
    (unique : scheme.UniqueSignatures syncer.info.publicKey) {tail : B}
    (stored : syncer.store.last = .ok tail) (below : round tail < target) (fits : target < 2 ^ 64)
    {chain : Nat → BeaconPacket} (canonical : Canonical scheme syncer.info tail target chain)
    {peer : Addr} (listed : peer ∈ syncer.peers)
    (serves : ServesChain net syncer.info.beaconId target chain peer) :
    ∃ pre last final joined,
      syncer.processFollowRequest scheme tx target net = (joined, .storeLast :: (pre ++ final)) ∧
        FollowEnd last target final joined := by
  obtain ⟨tried, added, exit, last, joined, final, -, attempts, run, outcome⟩ :=
    syncer.processFollowRequest_run scheme target net tx stored below
  have within : Within (round tail) target tail := ⟨le_rfl, below, fits⟩
  rcases outcome with ⟨rfl, rfl⟩ | ⟨rfl, rfl, -⟩
  · rcases syncer.attempts_within scheme target (round tail) net within attempts with
      ⟨stop, -⟩ | ⟨_, pre, ending, ender, stop, rfl, finalEnd⟩
    · cases stop
    cases stop
    exact ⟨pre, ender, ending, joined, by rw [run, List.append_nil], finalEnd⟩
  · exact (syncer.attempts_servesChain scheme target (round tail) net unique canonical serves
      listed within ⟨le_rfl, canonical.tailSignature.symm⟩ attempts rfl).elim

/-- With an honest peer a follow ends with `Ok(())` or a store error, whatever the others send. -/
theorem DefaultSyncer.processFollowRequest_of_servesChain
    (unique : scheme.UniqueSignatures syncer.info.publicKey) {tail : B}
    (stored : syncer.store.last = .ok tail) (fits : target < 2 ^ 64) {chain : Nat → BeaconPacket}
    (canonical : Canonical scheme syncer.info tail target chain) {peer : Addr}
    (listed : peer ∈ syncer.peers) (serves : ServesChain net syncer.info.beaconId target chain peer) :
    (syncer.processFollowRequest scheme tx target net).1 = .returned (.ok ()) ∨
      ∃ err, (syncer.processFollowRequest scheme tx target net).1 =
        .returned (.error (.chainStore err)) := by
  rcases Nat.lt_or_ge (round tail) target with below | reached
  · obtain ⟨_, _, _, _, run, finalEnd⟩ := syncer.processFollowRequest_servesChain_end scheme tx
      target net unique stored below fits canonical listed serves
    rw [run]
    cases finalEnd with
    | reached | receiverGone => exact .inl rfl
    | putFailed => exact .inr ⟨_, rfl⟩
  · exact .inl (by rw [syncer.processFollowRequest_of_le scheme tx target stored reached])

/-- If store and receiver take all, a follow with an honest peer stores the chain to the target. -/
theorem DefaultSyncer.processFollowRequest_reaches
    (unique : scheme.UniqueSignatures syncer.info.publicKey)
    (stores : ∀ history beacon, syncer.store.put history beacon = .ok ())
    (reports : ∀ history response, tx.send history response = true) {tail : B}
    (stored : syncer.store.last = .ok tail) (below : round tail < target) (fits : target < 2 ^ 64)
    {chain : Nat → BeaconPacket} (canonical : Canonical scheme syncer.info tail target chain)
    {peer : Addr} (listed : peer ∈ syncer.peers)
    (serves : ServesChain net syncer.info.beaconId target chain peer) :
    (syncer.processFollowRequest scheme tx target net).1 = .returned (.ok ()) ∧
      ∃ ps, storedBeacons (syncer.processFollowRequest scheme tx target net).2 =
          ps.map fromPacket ∧
        syncer.VerifiedChain scheme target tail ps ∧
        round (lastStoredAfter tail ps) = target := by
  obtain ⟨ps, puts, verified⟩ := syncer.processFollowRequest_puts scheme tx target net stored
  obtain ⟨noFailedPut, noRefusal⟩ :=
    (syncer.processFollowRequest_answered scheme tx target net).not_failed stores reports
  rw [← storedBeacons_eq_putCalls noFailedPut] at puts
  obtain ⟨pre, last, final, joined, run, finalEnd⟩ :=
    syncer.processFollowRequest_servesChain_end scheme tx target net unique stored below fits
      canonical listed serves
  rw [run] at puts noFailedPut noRefusal ⊢
  cases finalEnd with
  | @reached p atTarget =>
    refine ⟨rfl, ps, puts, verified, ?_⟩
    rw [lastStoredAfter_eq_getLast, ← puts]
    simp [storedEvents, storedBeacons, Event.storedBeacon, atTarget]
  | @receiverGone p => exact (noRefusal (.ok ⟨p.round, target⟩) (by simp [storedEvents])).elim
  | @putFailed p => exact (noFailedPut (fromPacket p) (by simp)).elim

end Session

theorem sampleChain_canonical :
    Canonical sampleUniqueScheme sampleHonestSyncer.info
      (⟨[], 10, sampleSignature 10⟩ : Beacon) 15 sampleChain := by
  refine ⟨rfl, fun _ _ _ => rfl, fun _ _ _ => ⟨_, rfl, rfl⟩, fun r after _ => ⟨_, rfl, ?_⟩⟩
  obtain ⟨r, rfl⟩ : ∃ r', r = r' + 1 :=
    ⟨r - 1, by simp only [BeaconRepr.round] at after; omega⟩
  simp [sampleUniqueScheme, sampleChain, sampleSignature, List.range'_concat,
    Nat.add_comm 1 r]

/-- The peer `P2` of the sample world serves the chain up to any round. -/
theorem sampleHonestNetwork_servesChain (target : Nat) :
    ServesChain sampleHonestNetwork sampleHonestSyncer.info.beaconId target sampleChain "P2" :=
  ⟨rfl, fun _ _ => ⟨_, rfl, fun _ _ => if_neg (by decide)⟩⟩

theorem processFollowRequest_of_servesChain_sample :
    sampleUniqueScheme.UniqueSignatures sampleHonestSyncer.info.publicKey ∧
      sampleHonestSyncer.store.last = .ok ⟨[], 10, sampleSignature 10⟩ ∧ 15 < 2 ^ 64 ∧
      Canonical sampleUniqueScheme sampleHonestSyncer.info (⟨[], 10, sampleSignature 10⟩ : Beacon)
        15 sampleChain ∧
      "P2" ∈ sampleHonestSyncer.peers ∧
      ServesChain sampleHonestNetwork sampleHonestSyncer.info.beaconId 15 sampleChain "P2" ∧
      ((sampleHonestSyncer.processFollowRequest sampleUniqueScheme sampleProgress 15
          sampleHonestNetwork).1 = .returned (.ok ()) ∨
        ∃ err, (sampleHonestSyncer.processFollowRequest sampleUniqueScheme sampleProgress 15
          sampleHonestNetwork).1 = .returned (.error (.chainStore err))) :=
  ⟨sampleUniqueScheme_unique, rfl, by decide, sampleChain_canonical, by decide,
    sampleHonestNetwork_servesChain 15,
    sampleHonestSyncer.processFollowRequest_of_servesChain sampleUniqueScheme sampleProgress 15
      sampleHonestNetwork sampleUniqueScheme_unique rfl (by decide) sampleChain_canonical
      (show "P2" ∈ sampleHonestSyncer.peers by decide) (sampleHonestNetwork_servesChain 15)⟩

end Drand.Sync
