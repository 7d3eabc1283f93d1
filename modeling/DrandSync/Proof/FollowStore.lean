import DrandSync.Proof.FollowVerified
import DrandSync.Proof.FollowProgress

/-
This file runs follow requests on a store that keeps what it takes: it keeps a signed chain,
and under unique signatures any two runs agree.
-/

namespace Drand.Sync

open BeaconRepr

variable {Addr B Key Sig : Type} [BeaconRepr B]

section Chain

variable (scheme : Scheme Key Sig) (info : ChainInfo Key)

/-- A packet that extends `last` on the chain `info`: the follow's checks but the target bound. -/
structure Links (last : B) (p : BeaconPacket) : Prop where
  beaconId : ∃ metadata, p.metadata = some metadata ∧ metadata.beaconId = info.beaconId
  nextRound : p.round = round last + 1
  signed : ∃ sig, scheme.deserialize p.signature = some sig ∧
    scheme.isValidSignature info.publicKey (signature last) p.round sig = true

/-- The packets extend the beacon `last` one after the other. -/
def SignedChain : B → List BeaconPacket → Prop
  | _, [] => True
  | last, p :: ps => Links scheme info last p ∧ SignedChain (fromPacket p) ps

@[simp] theorem signedChain_nil (last : B) : SignedChain scheme info last [] := trivial

@[simp] theorem signedChain_cons (last : B) (p : BeaconPacket) (ps : List BeaconPacket) :
    SignedChain scheme info last (p :: ps) ↔
      Links scheme info last p ∧ SignedChain scheme info (fromPacket p : B) ps := Iff.rfl

theorem signedChain_append (last : B) (ps qs : List BeaconPacket) :
    SignedChain scheme info last (ps ++ qs) ↔
      SignedChain scheme info last ps ∧ SignedChain scheme info (lastStoredAfter last ps) qs := by
  induction ps generalizing last <;> simp_all [and_assoc]

/-- The rounds of a signed chain follow the round of its start one by one. -/
theorem SignedChain.rounds {last : B} {ps : List BeaconPacket}
    (chain : SignedChain scheme info last ps) :
    ps.map BeaconPacket.round = List.range' (round last + 1) ps.length := by
  induction ps generalizing last with
  | nil => rfl
  | cons p ps ih =>
    obtain ⟨linked, rest⟩ := chain
    simp [ih rest, linked.nextRound, List.range'_succ]

/-- A signed chain ends as many rounds after its start as it has packets. -/
theorem SignedChain.round_lastStoredAfter {last : B} {ps : List BeaconPacket}
    (chain : SignedChain scheme info last ps) :
    round (lastStoredAfter last ps) = round last + ps.length := by
  induction ps generalizing last with
  | nil => rfl
  | cons p ps ih =>
    obtain ⟨linked, rest⟩ := chain
    simp only [lastStoredAfter_cons, ih rest, round_fromPacket, linked.nextRound, List.length_cons]
    omega

/-- What a follow session verifies is a signed chain of the syncer's chain. -/
theorem DefaultSyncer.VerifiedChain.signedChain {syncer : DefaultSyncer Addr B Key}
    {target : Nat} {last : B} {ps : List BeaconPacket}
    (chain : syncer.VerifiedChain scheme target last ps) :
    SignedChain scheme syncer.info last ps := by
  induction ps generalizing last with
  | nil => trivial
  | cons p ps ih =>
    obtain ⟨verified, rest⟩ := chain
    exact ⟨⟨verified.beaconId, verified.nextRound, verified.signed⟩, ih rest⟩

end Chain

/-- A chain store that keeps in memory its genesis beacon and every beacon it took. -/
structure MemoryStore (B : Type) where
  genesis : B
  beacons : List B

/-- The beacon `store.last()` reads: the one taken last, or the genesis beacon. -/
def MemoryStore.tail (memory : MemoryStore B) : B := memory.beacons.getLastD memory.genesis

/-- A follow request: its peers, target, network, progress receiver and store backend. -/
structure FollowRequest (Addr B : Type) where
  peers : List Addr
  target : Nat
  net : Network Addr
  tx : Channel Addr B SyncProgressResponse
  backend : ChainStore Addr B

section Memory

variable (scheme : Scheme Key Sig) (info : ChainInfo Key)

/-- One follow request on the memory, which keeps every beacon whose `put` succeeded. -/
def MemoryStore.follow (memory : MemoryStore B) (request : FollowRequest Addr B) :
    Joined × MemoryStore B :=
  let syncer : DefaultSyncer Addr B Key :=
    ⟨{ request.backend with last := .ok memory.tail }, info, request.peers⟩
  let run := syncer.processFollowRequest scheme request.tx request.target request.net
  (run.1, ⟨memory.genesis, memory.beacons ++ storedBeacons run.2⟩)

/-- Follow requests of the chain `info` run one after the other on the memory. -/
def MemoryStore.followAll : MemoryStore B → List (FollowRequest Addr B) → MemoryStore B
  | memory, [] => memory
  | memory, request :: requests =>
    MemoryStore.followAll (memory.follow scheme info request).2 requests

@[simp] theorem MemoryStore.followAll_nil (memory : MemoryStore B) :
    memory.followAll scheme info ([] : List (FollowRequest Addr B)) = memory := rfl

@[simp] theorem MemoryStore.followAll_cons (memory : MemoryStore B)
    (request : FollowRequest Addr B) (requests : List (FollowRequest Addr B)) :
    memory.followAll scheme info (request :: requests) =
      (memory.follow scheme info request).2.followAll scheme info requests := rfl

@[simp] theorem MemoryStore.followAll_genesis (memory : MemoryStore B)
    (requests : List (FollowRequest Addr B)) :
    (memory.followAll scheme info requests).genesis = memory.genesis := by
  induction requests generalizing memory <;> simp_all [MemoryStore.follow]

/-- The memory's beacons are those of packets that extend its genesis beacon. -/
def MemoryStore.Signed (memory : MemoryStore B) : Prop :=
  ∃ ps, memory.beacons = ps.map fromPacket ∧ SignedChain scheme info memory.genesis ps

/-- The tail of a memory holding a signed chain is the beacon of its last packet. -/
theorem MemoryStore.tail_map_fromPacket (genesis : B) (ps : List BeaconPacket) :
    (⟨genesis, ps.map fromPacket⟩ : MemoryStore B).tail = lastStoredAfter genesis ps := by
  rw [MemoryStore.tail, List.getLastD_eq_getLast?, lastStoredAfter_eq_getLast]

/-- One follow request keeps the memory a signed chain. -/
theorem MemoryStore.follow_signed {memory : MemoryStore B} (signed : memory.Signed scheme info)
    (request : FollowRequest Addr B) :
    (memory.follow scheme info request).2.Signed scheme info := by
  obtain ⟨genesis, beacons⟩ := memory
  obtain ⟨ps, rfl, chain⟩ := signed
  let syncer : DefaultSyncer Addr B Key :=
    ⟨{ request.backend with last := .ok (⟨genesis, ps.map fromPacket⟩ : MemoryStore B).tail },
      info, request.peers⟩
  have reads : syncer.store.last = .ok (lastStoredAfter genesis ps) := by
    simp only [syncer, MemoryStore.tail_map_fromPacket]
  obtain ⟨qs, verified, kept⟩ :=
    syncer.processFollowRequest_storedChain scheme request.tx request.target request.net reads
  refine ⟨ps ++ qs, ?_, (signedChain_append scheme info _ _ _).mpr
    ⟨chain, verified.signedChain scheme⟩⟩
  simp only [MemoryStore.follow, List.map_append]
  rw [← kept]

/-- Every run of follow requests keeps the memory a signed chain. -/
theorem MemoryStore.followAll_signed (requests : List (FollowRequest Addr B))
    {memory : MemoryStore B} (signed : memory.Signed scheme info) :
    (memory.followAll scheme info requests).Signed scheme info := by
  induction requests generalizing memory with
  | nil => exact signed
  | cons request requests ih => exact ih (MemoryStore.follow_signed scheme info signed request)

/-- Any run of follow requests keeps the memory a signed chain with consecutive rounds. -/
theorem MemoryStore.followAll_keeps_chain (requests : List (FollowRequest Addr B))
    {memory : MemoryStore B} (signed : memory.Signed scheme info) :
    (memory.followAll scheme info requests).Signed scheme info ∧
      (memory.followAll scheme info requests).beacons.map BeaconRepr.round =
        List.range' (BeaconRepr.round memory.genesis + 1)
          (memory.followAll scheme info requests).beacons.length := by
  have kept := memory.followAll_signed scheme info requests signed
  refine ⟨kept, ?_⟩
  obtain ⟨ps, beacons, chain⟩ := kept
  rw [MemoryStore.followAll_genesis] at chain
  simpa [beacons, Function.comp_def] using chain.rounds scheme info

end Memory

/-- The sample world's store as a memory: genesis at round 10, nothing taken yet. -/
def sampleMemory : MemoryStore Beacon := ⟨⟨[], 10, []⟩, []⟩

/-- A request of the sample world: follow up to round 15 from `P1` and `P2`. -/
def sampleFollowRequest : FollowRequest String Beacon :=
  ⟨["P1", "P2"], 15, sampleNetwork, sampleProgress, sampleSyncer.store⟩

theorem followAll_keeps_chain_sample :
    sampleMemory.Signed sampleScheme sampleSyncer.info ∧
      (sampleMemory.followAll sampleScheme sampleSyncer.info
          [sampleFollowRequest, { sampleFollowRequest with target := 20 }]).Signed sampleScheme
        sampleSyncer.info ∧
      (sampleMemory.followAll sampleScheme sampleSyncer.info
          [sampleFollowRequest, { sampleFollowRequest with target := 20 }]).beacons.map BeaconRepr.round =
        List.range' (BeaconRepr.round sampleMemory.genesis + 1) (sampleMemory.followAll sampleScheme
          sampleSyncer.info [sampleFollowRequest, { sampleFollowRequest with target := 20 }]).beacons.length :=
  ⟨⟨[], rfl, trivial⟩, MemoryStore.followAll_keeps_chain sampleScheme sampleSyncer.info
    [sampleFollowRequest, { sampleFollowRequest with target := 20 }] ⟨[], rfl, trivial⟩⟩

/-- The rounds and signatures of the beacons the memory holds, in order. -/
def MemoryStore.entries (memory : MemoryStore B) : List (Nat × Bytes) :=
  memory.beacons.map fun beacon => (round beacon, signature beacon)

/-- At most one valid encoding per key, previous signature and round, as for threshold BLS. -/
def Scheme.UniqueSignatures (scheme : Scheme Key Sig) (key : Key) : Prop :=
  ∀ previous round bytes bytes' sig sig', scheme.deserialize bytes = some sig →
    scheme.deserialize bytes' = some sig' → scheme.isValidSignature key previous round sig = true →
    scheme.isValidSignature key previous round sig' = true → bytes = bytes'

section Agreement

variable {scheme : Scheme Key Sig} {info : ChainInfo Key}

/-- Under unique signatures two signed chains from one beacon agree where both reach. -/
theorem SignedChain.agree (unique : scheme.UniqueSignatures info.publicKey) {last last' : B}
    {ps qs : List BeaconPacket} (chain : SignedChain scheme info last ps)
    (chain' : SignedChain scheme info last' qs) (sameRound : round last = round last')
    (sameSignature : signature last = signature last') :
    ps.map (fun p => (p.round, p.signature)) <+: qs.map (fun p => (p.round, p.signature)) ∨
      qs.map (fun p => (p.round, p.signature)) <+: ps.map (fun p => (p.round, p.signature)) := by
  induction ps generalizing last last' qs with
  | nil => exact .inl List.nil_prefix
  | cons p ps ih =>
    cases qs with
    | nil => exact .inr List.nil_prefix
    | cons q qs =>
      obtain ⟨linked, rest⟩ := chain
      obtain ⟨linked', rest'⟩ := chain'
      have nextRound : p.round = q.round := by rw [linked.nextRound, linked'.nextRound, sameRound]
      obtain ⟨sig, decoded, valid⟩ := linked.signed
      obtain ⟨sig', decoded', valid'⟩ := linked'.signed
      have nextSignature : p.signature = q.signature :=
        unique _ _ _ _ _ _ decoded decoded' valid (by rwa [sameSignature, nextRound])
      simp only [List.map_cons, List.cons_prefix_cons, nextRound, nextSignature, true_and]
      exact ih rest rest' (by simpa using nextRound) (by simpa using nextSignature)

/-- Under unique signatures any two runs from one memory agree on every round both hold. -/
theorem MemoryStore.followAll_agree (unique : scheme.UniqueSignatures info.publicKey)
    {memory : MemoryStore B} (signed : memory.Signed scheme info)
    (requests requests' : List (FollowRequest Addr B)) :
    (memory.followAll scheme info requests).entries <+:
        (memory.followAll scheme info requests').entries ∨
      (memory.followAll scheme info requests').entries <+:
        (memory.followAll scheme info requests).entries := by
  obtain ⟨ps, beacons, chain⟩ := memory.followAll_signed scheme info requests signed
  obtain ⟨qs, beacons', chain'⟩ := memory.followAll_signed scheme info requests' signed
  rw [MemoryStore.followAll_genesis] at chain chain'
  simpa [MemoryStore.entries, beacons, beacons', Function.comp_def] using
    chain.agree unique chain' rfl rfl

/-- A scheme whose one valid signature appends the round's low byte to the previous one. -/
def sampleUniqueScheme : Scheme Unit Bytes :=
  ⟨"pedersen-bls-chained", some, fun _ _ => none,
    fun _ previous round sig => decide (sig = previous ++ [UInt8.ofNat round])⟩

theorem sampleUniqueScheme_unique : sampleUniqueScheme.UniqueSignatures () := by
  intro previous round bytes bytes' sig sig' decoded decoded' valid valid'
  simp only [sampleUniqueScheme, Option.some.injEq, decide_eq_true_eq] at *
  rw [decoded, decoded', valid, valid']

/-- The signature of round `r` under `sampleUniqueScheme`: the low bytes of rounds `1` to `r`. -/
def sampleSignature (r : Nat) : Bytes := (List.range' 1 r).map UInt8.ofNat

/-- The packet of the round `r` in the chain of `sampleUniqueScheme`. -/
def sampleChain (r : Nat) : BeaconPacket := ⟨[], r, sampleSignature r, some ⟨"default", []⟩⟩

/-- `P1` streams the right rounds with signatures that never verify; `P2` streams the chain. -/
def sampleHonestNetwork : Network String where
  protocolClient _ := true
  syncChain peer fromRound _ := some fun index =>
    if peer = "P1" then some { sampleChain (fromRound + index) with signature := [] }
    else some (sampleChain (fromRound + index))
  publicClient _ := true
  chainInfo _ _ := .error ⟨14, "unavailable"⟩

/-- A syncer of the chain of `sampleUniqueScheme` whose store's tail is the round 10. -/
def sampleHonestSyncer : DefaultSyncer String Beacon Unit :=
  ⟨⟨.ok ⟨[], 10, sampleSignature 10⟩, fun _ _ => .ok (), fun _ _ => .ok ()⟩, ⟨"default", ()⟩,
    ["P1", "P2"]⟩

/-- Two nodes from round 10: one follows `P1` and `P2` to round 15, the other `P2` to round 12. -/
theorem followAll_agree_sample :
    sampleUniqueScheme.UniqueSignatures sampleHonestSyncer.info.publicKey ∧
      (⟨⟨[], 10, sampleSignature 10⟩, []⟩ : MemoryStore Beacon).Signed sampleUniqueScheme
        sampleHonestSyncer.info ∧
      (((⟨⟨[], 10, sampleSignature 10⟩, []⟩ : MemoryStore Beacon).followAll sampleUniqueScheme
          sampleHonestSyncer.info
          [⟨["P1", "P2"], 15, sampleHonestNetwork, sampleProgress, sampleHonestSyncer.store⟩]).entries <+:
        ((⟨⟨[], 10, sampleSignature 10⟩, []⟩ : MemoryStore Beacon).followAll sampleUniqueScheme
          sampleHonestSyncer.info
          [⟨["P2"], 12, sampleHonestNetwork, sampleProgress, sampleHonestSyncer.store⟩]).entries ∨
      ((⟨⟨[], 10, sampleSignature 10⟩, []⟩ : MemoryStore Beacon).followAll sampleUniqueScheme
          sampleHonestSyncer.info
          [⟨["P2"], 12, sampleHonestNetwork, sampleProgress, sampleHonestSyncer.store⟩]).entries <+:
        ((⟨⟨[], 10, sampleSignature 10⟩, []⟩ : MemoryStore Beacon).followAll sampleUniqueScheme
          sampleHonestSyncer.info
          [⟨["P1", "P2"], 15, sampleHonestNetwork, sampleProgress, sampleHonestSyncer.store⟩]).entries) :=
  ⟨sampleUniqueScheme_unique, ⟨[], rfl, trivial⟩,
    MemoryStore.followAll_agree sampleUniqueScheme_unique ⟨[], rfl, trivial⟩
      [⟨["P1", "P2"], 15, sampleHonestNetwork, sampleProgress, sampleHonestSyncer.store⟩]
      [⟨["P2"], 12, sampleHonestNetwork, sampleProgress, sampleHonestSyncer.store⟩]⟩

end Agreement

end Drand.Sync
