import VelesMining.Chain
import VelesMining.Util.Strencodings
import VelesMining.Rpc.Request

/-!
# `generateBlocks`: the regtest miner

`generateBlocks` (`rpc/mining.cpp`) mines `nGenerate` blocks on top of the tip. Each pass of its
outer loop assembles a fresh template, bumps the coinbase extra nonce and scans nonces
`0 .. 0x10000` until the proof-of-work check passes, the nonce range is exhausted or the tries
budget `nMaxTries` is spent; a hit is handed to `ProcessNewBlock`.

Everything the loop asks of the node is the environment `MinerEnv`: the shutdown flag, the
templates, the coinbase rewrite of `IncrementExtraNonce`, `CheckProofOfWork` and
`ProcessNewBlock`. Its answers are indexed by the pass of the outer loop, so a theorem over all
environments is a theorem over every sequence of answers. The outer loop is not structurally
bounded (a template whose nonce starts at `0x10000` makes it spin), so `generateLoop` takes fuel,
and a state whose `status` is still `running` is one the fuel did not let finish. The ghost field
`trace` records every `CheckProofOfWork` evaluation and every block handed to `ProcessNewBlock`.

* `scanNonces_spec`: what the nonce scan returns, for every budget.
* `generateLoop_submitSafe`: every submitted block has a nonce below `0x10000` and passes the
  proof-of-work check, and the failed checks are exactly the tries spent.
* `generateLoop_returns`: under a cooperative environment, enough fuel ends the loop with one hash
  per missing height, unless the tries ran out first.
* `generateBlocks_height_overflow`: `nHeightEnd = nHeight + nGenerate` is an `int` sum, and one
  that wraps ends the call at once with no block and the budget untouched.
-/

namespace VelesMining

/-- `nInnerLoopCount`: the nonces scanned per template. -/
def nInnerLoopCount : BitVec 32 := 0x10000

/-- What the miner does that a theorem can observe: a proof-of-work check of a header and its
outcome, and a block handed to `ProcessNewBlock`. -/
inductive MinerEvent where
  | checkProofOfWork (header : CBlockHeader) (ok : Bool)
  | processNewBlock (block : CBlock)
  deriving DecidableEq, Repr

/-- A `CheckProofOfWork` evaluation that returned false. -/
def MinerEvent.isFailedCheck : MinerEvent → Bool
  | .checkProofOfWork _ ok => !ok
  | .processNewBlock _ => false

/-- The node as `generateBlocks` sees it. Answers that may change between passes of the outer
loop take the pass number. `IncrementExtraNonce` (`miner.cpp`) rewrites the coinbase and the
Merkle root; `coinbaseWithExtraNonce` is the coinbase it writes, `hashPrevBlock` the value its
function-static `hashPrevBlock` holds when the call starts. `CheckProofOfWork` (`pow.cpp`) reads
the consensus parameters, which do not change during a call. -/
structure MinerEnv where
  ShutdownRequested : Nat → Bool
  CreateNewBlock : Nat → Option CBlock
  coinbaseWithExtraNonce : Nat → CTransaction → BitVec 32 → CTransaction
  BlockMerkleRoot : List CTransaction → Uint256
  hashPrevBlock : Uint256
  CheckProofOfWork : Uint256 → BitVec 32 → Bool
  ProcessNewBlock : Nat → CBlock → Bool

variable (K : AlgoConstants) (H : PowHashes) (E : MinerEnv)

/-- Modelled from the spec: step 2 of the generator increments the coinbase extra nonce.
`IncrementExtraNonce(pblock, pindexPrev, nExtraNonce)` restarts the count when the template builds
on another block than the last call saw, rewrites the coinbase with the new count and recomputes
the Merkle root; no other header field changes. Returns the block, `nExtraNonce` and the new value
of the static `hashPrevBlock`. -/
def IncrementExtraNonce (k : Nat) (b : CBlock) (nExtraNonce : BitVec 32)
    (hashPrevBlock : Uint256) : CBlock × BitVec 32 × Uint256 :=
  let n := (if hashPrevBlock ≠ b.hashPrevBlock then 0 else nExtraNonce) + 1
  let vtx := match b.vtx with
    | cb :: rest => E.coinbaseWithExtraNonce k cb n :: rest
    | [] => []
  ({ b with vtx := vtx, hashMerkleRoot := E.BlockMerkleRoot vtx }, n, b.hashPrevBlock)

@[simp] theorem IncrementExtraNonce_nNonce (k : Nat) (b : CBlock) (n : BitVec 32) (h : Uint256) :
    (IncrementExtraNonce E k b n h).1.nNonce = b.nNonce := rfl

/-- The nonce scan,
`while (nMaxTries > 0 && pblock->nNonce < nInnerLoopCount &&`
`       !CheckProofOfWork(pblock->GetPoWHash(), pblock->nBits, …)) { ++pblock->nNonce; --nMaxTries; }`,
returning the block, the remaining tries and the checks it made. The first conjunct makes it a
recursion on `nMaxTries`. -/
def scanNonces : CBlock → Nat → CBlock × Nat × List MinerEvent
  | b, 0 => (b, 0, [])
  | b, n + 1 =>
    if b.nNonce < nInnerLoopCount then
      if E.CheckProofOfWork (b.GetPoWHash K H) b.nBits then
        (b, n + 1, [.checkProofOfWork b.toCBlockHeader true])
      else
        let r := scanNonces { b with nNonce := b.nNonce + 1 } n
        (r.1, r.2.1, .checkProofOfWork b.toCBlockHeader false :: r.2.2)
    else (b, n + 1, [])

/-- How a call of `generateBlocks` stands: still looping, returned, or thrown. -/
inductive GenStatus where
  | running
  | returned
  | threw (e : JSONRPCError)
  deriving DecidableEq, Repr

/-- The locals of `generateBlocks`, the static of `IncrementExtraNonce`, whether the coinbase
script was kept, and the ghost trace. -/
structure GenState where
  nHeight : BitVec 32
  nMaxTries : Nat
  nExtraNonce : BitVec 32
  hashPrevBlock : Uint256
  blockHashes : List String
  keptScript : Bool
  trace : List MinerEvent
  status : GenStatus
  deriving DecidableEq, Repr

/-- The state when the outer loop starts: `nExtraNonce = 0`, no hash yet. -/
def GenState.init (nHeight : BitVec 32) (nMaxTries : Nat) (hashPrevBlock : Uint256) : GenState :=
  { nHeight := nHeight
    nMaxTries := nMaxTries
    nExtraNonce := 0
    hashPrevBlock := hashPrevBlock
    blockHashes := []
    keptScript := false
    trace := []
    status := .running }

/-- The outcome of one pass of the outer loop: go round again, or leave the loop. -/
inductive LoopCtl where
  | next (s : GenState)
  | done (s : GenState)

/-- The tail of a pass, after the scan: `break` when the tries are spent, `continue` when the
nonce range is, and otherwise submit the block, count it and record its hash. -/
def afterScan (keepScript : Bool) (k : Nat) (s : GenState) (b : CBlock) : LoopCtl :=
  if s.nMaxTries = 0 then .done { s with status := .returned }
  else if b.nNonce = nInnerLoopCount then .next s
  else if E.ProcessNewBlock k b then
    .next { s with
      nHeight := s.nHeight + 1
      blockHashes := s.blockHashes ++ [GetHex (H.GetHash b.toCBlockHeader)]
      keptScript := s.keptScript || keepScript
      trace := s.trace ++ [.processNewBlock b] }
  else
    .done { s with
      trace := s.trace ++ [.processNewBlock b]
      status := .threw ⟨.RPC_INTERNAL_ERROR, "ProcessNewBlock, block not accepted"⟩ }

/-- One pass of the outer loop, entered with its condition true. -/
def generateIteration (keepScript : Bool) (k : Nat) (s : GenState) : LoopCtl :=
  match E.CreateNewBlock k with
  | none => .done { s with status := .threw ⟨.RPC_INTERNAL_ERROR, "Couldn't create new block"⟩ }
  | some tmpl =>
    let x := IncrementExtraNonce E k tmpl s.nExtraNonce s.hashPrevBlock
    let r := scanNonces K H E x.1 s.nMaxTries
    afterScan H E keepScript k
      { s with
        nExtraNonce := x.2.1
        hashPrevBlock := x.2.2
        nMaxTries := r.2.1
        trace := s.trace ++ r.2.2 } r.1

/-- `while (nHeight < nHeightEnd && !ShutdownRequested())`, pass `k` onwards, with `fuel` passes
left. -/
def generateLoop (nHeightEnd : BitVec 32) (keepScript : Bool) : Nat → Nat → GenState → GenState
  | 0, _, s => s
  | fuel + 1, k, s =>
    if s.nHeight.toInt < nHeightEnd.toInt ∧ E.ShutdownRequested k = false then
      match generateIteration K H E keepScript k s with
      | .next s' => generateLoop nHeightEnd keepScript fuel (k + 1) s'
      | .done s' => s'
    else { s with status := .returned }

/-- `generateBlocks(coinbaseScript, nGenerate, nMaxTries, keepScript)`, run for `fuel` passes.
`nHeightEnd = nHeight + nGenerate` is an `int` sum. -/
def generateBlocks (chain : CChain) (nGenerate : BitVec 32) (nMaxTries : Nat) (keepScript : Bool)
    (fuel : Nat) : GenState :=
  generateLoop K H E (chain.Height + nGenerate) keepScript fuel 0
    (GenState.init chain.Height nMaxTries E.hashPrevBlock)

/-- The `maxtries` of `generatetoaddress`: `1000000` by default, and a given one an `int` converted
to `uint64_t`. -/
def maxTriesParam : UniValue → Except JSONRPCError Nat
  | .null => .ok 1000000
  | v => (fun m : BitVec 32 => (m.toInt % 2 ^ 64).toNat) <$> v.get_int

/-- `generatetoaddress(nblocks, address, maxtries)`, reading its parameters in the code's order;
`IsValidDestination` is whether the address decodes to a destination. -/
def generatetoaddress (chain : CChain) (IsValidDestination : String → Bool)
    (nblocks address maxtries : UniValue) (fuel : Nat) : Except JSONRPCError GenState := do
  let nGenerate ← nblocks.get_int
  let nMaxTries ← maxTriesParam maxtries
  let destination ← address.get_str
  if IsValidDestination destination then
    pure (generateBlocks K H E chain nGenerate nMaxTries false fuel)
  else throw ⟨.RPC_INVALID_ADDRESS_OR_KEY, "Error: Invalid address"⟩

/-! ### The nonce scan -/

theorem scanNonces_spec (b : CBlock) (t : Nat) (hb : b.nNonce.toNat ≤ 0x10000) :
    ∃ i ev, i ≤ t ∧ b.nNonce.toNat + i ≤ 0x10000 ∧
      scanNonces K H E b t = ({ b with nNonce := b.nNonce + BitVec.ofNat 32 i }, t - i, ev) ∧
      ev.countP MinerEvent.isFailedCheck = i ∧ (∀ x, .processNewBlock x ∉ ev) ∧
      (t - i = 0 ∨ b.nNonce.toNat + i = 0x10000 ∨
        E.CheckProofOfWork
          (CBlockHeader.GetPoWHash K H { b with nNonce := b.nNonce + BitVec.ofNat 32 i }.toCBlockHeader)
          b.nBits = true) := by
  induction t generalizing b with
  | zero => exact ⟨0, [], le_rfl, by omega, by cases b; simp [scanNonces], rfl, by simp, by simp⟩
  | succ n ih =>
    by_cases hlt : b.nNonce < nInnerLoopCount
    · have hlt' : b.nNonce.toNat < 0x10000 := hlt
      by_cases hok : E.CheckProofOfWork (b.GetPoWHash K H) b.nBits = true
      · -- the check passes at once
        refine ⟨0, [.checkProofOfWork b.toCBlockHeader true], by omega, by omega, ?_, rfl,
          by simp, .inr (.inr ?_)⟩
        · cases b; simp [scanNonces, hlt, hok]
        · cases b; simpa using hok
      · -- one failed check, then the scan from the next nonce
        have hb' : (b.nNonce + 1).toNat = b.nNonce.toNat + 1 := by
          rw [BitVec.toNat_add]; simp; omega
        obtain ⟨i, ev, hi, hib, hscan, hcount, hnp, hexit⟩ :=
          ih { b with nNonce := b.nNonce + 1 } (by simp [hb']; omega)
        have hnonce : b.nNonce + 1 + BitVec.ofNat 32 i = b.nNonce + BitVec.ofNat 32 (i + 1) := by
          rw [BitVec.add_assoc]; congr 1; apply BitVec.eq_of_toNat_eq; simp; omega
        refine ⟨i + 1, .checkProofOfWork b.toCBlockHeader false :: ev, by omega,
          by simp [hb'] at hib; omega, ?_, ?_, ?_, ?_⟩
        · simp only [scanNonces, if_pos hlt, hok, Bool.false_eq_true, if_false, hscan, hnonce]
          simp
        · simp [MinerEvent.isFailedCheck, hcount]
        · simpa using hnp
        · simp only [hb', hnonce] at hexit
          exact hexit.imp (fun _ => by omega) (Or.imp_left fun _ => by omega)
    · -- the nonce range is spent
      have hge : b.nNonce.toNat = 0x10000 := by
        have : ¬ b.nNonce.toNat < 0x10000 := hlt
        omega
      exact ⟨0, [], by omega, by omega, by cases b; simp [scanNonces, hlt], rfl, by simp,
        .inr (.inl (by omega))⟩

/-! ### Invariants of the outer loop -/

/-- The state a pass leaves, whether the loop goes on or not. -/
@[simp] def LoopCtl.state : LoopCtl → GenState
  | .next s => s
  | .done s => s

/-- A pass that goes on keeps `P`; a pass that leaves the loop leaves it in a state with `Q`. -/
def LoopCtl.Preserves (P Q : GenState → Prop) : LoopCtl → Prop
  | .next s => P s
  | .done s => Q s

theorem LoopCtl.preserves_of_state {P : GenState → Prop} {c : LoopCtl} (h : P c.state) :
    c.Preserves P P := by
  cases c <;> exact h

theorem generateLoop_invariant (nHeightEnd : BitVec 32) (keepScript : Bool)
    (P Q : GenState → Prop) (hfuel : ∀ s, P s → Q s)
    (hret : ∀ s, P s → Q { s with status := .returned })
    (hpass : ∀ k s, P s → (generateIteration K H E keepScript k s).Preserves P Q) :
    ∀ fuel k s, P s → Q (generateLoop K H E nHeightEnd keepScript fuel k s) := by
  intro fuel
  induction fuel with
  | zero => exact fun _ s hs => hfuel s hs
  | succ f ih =>
    intro k s hs
    rw [generateLoop]
    split
    · have hp := hpass k s hs
      cases h : generateIteration K H E keepScript k s with
      | next s' => rw [h] at hp; exact ih (k + 1) s' hp
      | done s' => rw [h] at hp; exact hp
    · exact hret s hs

/-! ### Every submitted block is valid -/

/-- The accounting of a run from the budget `nMaxTries0`: the failed checks are the tries spent,
and every block handed to `ProcessNewBlock` has a nonce below `nInnerLoopCount` and passes the
proof-of-work check. -/
def SubmitSafe (nMaxTries0 : Nat) (s : GenState) : Prop :=
  s.trace.countP MinerEvent.isFailedCheck + s.nMaxTries = nMaxTries0 ∧
    ∀ b, .processNewBlock b ∈ s.trace →
      b.nNonce < nInnerLoopCount ∧ E.CheckProofOfWork (b.GetPoWHash K H) b.nBits = true

theorem afterScan_submitSafe (keepScript : Bool) (k : Nat) (s : GenState) (b : CBlock) {T : Nat}
    (hs : SubmitSafe K H E T s)
    (hb : s.nMaxTries ≠ 0 → b.nNonce ≠ nInnerLoopCount →
      b.nNonce < nInnerLoopCount ∧ E.CheckProofOfWork (b.GetPoWHash K H) b.nBits = true) :
    SubmitSafe K H E T (afterScan H E keepScript k s b).state := by
  -- appending a submission adds no failed check and one valid block
  have hsub : SubmitSafe K H E T { s with trace := s.trace ++ [.processNewBlock b] } ∨
      s.nMaxTries = 0 ∨ b.nNonce = nInnerLoopCount := by
    by_cases h0 : s.nMaxTries = 0
    · exact .inr (.inl h0)
    by_cases hn : b.nNonce = nInnerLoopCount
    · exact .inr (.inr hn)
    refine .inl ⟨by simpa [MinerEvent.isFailedCheck] using hs.1, fun x hx => ?_⟩
    rcases List.mem_append.mp hx with hx | hx
    · exact hs.2 x hx
    · simp only [List.mem_singleton, MinerEvent.processNewBlock.injEq] at hx
      exact hx ▸ hb h0 hn
  unfold afterScan
  split_ifs with h0 hn hp
  · exact hs
  · exact hs
  · rcases hsub with h | h | h
    · exact h
    · exact absurd h h0
    · exact absurd h hn
  · rcases hsub with h | h | h
    · exact h
    · exact absurd h h0
    · exact absurd h hn

theorem generateIteration_submitSafe (keepScript : Bool) (k : Nat) (s : GenState) {T : Nat}
    (htmpl : ∀ b, E.CreateNewBlock k = some b → b.nNonce = 0) (hs : SubmitSafe K H E T s) :
    SubmitSafe K H E T (generateIteration K H E keepScript k s).state := by
  unfold generateIteration
  split
  · exact hs
  · rename_i tmpl htm
    dsimp only
    set x := IncrementExtraNonce E k tmpl s.nExtraNonce s.hashPrevBlock
    have hx : x.1.nNonce.toNat = 0 := by simp [x, htmpl tmpl htm]
    obtain ⟨i, ev, hi, hib, hscan, hcount, hnp, hexit⟩ :=
      scanNonces_spec K H E x.1 s.nMaxTries (by omega)
    rw [hscan]
    apply afterScan_submitSafe
    · refine ⟨?_, fun b hb => ?_⟩
      · simp only [List.countP_append, hcount]
        have := hs.1
        omega
      · rcases List.mem_append.mp hb with hb | hb
        · exact hs.2 b hb
        · exact absurd hb (hnp b)
    · -- the scan left nonce `i`: below the end of the range, so the check passed
      intro h0 hn
      dsimp only at h0 hn ⊢
      have hval : (x.1.nNonce + BitVec.ofNat 32 i).toNat = i := by
        rw [BitVec.toNat_add, hx]; simp; omega
      have hi' : i < 0x10000 := by
        by_contra h
        exact hn (BitVec.eq_of_toNat_eq (by rw [hval]; simp [nInnerLoopCount]; omega))
      refine ⟨show (x.1.nNonce + BitVec.ofNat 32 i).toNat < 0x10000 by omega, ?_⟩
      rcases hexit with h | h | h
      · exact absurd h h0
      · omega
      · exact h

theorem generateLoop_submitSafe (nHeightEnd : BitVec 32) (keepScript : Bool) {T : Nat}
    (htmpl : ∀ k b, E.CreateNewBlock k = some b → b.nNonce = 0) :
    ∀ fuel k s, SubmitSafe K H E T s →
      SubmitSafe K H E T (generateLoop K H E nHeightEnd keepScript fuel k s) :=
  generateLoop_invariant K H E nHeightEnd keepScript _ _ (fun _ hs => hs) (fun _ hs => hs)
    fun k s hs =>
      LoopCtl.preserves_of_state (generateIteration_submitSafe K H E keepScript k s (htmpl k) hs)

/-- Every block `generateBlocks` hands to `ProcessNewBlock` has a nonce below `0x10000` and
passes `CheckProofOfWork` with its own proof-of-work hash, and the checks that failed never
outnumber the tries it was given. -/
theorem generateBlocks_submits_valid
    (htmpl : ∀ k b, E.CreateNewBlock k = some b → b.nNonce = 0) (chain : CChain)
    (nGenerate : BitVec 32) (nMaxTries : Nat) (keepScript : Bool) (fuel : Nat) :
    (∀ b, .processNewBlock b ∈ (generateBlocks K H E chain nGenerate nMaxTries keepScript fuel).trace →
      b.nNonce < nInnerLoopCount ∧ E.CheckProofOfWork (b.GetPoWHash K H) b.nBits = true) ∧
    (generateBlocks K H E chain nGenerate nMaxTries keepScript fuel).trace.countP
      MinerEvent.isFailedCheck ≤ nMaxTries := by
  have h : SubmitSafe K H E nMaxTries (generateBlocks K H E chain nGenerate nMaxTries keepScript fuel) :=
    generateLoop_submitSafe K H E _ keepScript htmpl fuel 0 _ ⟨by simp [GenState.init], by simp [GenState.init]⟩
  exact ⟨h.2, by have := h.1; omega⟩

/-- A node that never shuts down, serves an empty SHA256D template with nonce `0`, accepts every
block, and whose proof-of-work check passes for hashes `2 mod 3`. -/
def sampleMinerEnv : MinerEnv where
  ShutdownRequested _ := false
  CreateNewBlock _ := some ⟨⟨sampleAlgoConstants.VERSIONBITS_TOP_BITS, 0, 0, 0, 0, 0⟩, []⟩
  coinbaseWithExtraNonce _ cb _ := cb
  BlockMerkleRoot _ := 0
  hashPrevBlock := 0
  CheckProofOfWork hash _ := hash.toNat % 3 = 2
  ProcessNewBlock _ _ := true

/-- The one-block chain of a SHA256D genesis. -/
def genesisChain : CChain := ⟨[⟨0, 0, sampleAlgoConstants.ALGO_SHA256D, 0, 0, 0, 0, 0⟩]⟩

theorem generateBlocks_submits_valid_sampleMinerEnv :
    (∀ k b, sampleMinerEnv.CreateNewBlock k = some b → b.nNonce = 0) ∧
    (∀ b, .processNewBlock b ∈ (generateBlocks sampleAlgoConstants samplePowHashes sampleMinerEnv
        genesisChain 3 10 false 5).trace →
      b.nNonce < nInnerLoopCount ∧
        sampleMinerEnv.CheckProofOfWork (b.GetPoWHash sampleAlgoConstants samplePowHashes)
          b.nBits = true) ∧
    (generateBlocks sampleAlgoConstants samplePowHashes sampleMinerEnv genesisChain 3 10 false
      5).trace.countP MinerEvent.isFailedCheck ≤ 10 := by
  have htmpl : ∀ k b, sampleMinerEnv.CreateNewBlock k = some b → b.nNonce = 0 := by
    rintro k b ⟨⟩
    rfl
  exact ⟨htmpl, generateBlocks_submits_valid sampleAlgoConstants samplePowHashes sampleMinerEnv
    htmpl genesisChain 3 10 false 5⟩

/-! ### The kept coinbase script -/

/- A node that accepts the first block and rejects the second: the call throws, and the script
is kept for the first block. -/
example : (generateBlocks sampleAlgoConstants samplePowHashes
      { sampleMinerEnv with ProcessNewBlock := fun k _ => k = 0 } genesisChain 3 10 true 5).status =
        .threw ⟨.RPC_INTERNAL_ERROR, "ProcessNewBlock, block not accepted"⟩ ∧
    (generateBlocks sampleAlgoConstants samplePowHashes
      { sampleMinerEnv with ProcessNewBlock := fun k _ => k = 0 } genesisChain 3 10 true
        5).keptScript = true := by
  decide

/-! ### The count of blocks -/

theorem generateIteration_progress (keepScript : Bool) (k : Nat) (s : GenState) (tmpl : CBlock)
    (htm : E.CreateNewBlock k = some tmpl) (hn0 : tmpl.nNonce = 0)
    (hpnb : ∀ b, E.ProcessNewBlock k b = true) :
    (∃ s', generateIteration K H E keepScript k s = .done s' ∧ s'.status = .returned ∧
      s'.nMaxTries = 0 ∧ s'.blockHashes = s.blockHashes) ∨
    (∃ s', generateIteration K H E keepScript k s = .next s' ∧ s'.nHeight = s.nHeight ∧
      s'.blockHashes = s.blockHashes ∧ 0x10000 ≤ s.nMaxTries ∧
      s'.nMaxTries = s.nMaxTries - 0x10000) ∨
    (∃ s' h, generateIteration K H E keepScript k s = .next s' ∧ s'.nHeight = s.nHeight + 1 ∧
      s'.blockHashes = s.blockHashes ++ [h] ∧ s'.nMaxTries ≤ s.nMaxTries) := by
  unfold generateIteration
  rw [htm]
  dsimp only
  set x := IncrementExtraNonce E k tmpl s.nExtraNonce s.hashPrevBlock
  have hx : x.1.nNonce.toNat = 0 := by simp [x, hn0]
  obtain ⟨i, ev, hi, hib, hscan, -, -, -⟩ := scanNonces_spec K H E x.1 s.nMaxTries (by omega)
  rw [hscan]
  unfold afterScan
  dsimp only
  split_ifs with h0 hn hp
  · exact .inl ⟨_, rfl, rfl, h0, rfl⟩
  · -- the whole range was scanned
    have hi : i = 0x10000 := by
      have := congrArg BitVec.toNat hn
      rw [BitVec.toNat_add, hx] at this
      simp [nInnerLoopCount] at this
      omega
    exact .inr (.inl ⟨_, rfl, rfl, rfl, by omega, by dsimp only; omega⟩)
  · exact .inr (.inr ⟨_, _, rfl, rfl, rfl, by dsimp only; omega⟩)
  · exact absurd (hpnb _) hp

theorem generateLoop_returns (hshut : ∀ k, E.ShutdownRequested k = false)
    (htmpl : ∀ k, ∃ b, E.CreateNewBlock k = some b ∧ b.nNonce = 0)
    (hpnb : ∀ k b, E.ProcessNewBlock k b = true) (nHeightEnd : BitVec 32) (keepScript : Bool) :
    ∀ fuel k s, (nHeightEnd.toInt - s.nHeight.toInt).toNat + s.nMaxTries / 0x10000 < fuel →
      (generateLoop K H E nHeightEnd keepScript fuel k s).status = .returned ∧
      ∃ hs, (generateLoop K H E nHeightEnd keepScript fuel k s).blockHashes = s.blockHashes ++ hs ∧
        (hs.length = (nHeightEnd.toInt - s.nHeight.toInt).toNat ∨
          (hs.length < (nHeightEnd.toInt - s.nHeight.toInt).toNat ∧
            (generateLoop K H E nHeightEnd keepScript fuel k s).nMaxTries = 0)) := by
  intro fuel
  induction fuel with
  | zero => intro k s h; omega
  | succ f ih =>
    intro k s hf
    by_cases hc : s.nHeight.toInt < nHeightEnd.toInt
    · rw [generateLoop, if_pos ⟨hc, hshut k⟩]
      obtain ⟨tmpl, htm, hn0⟩ := htmpl k
      rcases generateIteration_progress K H E keepScript k s tmpl htm hn0 (hpnb k) with
        ⟨s', h, hst, hT, hB⟩ | ⟨s', h, hH, hB, hle, hT⟩ | ⟨s', hh, h, hH, hB, hT⟩
      · -- the tries ran out
        rw [h]
        exact ⟨hst, [], by simp [hB], .inr ⟨by simp; omega, hT⟩⟩
      · -- a spent nonce range: same height, one range less of budget
        rw [h]
        obtain ⟨hret, hs, hbh, hlen⟩ := ih (k + 1) s' (by rw [hH, hT]; omega)
        exact ⟨hret, hs, by rw [hbh, hB], by rwa [hH] at hlen⟩
      · -- a block: one height less to go
        rw [h]
        have hH' : s'.nHeight.toInt = s.nHeight.toInt + 1 := by
          have h1 : (1 : BitVec 32).toInt = 1 := by decide
          have := toInt_lt_two_pow nHeightEnd
          have := neg_two_pow_le_toInt s.nHeight
          rw [hH, toInt_add_of_range _ _ (by omega) (by omega), h1]
        obtain ⟨hret, hs, hbh, hlen⟩ := ih (k + 1) s' (by
          rw [hH']
          have := Nat.div_le_div_right (c := 0x10000) hT
          omega)
        refine ⟨hret, hh :: hs, by rw [hbh, hB]; simp, ?_⟩
        rw [hH'] at hlen
        simp only [List.length_cons]
        omega
    · rw [generateLoop, if_neg (fun h => hc h.1)]
      exact ⟨rfl, [], by simp, .inl (by simp; omega)⟩

/-- When `nHeight + nGenerate` does not overflow, `generateBlocks` in a cooperative environment
returns once given enough passes, with `max nGenerate 0` hashes, or fewer when the tries are
spent. -/
theorem generateBlocks_returns (hshut : ∀ k, E.ShutdownRequested k = false)
    (htmpl : ∀ k, ∃ b, E.CreateNewBlock k = some b ∧ b.nNonce = 0)
    (hpnb : ∀ k b, E.ProcessNewBlock k b = true) (chain : CChain) (nGenerate : BitVec 32)
    (nMaxTries : Nat) (keepScript : Bool) (fuel : Nat) (hh : 0 ≤ chain.Height.toInt)
    (hfit : chain.Height.toInt + nGenerate.toInt < 2 ^ 31)
    (hfuel : nGenerate.toInt.toNat + nMaxTries / 0x10000 < fuel) :
    (generateBlocks K H E chain nGenerate nMaxTries keepScript fuel).status = .returned ∧
    ((((generateBlocks K H E chain nGenerate nMaxTries keepScript fuel).blockHashes.length : Int) =
        max nGenerate.toInt 0) ∨
      ((generateBlocks K H E chain nGenerate nMaxTries keepScript fuel).blockHashes.length <
          max nGenerate.toInt 0 ∧
        (generateBlocks K H E chain nGenerate nMaxTries keepScript fuel).nMaxTries = 0)) := by
  have hend : (chain.Height + nGenerate).toInt = chain.Height.toInt + nGenerate.toInt :=
    toInt_add_of_range _ _ (by have := neg_two_pow_le_toInt nGenerate; omega) hfit
  obtain ⟨hret, hs, hbh, hlen⟩ :=
    generateLoop_returns K H E hshut htmpl hpnb (chain.Height + nGenerate) keepScript fuel 0
      (GenState.init chain.Height nMaxTries E.hashPrevBlock) (by simp only [GenState.init, hend]; omega)
  unfold generateBlocks
  refine ⟨hret, ?_⟩
  rw [hbh]
  simp only [GenState.init, hend, List.nil_append] at hlen ⊢
  omega

theorem generateBlocks_returns_genesisChain :
    (∀ k, sampleMinerEnv.ShutdownRequested k = false) ∧
    (∀ k, ∃ b, sampleMinerEnv.CreateNewBlock k = some b ∧ b.nNonce = 0) ∧
    (∀ k b, sampleMinerEnv.ProcessNewBlock k b = true) ∧ 0 ≤ genesisChain.Height.toInt ∧
    genesisChain.Height.toInt + (3 : BitVec 32).toInt < 2 ^ 31 ∧
    (3 : BitVec 32).toInt.toNat + 10 / 0x10000 < 5 ∧
    (generateBlocks sampleAlgoConstants samplePowHashes sampleMinerEnv genesisChain 3 10 false
        5).status = .returned ∧
    ((((generateBlocks sampleAlgoConstants samplePowHashes sampleMinerEnv genesisChain 3 10 false
        5).blockHashes.length : Int) = max (3 : BitVec 32).toInt 0) ∨
      ((generateBlocks sampleAlgoConstants samplePowHashes sampleMinerEnv genesisChain 3 10 false
          5).blockHashes.length < max (3 : BitVec 32).toInt 0 ∧
        (generateBlocks sampleAlgoConstants samplePowHashes sampleMinerEnv genesisChain 3 10 false
          5).nMaxTries = 0)) :=
  ⟨fun _ => rfl, fun _ => ⟨_, rfl, rfl⟩, fun _ _ => rfl, by decide, by decide, by decide,
    generateBlocks_returns sampleAlgoConstants samplePowHashes sampleMinerEnv (fun _ => rfl)
      (fun _ => ⟨_, rfl, rfl⟩) (fun _ _ => rfl) genesisChain 3 10 false 5 (by decide) (by decide)
      (by decide)⟩

/-- `nHeightEnd = nHeight + nGenerate` wraps: on a chain of height `1`, asking for `INT_MAX`
blocks returns at once, with no block and the default budget of `1000000` tries untouched. -/
theorem generateBlocks_height_overflow (e1 e0 : CBlockIndex) (keepScript : Bool) (fuel : Nat) :
    generateBlocks K H E ⟨[e1, e0]⟩ (BitVec.ofInt 32 2147483647) 1000000 keepScript (fuel + 1) =
      { GenState.init 1 1000000 E.hashPrevBlock with status := .returned } := by
  have hH : CChain.Height ⟨[e1, e0]⟩ = 1 := rfl
  have hwrap : ¬ (1 : BitVec 32).toInt < ((1 : BitVec 32) + BitVec.ofInt 32 2147483647).toInt := by
    decide
  rw [generateBlocks, hH, generateLoop, if_neg (fun h => hwrap h.1)]

end VelesMining
