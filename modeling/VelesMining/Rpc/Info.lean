import VelesMining.Rpc.NetworkHashPS
import VelesMining.Rpc.MiningStats
import VelesMining.Rpc.Request

/-!
# The mining information RPCs

`getnetworkhashps`, `getmininginfo`, `getmultialgoinfo` and `getminingstats` report, per
proof-of-work algorithm, the functions of `NetworkHashPS` and `MiningStats`. A floating-point
field is kept as what it is computed from: the entry whose `GetDifficulty` is reported, the two
operands of the hash-rate quotient, and a subsidy in satoshis where `ValueFromAmount` formats it.

`getmininginfo` and `getblocktemplate` refuse an unknown algorithm name (`requestedAlgo`), while
`getnetworkhashps` looks the name up the same way without that check and estimates the rate of
`ALGO_NULL`: no block has that algorithm, so its work difference is `0` and, with a positive
difficulty interval, an unknown name reads as a hash rate of zero
(`getnetworkhashps_unknown_algo`). `getminingstats` reports, for each
algorithm, the count and the integer mean subsidy of its blocks in windows of a day and a week of
target spacings (`getminingstats_eq`).
-/

namespace VelesMining

/-- What the information RPCs read of the node besides the active chain: the algorithm table,
the consensus `DifficultyAdjustmentInterval()` and `nPowTargetSpacing`, the subsidy of a block,
the assembler's figures for its last block, the mempool size, the network name and the
warnings. -/
structure NodeInfo where
  algos : AlgoTable
  DifficultyAdjustmentInterval : Int
  nPowTargetSpacing : Int
  GetBlockSubsidy : CBlockIndex → Int
  m_last_block_weight : Option Nat
  m_last_block_num_txs : Option Nat
  mempoolSize : Nat
  NetworkIDString : String
  warnings : String

variable (K : AlgoConstants)

/-! ### `getnetworkhashps` -/

/-- An `int` parameter: `get_int`, or `default` when it is null. -/
def intParam (default : BitVec 32) : UniValue → Except JSONRPCError (BitVec 32)
  | .null => .ok default
  | v => v.get_int

/-- `getnetworkhashps(nblocks, height, algorithm)`: `nblocks` defaults to `120`, `height` to
`-1`, and the algorithm is looked up with no `ALGO_NULL` check. (The C++ evaluates the three
arguments in an unspecified order; the model reads them left to right.) -/
def getnetworkhashps (info : NodeInfo) (chain : CChain) (nblocks height algorithm : UniValue) :
    Except JSONRPCError (Option NetworkHashPS) := do
  let lookup ← intParam 120 nblocks
  let height ← intParam (-1) height
  let nAlgo ← algoParam info.algos algorithm
  pure (GetNetworkHashPS K info.DifficultyAdjustmentInterval chain lookup height nAlgo)

/-! ### `getmininginfo` -/

/-- The answer of `getmininginfo`; `difficulty` is the entry `GetDifficulty` reads. -/
structure MiningInfo where
  blocks : BitVec 32
  currentblockweight : Option Nat
  currentblocktx : Option Nat
  difficulty : BlockPtr
  algo : String
  networkhashps : Option NetworkHashPS
  pooledtx : Nat
  chain : String
  warnings : String

/-- `getmininginfo(algo)`, for the algorithm the request asks for. -/
def getmininginfo (info : NodeInfo) (chain : CChain) (algo : UniValue) :
    Except JSONRPCError MiningInfo := do
  let nPowAlgo ← requestedAlgo info.algos algo
  pure
    { blocks := chain.Height
      currentblockweight := info.m_last_block_weight
      currentblocktx := info.m_last_block_num_txs
      difficulty := GetLastAlgoBlock K chain nPowAlgo
      algo := info.algos.GetAlgoName nPowAlgo
      networkhashps := GetNetworkHashPS K info.DifficultyAdjustmentInterval chain 120 (-1) nPowAlgo
      pooledtx := info.mempoolSize
      chain := info.NetworkIDString
      warnings := info.warnings }

/-! ### `getmultialgoinfo` and `getminingstats` -/

/-- The algorithms `getmultialgoinfo` and `getminingstats` list, in their order. -/
def listedAlgos : List (BitVec 32) :=
  [K.ALGO_SHA256D, K.ALGO_SCRYPT, K.ALGO_LYRA2Z, K.ALGO_X11, K.ALGO_X16R, K.ALGO_NIST5]

/-- One object of `getmultialgoinfo`; `difficulty` is the entry `GetDifficulty` reads. -/
structure AlgoInfo where
  algo : String
  difficulty : BlockPtr
  hashrate : Option NetworkHashPS
  last_block_index : Option (BitVec 32)

/-- `getmultialgoinfo()`. -/
def getmultialgoinfo (info : NodeInfo) (chain : CChain) : List AlgoInfo :=
  (listedAlgos K).map fun a =>
    { algo := info.algos.GetAlgoName a
      difficulty := GetLastAlgoBlock K chain a
      hashrate := GetNetworkHashPS K info.DifficultyAdjustmentInterval chain 120 (-1) a
      last_block_index := (GetLastAlgoBlock K chain a).head?.map (·.nHeight) }

/-- One object of `getminingstats`, with the rewards in satoshis. -/
structure AlgoStats where
  algo : String
  last_block_reward : Option Int
  avg_block_reward_24h : Int
  avg_block_reward_7d : Int
  total_blocks_24h : Int
  total_blocks_7d : Int
  deriving DecidableEq, Repr

/-- The mean reward of a window: the rewards over the count in `CAmount` division, or `0` for an
empty window. -/
def avgBlockReward (rewards count : Int) : Int := if count > 0 then rewards.tdiv count else 0

/-- The window lengths of `getminingstats`: the target spacings in a day and in a week, in `int`. -/
def statsWindows (info : NodeInfo) : BitVec 32 × BitVec 32 :=
  (BitVec.ofInt 32 ((24 * 3600 : Int).tdiv info.nPowTargetSpacing),
    BitVec.ofInt 32 ((7 * 24 * 3600 : Int).tdiv info.nPowTargetSpacing))

/-- `getminingstats()`; `none` for a zero target spacing, which the C++ divides by. -/
def getminingstats (info : NodeInfo) (chain : CChain) : Option (List AlgoStats) :=
  if info.nPowTargetSpacing = 0 then none else
  let (nBlocksTotal24h, nBlocksTotal7d) := statsWindows info
  some ((listedAlgos K).map fun a =>
    let nAlgoBlocks24h := CountAlgoBlocks K chain a nBlocksTotal24h
    let nAlgoBlocks7d := CountAlgoBlocks K chain a nBlocksTotal7d
    { algo := info.algos.GetAlgoName a
      last_block_reward := (GetLastAlgoBlock K chain a).head?.map info.GetBlockSubsidy
      avg_block_reward_24h := avgBlockReward
        (CountAlgoBlockRewards K info.GetBlockSubsidy chain a nBlocksTotal24h) nAlgoBlocks24h
      avg_block_reward_7d := avgBlockReward
        (CountAlgoBlockRewards K info.GetBlockSubsidy chain a nBlocksTotal7d) nAlgoBlocks7d
      total_blocks_24h := nAlgoBlocks24h
      total_blocks_7d := nAlgoBlocks7d })

/-! ### An unknown algorithm name -/

/-- `getnetworkhashps` takes an unknown algorithm name for `ALGO_NULL`, which no block has (it
lies outside the algorithm field): with a positive `DifficultyAdjustmentInterval` the call
returns, both back-scans stop at genesis and the work difference is `0`, where `getmininginfo`
refuses the name. -/
theorem getnetworkhashps_unknown_algo (info : NodeInfo) (chain : CChain)
    (hwf : WellFormed chain.vChain) (hint : 0 < info.DifficultyAdjustmentInterval) (name : String)
    (hname : info.algos.GetAlgoId name = info.algos.ALGO_NULL)
    (hmask : ∀ v : BitVec 32, algoOf K v ≠ info.algos.ALGO_NULL) (nblocks height : UniValue)
    {r : Option NetworkHashPS}
    (h : getnetworkhashps K info chain nblocks height (.str name) = .ok r) :
    (r = some .zero ∨ ∃ timeDiff, r = some (.quotient 0 timeDiff)) ∧
      getmininginfo K info chain (.str name) =
        .error ⟨.RPC_INVALID_PARAMETER, "Unknown algorithm " ++ name⟩ := by
  refine ⟨?_, by rw [getmininginfo, requestedAlgo_unknown hname]; rfl⟩
  obtain ⟨lookup, -, h⟩ := bind_eq_ok h
  obtain ⟨nHeight, -, h⟩ := bind_eq_ok h
  obtain ⟨nAlgo, ha, h⟩ := bind_eq_ok h
  cases h
  cases ha
  rcases GetNetworkHashPS_run K _ chain lookup nHeight (info.algos.GetAlgoId name) hwf with
    ⟨h, -⟩ | ⟨-, -, h0⟩ | ⟨e, rest, e0, r0, mn, mx, -, -, hdrop, -, -, -, h⟩
  · exact .inl h
  · exact absurd h0 hint.ne'
  rw [h]
  split_ifs
  · exact .inl rfl
  -- no entry has `ALGO_NULL`, so both back-scans stop at the last entry
  have hnone : ∀ p : BlockPtr, ¬ ∃ x ∈ p, algoOf K x.nVersion = info.algos.GetAlgoId name :=
    fun _ ⟨x, _, hx⟩ => hmask x.nVersion (hname ▸ hx)
  have hlast : (e0 :: r0).getLast (List.cons_ne_nil _ _) =
      (e :: rest).getLast (List.cons_ne_nil _ _) := by
    simp only [← hdrop, List.getLast_drop]
  rw [scanBackToAlgo_eq K _ _ (List.cons_ne_nil _ _), if_neg (hnone _),
    scanBackToAlgo_eq K _ _ (List.cons_ne_nil _ _), if_neg (hnone _), hlast]
  exact .inr ⟨mx - mn, by simp [algoQuotient]⟩

/-- A node whose algorithm table maps every name but `sha256d` to `ALGO_NULL`, with a block
subsidy of 50 and a two-minute spacing. -/
def sampleNodeInfo : NodeInfo where
  algos := ⟨sampleAlgoConstants.ALGO_SHA256D, BitVec.allOnes 32,
    fun name => if name = "sha256d" then sampleAlgoConstants.ALGO_SHA256D else BitVec.allOnes 32,
    fun _ => "sha256d"⟩
  DifficultyAdjustmentInterval := 2016
  nPowTargetSpacing := 120
  GetBlockSubsidy := fun _ => 50
  m_last_block_weight := none
  m_last_block_num_txs := none
  mempoolSize := 0
  NetworkIDString := "main"
  warnings := ""

theorem algoOf_ne_allOnes (v : BitVec 32) : algoOf sampleAlgoConstants v ≠ BitVec.allOnes 32 := by
  intro h
  have := congrArg (fun x => x.getLsbD 0) h
  simp [algoOf, sampleAlgoConstants] at this

theorem getnetworkhashps_unknown_algo_threeBlockChain :
    WellFormed threeBlockChain.vChain ∧ 0 < sampleNodeInfo.DifficultyAdjustmentInterval ∧
      sampleNodeInfo.algos.GetAlgoId "x17" = sampleNodeInfo.algos.ALGO_NULL ∧
      ∃ r, getnetworkhashps sampleAlgoConstants sampleNodeInfo threeBlockChain .null .null
          (.str "x17") = .ok r ∧
        (r = some .zero ∨ ∃ timeDiff, r = some (.quotient 0 timeDiff)) ∧
        getmininginfo sampleAlgoConstants sampleNodeInfo threeBlockChain (.str "x17") =
          .error ⟨.RPC_INVALID_PARAMETER, "Unknown algorithm " ++ "x17"⟩ :=
  ⟨by decide, by decide, rfl, _, rfl,
    getnetworkhashps_unknown_algo sampleAlgoConstants sampleNodeInfo threeBlockChain (by decide)
      (by decide) "x17" rfl algoOf_ne_allOnes .null .null rfl⟩

/-! ### The statistics over windows -/

/-- What `getminingstats` reports for `a`, said with windows of blocks: the entries of `a` at a
height of at least `lo24`, and of at least `lo7`. -/
def windowAlgoStats (info : NodeInfo) (chain : CChain) (lo24 lo7 : Int) (a : BitVec 32) :
    AlgoStats :=
  let w24 := algoWindow K a lo24 chain.Tip
  let w7 := algoWindow K a lo7 chain.Tip
  { algo := info.algos.GetAlgoName a
    last_block_reward := (GetLastAlgoBlock K chain a).head?.map info.GetBlockSubsidy
    avg_block_reward_24h := avgBlockReward (w24.map info.GetBlockSubsidy).sum w24.length
    avg_block_reward_7d := avgBlockReward (w7.map info.GetBlockSubsidy).sum w7.length
    total_blocks_24h := w24.length
    total_blocks_7d := w7.length }

theorem toInt_statsWindow {m spacing : Int} (h0 : 0 ≤ m) (hm : m ≤ 7 * 24 * 3600)
    (hsp : 0 < spacing) :
    (BitVec.ofInt 32 (m.tdiv spacing)).toInt = m.tdiv spacing ∧ 0 ≤ m.tdiv spacing := by
  rw [Int.tdiv_eq_ediv h0 hsp.le]
  have := Int.ediv_nonneg h0 hsp.le
  have := Int.ediv_le_self spacing h0
  exact ⟨toInt_ofInt_of_range _ (by omega) (by omega), by omega⟩

/-- On a well-formed chain with a positive target spacing, every object of `getminingstats`
counts the blocks of its algorithm in the windows of a day and of a week of spacings below the
tip, and averages their subsidies in `CAmount` division. -/
theorem getminingstats_eq (info : NodeInfo) (chain : CChain) (e : CBlockIndex) (rest : BlockPtr)
    (htip : chain.Tip = e :: rest) (hwf : WellFormed chain.Tip)
    (hsp : 0 < info.nPowTargetSpacing) :
    getminingstats K info chain = some ((listedAlgos K).map (windowAlgoStats K info chain
      (max (e.nHeight.toInt - (24 * 3600 : Int).tdiv info.nPowTargetSpacing + 1) 1)
      (max (e.nHeight.toInt - (7 * 24 * 3600 : Int).tdiv info.nPowTargetSpacing + 1) 1))) := by
  have hwf' : WellFormed (e :: rest) := htip ▸ hwf
  obtain ⟨h24, h24'⟩ := toInt_statsWindow (m := 24 * 3600) (by omega) (by omega) hsp
  obtain ⟨h7, h7'⟩ := toInt_statsWindow (m := 7 * 24 * 3600) (by omega) (by omega) hsp
  rw [getminingstats, if_neg hsp.ne']
  refine congrArg some (List.map_congr_left fun a _ => ?_)
  simp only [statsWindows, windowAlgoStats, CountAlgoBlocks, CountAlgoBlockRewards, htip,
    sumAlgoBlocks_eq K _ _ _ e rest hwf' (h24 ▸ h24'), sumAlgoBlocks_eq K _ _ _ e rest hwf' (h7 ▸ h7'),
    h24, h7]
  simp

theorem getminingstats_eq_threeBlockChain :
    threeBlockChain.Tip =
        threeBlockChain.tip :: [threeBlockChain.scryptBlock, threeBlockChain.genesis] ∧
      WellFormed threeBlockChain.Tip ∧ 0 < sampleNodeInfo.nPowTargetSpacing ∧
      getminingstats sampleAlgoConstants sampleNodeInfo threeBlockChain =
        some ((listedAlgos sampleAlgoConstants).map
          (windowAlgoStats sampleAlgoConstants sampleNodeInfo threeBlockChain
            (max (threeBlockChain.tip.nHeight.toInt -
              (24 * 3600 : Int).tdiv sampleNodeInfo.nPowTargetSpacing + 1) 1)
            (max (threeBlockChain.tip.nHeight.toInt -
              (7 * 24 * 3600 : Int).tdiv sampleNodeInfo.nPowTargetSpacing + 1) 1))) :=
  ⟨rfl, by decide, by decide,
    getminingstats_eq sampleAlgoConstants sampleNodeInfo threeBlockChain _ _ rfl (by decide)
      (by decide)⟩

end VelesMining
