import Mathlib.Data.List.Sort
import VelesMining.Chain
import VelesMining.Rpc.Request
import VelesMining.Rpc.Template.Transactions
import VelesMining.Rpc.Template.VersionBits

/-!
# `getblocktemplate`

One call of `getblocktemplate` (BIP 22, 23 and 9). A proposal is checked and answered at once.
A template request goes through the node checks, the algorithm lookup and the optional long-poll
wait, and then through the cache of the last template, which lives in function statics: the
template is rebuilt when the tip, the algorithm or (after five seconds) the mempool has changed,
with `pindexPrev` cleared before the assembler runs. The template is then edited in place (time,
nonce, the version bits of the client's rules) and described.

The call is `getblocktemplate`, a function of the statics before the call to the statics after
it, the answer, and the `CreateNewBlock` call it made, if any. `none` as the answer is a failed
`assert` or a null pointer the code dereferences. The wait of the long-poll branch releases
`cs_main`; the steps other threads take during it come before the call, which runs atomically
from there.

The main facts are the round trip of the `longpollid` through the long-poll branch
(`decodeLongPollId_longpollid`), one spec lemma per stage of the call, and that the version a
request gets is the fold of the per-deployment edit over the version the cached block has at the
call, which the previous call left there (`getblocktemplate_version`). A template answer lists
the active deployments in `rules` and the pending ones in `vbavailable`, and only a client that
supports every active deployment gets one (`getblocktemplate_rules`); with distinct deployment
bits its version has the bit of every locked-in deployment the client supports set and the bit of
every pending deployment it does not support cleared (`getblocktemplate_signals`).
-/

namespace VelesMining

/-! ### The request -/

/-- The keys of the `template_request` object that the call reads; `find_value` gives `null` for
a missing key. -/
structure TemplateRequest where
  mode : UniValue
  longpollid : UniValue
  data : UniValue
  rules : UniValue
  maxversion : UniValue

/-- `request.params`: the `template_request` object (`none` for a null one) and the algorithm. -/
structure GbtParams where
  templateRequest : Option TemplateRequest
  algo : UniValue

/-! ### What a call reads -/

/-- What `TestBlockValidity` leaves in its `CValidationState`; an error carries the text of
`FormatStateMessage`. -/
inductive CValidationState where
  | valid
  | error (strMessage : String)
  | invalid (strRejectReason : String)

/-- What no step of the template cache changes: the algorithm table and the node's options, the
version-bits deployments with their state at a block, the consensus limits, and what a proposal
goes through in `validation.cpp` (decoding, the block index, `IsValid(BLOCK_VALID_SCRIPTS)` and
`TestBlockValidity`). -/
structure GbtConfig where
  algos : AlgoTable
  rpcBackCompatible : Bool
  segwit : VBDeployment
  deployments : List VBDeployment
  VersionBitsState : BlockPtr → VBDeployment → ThresholdState
  MAX_BLOCK_SIGOPS_COST : Int
  MAX_BLOCK_SERIALIZED_SIZE : Int
  MAX_BLOCK_WEIGHT : Int
  DecodeHexBlk : String → Option CBlock
  LookupBlockIndex : Uint256 → Option CBlockIndex
  IsValidScripts : CBlockIndex → Bool
  BLOCK_FAILED_MASK : BitVec 32
  TestBlockValidity : CBlock → BlockPtr → CValidationState

/-- The state of the node that the checks before the template read: the connection manager and
its peers, initial block download, the masternode-winner and superblock syncs for the next
height (with their sporks), and whether the RPC server still runs after the long-poll wait. -/
structure NodeStatus where
  connman : Bool
  nodeCount : Nat
  IsInitialBlockDownload : Bool
  masternodeWinnersMissing : Bool
  superblockNotSynced : Bool
  IsRPCRunning : Bool

/-- What a call reads under `cs_main`: the active chain, which always holds its genesis block,
`mempool.GetTransactionsUpdated()`, and the clock `GetTime()`. -/
structure ChainView where
  chain : CChain
  tip_ne : chain.Tip ≠ []
  mempoolRev : BitVec 32
  time : Int

/-- `chainActive.Tip()`. -/
def ChainView.tip (view : ChainView) : CBlockIndex := view.chain.Tip.head view.tip_ne

theorem ChainView.Tip_eq (view : ChainView) : ∃ rest, view.chain.Tip = view.tip :: rest :=
  ⟨view.chain.Tip.tail, (List.head_cons_tail _ view.tip_ne).symm⟩

/-- The function statics of `getblocktemplate`, zero-initialised. -/
structure TemplateCache where
  nTransactionsUpdatedLast : BitVec 32
  pindexPrev : BlockPtr
  nStart : Int
  pblocktemplate : Option CBlockTemplate
  nTemplatePowAlgo : BitVec 32

/-- The statics before the first call. -/
def TemplateCache.init : TemplateCache := ⟨0, [], 0, none, 0⟩

/-- A call of `BlockAssembler::CreateNewBlock`: the tip it was made on, the algorithm, the
mempool counter and clock stored with it, and what it returned. -/
structure CreateNewBlockCall where
  pindexPrev : BlockPtr
  nPowAlgo : BitVec 32
  nTransactionsUpdated : BitVec 32
  nTime : Int
  result : Option CBlockTemplate

/-! ### Times -/

/-- Modelled from the spec: `CBlockIndex::GetMedianTimePast` (`chain.h`), the median of the
block times of the entry and its ten predecessors (the upper one of an even count). -/
def GetMedianTimePast (pindex : BlockPtr) : Int :=
  let times := ((pindex.take 11).map CBlockIndex.GetBlockTime).insertionSort (· ≤ ·)
  times.getD (times.length / 2) 0

/-- Modelled from the spec: `UpdateTime` (`miner.cpp`), which refreshes the header time to
`max(median-time-past + 1, current time)`. -/
def UpdateTime (block : CBlock) (pindexPrev : BlockPtr) (nNow : Int) : CBlock :=
  { block with nTime := BitVec.ofInt 32 (max (GetMedianTimePast pindexPrev + 1) nNow) }

/-! ### The long-poll id -/

/-- `s.substr(pos, n)` on a string of one-byte characters. -/
def substr (s : String) (pos n : Nat) : String := ⟨(s.data.drop pos).take n⟩

/-- The `longpollid` of a template:
`chainActive.Tip()->GetBlockHash().GetHex() + i64tostr(nTransactionsUpdatedLast)`. -/
def longpollid (hashBestChain : Uint256) (nTransactionsUpdatedLast : BitVec 32) : String :=
  GetHex hashBestChain ++ i64tostr nTransactionsUpdatedLast.toNat

/-- The long-poll branch's reading of a string `longpollid`, `<hashBestChain><counter>`:
`ParseHashV(lpstr.substr(0, 64), "longpollid")` and `atoi64(lpstr.substr(64))` stored into an
`unsigned int`. -/
def decodeLongPollId (lpstr : String) : Except JSONRPCError (Uint256 × BitVec 32) := do
  let hashWatchedChain ← ParseHashV (substr lpstr 0 64) "longpollid"
  pure (hashWatchedChain, BitVec.ofInt 32 (atoi64 (substr lpstr 64 lpstr.length)))

theorem substr_append_of_length {s t : String} (h : s.length = 64) :
    substr (s ++ t) 0 64 = s ∧ substr (s ++ t) 64 (s ++ t).length = t := by
  rw [String.length] at h
  constructor
  · simp only [substr, String.data_append, List.drop_zero, List.take_left' h]
  · simp only [substr, String.data_append, List.drop_left' h]
    refine congrArg String.mk (List.take_of_length_le ?_)
    show t.data.length ≤ (s.data ++ t.data).length
    simp

/-- The long-poll branch reads back, from every `longpollid` a template carries, the hash and
the counter it was made from. -/
theorem decodeLongPollId_longpollid (h : Uint256) (r : BitVec 32) :
    decodeLongPollId (longpollid h r) = .ok (h, r) := by
  obtain ⟨hhash, hrev⟩ := substr_append_of_length (t := i64tostr r.toNat) (length_GetHex h)
  have hlt : (r.toNat : Int) < 2 ^ 63 := by have := r.isLt; omega
  simp only [decodeLongPollId, longpollid, hhash, hrev, ParseHashV_GetHex,
    atoi64_i64tostr _ (by omega) hlt]
  rw [BitVec.ofInt_natCast, BitVec.ofNat_toNat, BitVec.setWidth_eq]
  rfl

/-! ### Before the template -/

/-- `BIP22ValidationResult`: `null` for a valid block, the reject reason (or `"rejected"`) for
an invalid one, and an `RPC_VERIFY_ERROR` for an internal error. -/
def BIP22ValidationResult : CValidationState → Except JSONRPCError (Option String)
  | .valid => .ok none
  | .error strMessage => .error ⟨.RPC_VERIFY_ERROR, strMessage⟩
  | .invalid strRejectReason =>
    .ok (some (if strRejectReason = "" then "rejected" else strRejectReason))

/-- The `proposal` mode: decode the block, answer from the block index for a known block, and
otherwise test a block on the tip. -/
def proposalResult (H : PowHashes) (cfg : GbtConfig) (view : ChainView) (o : TemplateRequest) :
    Except JSONRPCError (Option String) := do
  let .str data := o.data | throw ⟨.RPC_TYPE_ERROR, "Missing data String key for proposal"⟩
  let some block := cfg.DecodeHexBlk data | throw ⟨.RPC_DESERIALIZATION_ERROR, "Block decode failed"⟩
  match cfg.LookupBlockIndex (H.GetHash block.toCBlockHeader) with
  | some pindex =>
    if cfg.IsValidScripts pindex then pure (some "duplicate")
    else if pindex.nStatus &&& cfg.BLOCK_FAILED_MASK ≠ 0 then pure (some "duplicate-invalid")
    else pure (some "duplicate-inconclusive")
  | none =>
    if block.hashPrevBlock ≠ view.tip.hash then pure (some "inconclusive-not-best-prevblk")
    else BIP22ValidationResult (cfg.TestBlockValidity block view.chain.Tip)

/-- What the reading of `template_request` leads to: a proposal's answer, or the mode, the
`longpollid`, the client rules and `nMaxVersionPreVB` of another request. -/
inductive ParsedRequest where
  | proposal (result : Except JSONRPCError (Option String))
  | request (strMode : String) (lpval : UniValue) (setClientRules : List String)
      (nMaxVersionPreVB : Int)

/-- `nMaxVersionPreVB`: `maxversion.get_int64()` when it is a number, and `-1` otherwise. -/
def maxVersionParam : UniValue → Except JSONRPCError Int
  | .num n => (UniValue.num n).get_int64
  | _ => .ok (-1)

/-- The reading of `template_request`: the mode (`"template"` by default), a proposal, and the
client rules (each must be a string), or `maxversion` when there is no `rules` array. -/
def readRequest (H : PowHashes) (cfg : GbtConfig) (view : ChainView) :
    Option TemplateRequest → Except JSONRPCError ParsedRequest
  | none => .ok (.request "template" .null [] (-1))
  | some o => do
    let strMode ← match o.mode with
      | .str s => pure s
      | .null => pure "template"
      | _ => throw ⟨.RPC_INVALID_PARAMETER, "Invalid mode"⟩
    if strMode = "proposal" then return .proposal (proposalResult H cfg view o)
    match o.rules with
    | .arr items => return .request strMode o.longpollid (← items.mapM UniValue.get_str) (-1)
    | _ => return .request strMode o.longpollid [] (← maxVersionParam o.maxversion)

/-- The connection and download checks. -/
def nodeChecks (status : NodeStatus) : Except JSONRPCError Unit :=
  if !status.connman then
    .error ⟨.RPC_CLIENT_P2P_DISABLED, "Error: Peer-to-peer functionality missing or disabled"⟩
  else if status.nodeCount = 0 then .error ⟨.RPC_CLIENT_NOT_CONNECTED, "Veles is not connected!"⟩
  else if status.IsInitialBlockDownload then
    .error ⟨.RPC_CLIENT_IN_INITIAL_DOWNLOAD, "Veles is downloading blocks..."⟩
  else .ok ()

/-- The masternode-payee and superblock checks for the next height. -/
def masternodeChecks (status : NodeStatus) : Except JSONRPCError Unit :=
  if status.masternodeWinnersMissing then
    .error ⟨.RPC_CLIENT_IN_INITIAL_DOWNLOAD, "Veles Core is downloading masternode winners..."⟩
  else if status.superblockNotSynced then
    .error ⟨.RPC_CLIENT_IN_INITIAL_DOWNLOAD, "Veles Core is syncing with network..."⟩
  else .ok ()

/-- The long-poll branch around its wait: a string `longpollid` is decoded (another value
watches the current tip and counter), and after the wait a server that is shutting down
fails the call. -/
def longPoll : UniValue → NodeStatus → Except JSONRPCError Unit
  | .null, _ => .ok ()
  | lpval, status => do
    match lpval with
    | .str lpstr => discard (decodeLongPollId lpstr)
    | _ => pure ()
    if !status.IsRPCRunning then throw ⟨.RPC_CLIENT_NOT_CONNECTED, "Shutting down"⟩

/-- The `segwit` rule must be among the client's, unless `-rpcbackcompatible` adds it. -/
def segwitRules (cfg : GbtConfig) (setClientRules : List String) :
    Except JSONRPCError (List String) :=
  if cfg.segwit.name ∈ setClientRules then .ok setClientRules
  else if cfg.rpcBackCompatible then .ok ("segwit" :: setClientRules)
  else .error ⟨.RPC_INVALID_PARAMETER, "getblocktemplate must be called with the segwit rule set " ++
    "(call with \x7b\"rules\": [\"segwit\"]\x7d)"⟩

/-- What the call does after its checks: answer a proposal, or build a template for the client
rules, `nMaxVersionPreVB` and algorithm. -/
inductive GbtPlan where
  | proposal (result : Except JSONRPCError (Option String))
  | template (setClientRules : List String) (nMaxVersionPreVB : Int) (nPowAlgo : BitVec 32)

/-- Everything before `// Update block`. -/
def gbtPrelude (H : PowHashes) (cfg : GbtConfig) (view : ChainView) (status : NodeStatus)
    (params : GbtParams) : Except JSONRPCError GbtPlan := do
  match ← readRequest H cfg view params.templateRequest with
  | .proposal result => return .proposal result
  | .request strMode lpval setClientRules nMaxVersionPreVB =>
    if strMode ≠ "template" then throw ⟨.RPC_INVALID_PARAMETER, "Invalid mode"⟩ else do
    nodeChecks status
    let nPowAlgo ← requestedAlgo cfg.algos params.algo
    masternodeChecks status
    longPoll lpval status
    let setClientRules ← segwitRules cfg setClientRules
    return .template setClientRules nMaxVersionPreVB nPowAlgo

theorem gbtPrelude_template {H : PowHashes} {cfg : GbtConfig} {view : ChainView}
    {status : NodeStatus} {params : GbtParams} {setClientRules : List String}
    {nMaxVersionPreVB : Int} {nPowAlgo : BitVec 32}
    (h : gbtPrelude H cfg view status params = .ok (.template setClientRules nMaxVersionPreVB nPowAlgo)) :
    requestedAlgo cfg.algos params.algo = .ok nPowAlgo := by
  obtain ⟨p, -, h⟩ := bind_eq_ok h
  cases p with
  | proposal result => cases h
  | request strMode lpval rules nMax =>
    dsimp only at h
    split at h
    · cases h
    obtain ⟨_, -, h⟩ := bind_eq_ok h
    obtain ⟨a, ha, h⟩ := bind_eq_ok h
    obtain ⟨_, -, h⟩ := bind_eq_ok h
    obtain ⟨_, -, h⟩ := bind_eq_ok h
    obtain ⟨_, -, h⟩ := bind_eq_ok h
    cases h
    exact ha

/-! ### The cache -/

/-- The rebuild test of `// Update block`: another tip, a changed mempool more than five
seconds after the last build, or another algorithm. -/
def templateStale (view : ChainView) (c : TemplateCache) (nPowAlgo : BitVec 32) : Bool :=
  decide (c.pindexPrev ≠ view.chain.Tip ∨
    (view.mempoolRev ≠ c.nTransactionsUpdatedLast ∧ view.time - c.nStart > 5) ∨
    nPowAlgo ≠ c.nTemplatePowAlgo)

/-- `// Update block`: when the cache is stale, clear `pindexPrev`, store the counter, the time
and the algorithm, and call the assembler, whose result `assembled` is; only a success sets
`pindexPrev` to the tip. It returns the statics, the error, and the assembler call made. -/
def updateBlock (view : ChainView) (c : TemplateCache) (nPowAlgo : BitVec 32)
    (assembled : Option CBlockTemplate) :
    TemplateCache × Option JSONRPCError × Option CreateNewBlockCall :=
  if templateStale view c nPowAlgo then
    let cleared : TemplateCache := ⟨view.mempoolRev, [], view.time, assembled, nPowAlgo⟩
    let created := some ⟨view.chain.Tip, nPowAlgo, view.mempoolRev, view.time, assembled⟩
    match assembled with
    | some _ => ({ cleared with pindexPrev := view.chain.Tip }, none, created)
    | none => (cleared, some ⟨.RPC_OUT_OF_MEMORY, "Out of memory"⟩, created)
  else (c, none, none)

section Update

variable {view : ChainView} {c : TemplateCache} {nPowAlgo : BitVec 32}

theorem updateBlock_of_fresh (assembled : Option CBlockTemplate)
    (h : templateStale view c nPowAlgo = false) :
    updateBlock view c nPowAlgo assembled = (c, none, none) := by
  simp [updateBlock, h]

theorem updateBlock_of_stale_some (t : CBlockTemplate) (h : templateStale view c nPowAlgo = true) :
    updateBlock view c nPowAlgo (some t) =
      (⟨view.mempoolRev, view.chain.Tip, view.time, some t, nPowAlgo⟩, none,
        some ⟨view.chain.Tip, nPowAlgo, view.mempoolRev, view.time, some t⟩) := by
  simp [updateBlock, h]

theorem updateBlock_of_stale_none (h : templateStale view c nPowAlgo = true) :
    updateBlock view c nPowAlgo none =
      (⟨view.mempoolRev, [], view.time, none, nPowAlgo⟩, some ⟨.RPC_OUT_OF_MEMORY, "Out of memory"⟩,
        some ⟨view.chain.Tip, nPowAlgo, view.mempoolRev, view.time, none⟩) := by
  simp [updateBlock, h]

theorem updateBlock_cases (assembled : Option CBlockTemplate) :
    (templateStale view c nPowAlgo = false ∧
      updateBlock view c nPowAlgo assembled = (c, none, none)) ∨
    (templateStale view c nPowAlgo = true ∧
      (updateBlock view c nPowAlgo assembled).1 = ⟨view.mempoolRev,
        if assembled.isSome then view.chain.Tip else [], view.time, assembled, nPowAlgo⟩ ∧
      (updateBlock view c nPowAlgo assembled).2.2 =
        some ⟨view.chain.Tip, nPowAlgo, view.mempoolRev, view.time, assembled⟩) := by
  cases hs : templateStale view c nPowAlgo
  · exact .inl ⟨rfl, updateBlock_of_fresh assembled hs⟩
  · refine .inr ⟨rfl, ?_⟩
    cases assembled with
    | none => rw [updateBlock_of_stale_none hs]; exact ⟨rfl, rfl⟩
    | some t => rw [updateBlock_of_stale_some t hs]; exact ⟨rfl, rfl⟩

theorem updateBlock_error {assembled : Option CBlockTemplate} {e : JSONRPCError}
    (h : (updateBlock view c nPowAlgo assembled).2.1 = some e) :
    templateStale view c nPowAlgo = true ∧ assembled = none ∧
      e = ⟨.RPC_OUT_OF_MEMORY, "Out of memory"⟩ := by
  unfold updateBlock at h
  split_ifs at h with hs
  cases assembled <;> cases h
  exact ⟨hs, rfl, rfl⟩

end Update

/-! ### The template -/

/-- The answer to a template request. -/
structure BlockTemplateResult where
  capabilities : List String
  version : BitVec 32
  rules : List String
  vbavailable : List (String × Nat)
  vbrequired : Int
  previousblockhash : String
  transactions : List TxEntry
  coinbasevalue : Int
  longpollid : String
  mintime : Int
  mutable : List String
  noncerange : String
  sigoplimit : Int
  sizelimit : Int
  weightlimit : Option Int
  curtime : Int
  height : Int

/-- The answer of a call: a proposal's result or a template. -/
inductive GbtResponse where
  | proposal (result : Option String)
  | template (result : BlockTemplateResult)

/-- Each deployment with its state at `pindexPrev`. -/
def deploymentStates (cfg : GbtConfig) (pindexPrev : BlockPtr) :
    List (VBDeployment × ThresholdState) :=
  cfg.deployments.map fun d => (d, cfg.VersionBitsState pindexPrev d)

/-- `sigoplimit`, `sizelimit` and `weightlimit`: before segwit the first two are divided by
`WITNESS_SCALE_FACTOR` after an `assert` that they are multiples of it, and there is no weight
limit. -/
def templateLimits (cfg : GbtConfig) (fPreSegWit : Bool) : Option (Int × Int × Option Int) :=
  if fPreSegWit then
    if cfg.MAX_BLOCK_SIGOPS_COST.tmod WITNESS_SCALE_FACTOR = 0 ∧
        cfg.MAX_BLOCK_SERIALIZED_SIZE.tmod WITNESS_SCALE_FACTOR = 0 then
      some (cfg.MAX_BLOCK_SIGOPS_COST.tdiv WITNESS_SCALE_FACTOR,
        cfg.MAX_BLOCK_SERIALIZED_SIZE.tdiv WITNESS_SCALE_FACTOR, none)
    else none
  else some (cfg.MAX_BLOCK_SIGOPS_COST, cfg.MAX_BLOCK_SERIALIZED_SIZE, some cfg.MAX_BLOCK_WEIGHT)

/-- The template's edit of the cached block: `UpdateTime` and `nNonce = 0`. -/
def refreshHeader (tmpl : CBlockTemplate) (pindexPrev : BlockPtr) (nNow : Int) : CBlockTemplate :=
  { tmpl with block := { UpdateTime tmpl.block pindexPrev nNow with nNonce := 0 } }

/-- The template with its block version set. -/
def withVersion (tmpl : CBlockTemplate) (nVersion : BitVec 32) : CBlockTemplate :=
  { tmpl with block := { tmpl.block with nVersion := nVersion } }

/-- `t'` is the template `t` with at most the header fields that calls edit in place (time, nonce,
version) changed: the same assembled object. -/
def SameAssembly (t t' : CBlockTemplate) : Prop :=
  ∃ nTime nNonce nVersion : BitVec 32,
    t' = { t with block := { t.block with nTime := nTime, nNonce := nNonce, nVersion := nVersion } }

theorem SameAssembly.refl (t : CBlockTemplate) : SameAssembly t t :=
  ⟨t.block.nTime, t.block.nNonce, t.block.nVersion, rfl⟩

theorem SameAssembly.trans {t t' t'' : CBlockTemplate} :
    SameAssembly t t' → SameAssembly t' t'' → SameAssembly t t''
  | ⟨_, _, _, h⟩, ⟨nTime, nNonce, nVersion, h'⟩ => ⟨nTime, nNonce, nVersion, by subst h h'; rfl⟩

theorem SameAssembly.hashPrevBlock {t t' : CBlockTemplate} (h : SameAssembly t t') :
    t'.block.hashPrevBlock = t.block.hashPrevBlock := by
  obtain ⟨_, _, _, rfl⟩ := h
  rfl

theorem sameAssembly_rel_refl : ∀ o : Option CBlockTemplate, Option.Rel SameAssembly o o
  | none => .none
  | some t => .some (.refl t)

theorem sameAssembly_refreshHeader (t : CBlockTemplate) (pindexPrev : BlockPtr) (nNow : Int) :
    SameAssembly t (refreshHeader t pindexPrev nNow) :=
  ⟨_, 0, t.block.nVersion, rfl⟩

theorem sameAssembly_withVersion (t : CBlockTemplate) (nVersion : BitVec 32) :
    SameAssembly t (withVersion t nVersion) :=
  ⟨t.block.nTime, t.block.nNonce, nVersion, rfl⟩

/-- `mutable`: `version/force` only for a client without version bits that takes version 2 or
later. -/
def aMutable (nMaxVersionPreVB : Int) : List String :=
  ["time", "transactions", "prevblock"] ++ (if nMaxVersionPreVB ≥ 2 then ["version/force"] else [])

/-- The answer from the deployment loop on: the loop's error, or the description of the edited
block `tmpl` on `pindexPrev`, whose first entry is `prev` (`none` where the code reads `vtx[0]`
of an empty block or fails a limit `assert`). -/
def templateAnswer (cfg : GbtConfig) (view : ChainView) (nTransactionsUpdatedLast : BitVec 32)
    (prev : CBlockIndex) (pindexPrev : BlockPtr) (tmpl : CBlockTemplate) (fPreSegWit : Bool)
    (transactions : List TxEntry) (vb : VBLoopState × Option JSONRPCError)
    (nMaxVersionPreVB : Int) : Option (Except JSONRPCError GbtResponse) :=
  match vb.2, tmpl.block.vtx, templateLimits cfg fPreSegWit with
  | some e, _, _ => some (.error e)
  | none, [], _ => none
  | none, _ :: _, none => none
  | none, coinbase :: _, some (nSigOpLimit, nSizeLimit, weightlimit) =>
    some (.ok (.template
      { capabilities := ["proposal"]
        version := tmpl.block.nVersion
        rules := vb.1.aRules
        vbavailable := vb.1.vbavailable
        vbrequired := 0
        previousblockhash := GetHex tmpl.block.hashPrevBlock
        transactions := transactions
        coinbasevalue := coinbase.valueOut
        longpollid := longpollid view.tip.hash nTransactionsUpdatedLast
        mintime := GetMedianTimePast pindexPrev + 1
        mutable := aMutable nMaxVersionPreVB
        noncerange := "00000000ffffffff"
        sigoplimit := nSigOpLimit
        sizelimit := nSizeLimit
        weightlimit := weightlimit
        curtime := tmpl.block.nTime.toNat
        height := (prev.nHeight + 1).toInt }))

theorem templateAnswer_template {cfg : GbtConfig} {view : ChainView}
    {nTransactionsUpdatedLast : BitVec 32} {prev : CBlockIndex} {pindexPrev : BlockPtr}
    {tmpl : CBlockTemplate} {fPreSegWit : Bool} {transactions : List TxEntry}
    {vb : VBLoopState × Option JSONRPCError} {nMaxVersionPreVB : Int} {res : BlockTemplateResult}
    (h : templateAnswer cfg view nTransactionsUpdatedLast prev pindexPrev tmpl fPreSegWit
      transactions vb nMaxVersionPreVB = some (.ok (.template res))) :
    vb.2 = none ∧ res.version = tmpl.block.nVersion ∧
      res.previousblockhash = GetHex tmpl.block.hashPrevBlock ∧
      res.height = (prev.nHeight + 1).toInt := by
  unfold templateAnswer at h
  split at h
  · cases h
  · cases h
  · cases h
  · cases h
    exact ⟨‹_›, rfl, rfl, rfl⟩

theorem templateAnswer_lists {cfg : GbtConfig} {view : ChainView}
    {nTransactionsUpdatedLast : BitVec 32} {prev : CBlockIndex} {pindexPrev : BlockPtr}
    {tmpl : CBlockTemplate} {fPreSegWit : Bool} {transactions : List TxEntry}
    {vb : VBLoopState × Option JSONRPCError} {nMaxVersionPreVB : Int} {res : BlockTemplateResult}
    (h : templateAnswer cfg view nTransactionsUpdatedLast prev pindexPrev tmpl fPreSegWit
      transactions vb nMaxVersionPreVB = some (.ok (.template res))) :
    res.rules = vb.1.aRules ∧ res.vbavailable = vb.1.vbavailable := by
  unfold templateAnswer at h
  split at h <;> cases h
  exact ⟨rfl, rfl⟩

theorem templateAnswer_error {cfg : GbtConfig} {view : ChainView}
    {nTransactionsUpdatedLast : BitVec 32} {prev : CBlockIndex} {pindexPrev : BlockPtr}
    {tmpl : CBlockTemplate} {fPreSegWit : Bool} {transactions : List TxEntry}
    {vb : VBLoopState × Option JSONRPCError} {nMaxVersionPreVB : Int} {e : JSONRPCError}
    (h : templateAnswer cfg view nTransactionsUpdatedLast prev pindexPrev tmpl fPreSegWit
      transactions vb nMaxVersionPreVB = some (.error e)) :
    vb.2 = some e := by
  unfold templateAnswer at h
  split at h <;> cases h
  assumption

/-- The part of the call from `assert(pindexPrev)` on, over the statics after the update: the
cached block is edited in place (the time and nonce, then the version bits, which the
deployment loop also leaves edited when it throws), and the answer is described. -/
def templateBody (cfg : GbtConfig) (view : ChainView) (c : TemplateCache)
    (setClientRules : List String) (nMaxVersionPreVB : Int) :
    TemplateCache × Option (Except JSONRPCError GbtResponse) :=
  match c.pindexPrev, c.pblocktemplate with
  | [], _ => (c, none)
  | _ :: _, none => (c, none)
  | prev :: rest, some tmpl =>
    let pindexPrev := prev :: rest
    let tmpl := refreshHeader tmpl pindexPrev view.time
    let fPreSegWit := decide (cfg.VersionBitsState pindexPrev cfg.segwit ≠ .ACTIVE)
    match templateTransactions tmpl fPreSegWit with
    | none => ({ c with pblocktemplate := some tmpl }, none)
    | some transactions =>
      let vb := versionBitsLoop setClientRules ⟨tmpl.block.nVersion, [], []⟩
        (deploymentStates cfg pindexPrev)
      let tmpl := withVersion tmpl vb.1.nVersion
      ({ c with pblocktemplate := some tmpl },
        templateAnswer cfg view c.nTransactionsUpdatedLast prev pindexPrev tmpl fPreSegWit
          transactions vb nMaxVersionPreVB)

/-- What a call leaves: the statics, the answer (`none` for an abort), and the assembler call it
made. -/
structure GbtCall where
  cache : TemplateCache
  outcome : Option (Except JSONRPCError GbtResponse)
  created : Option CreateNewBlockCall

/-- `getblocktemplate(template_request, algo)` on the statics `c`, with `assembled` what
`CreateNewBlock` returns if the call makes one. -/
def getblocktemplate (H : PowHashes) (cfg : GbtConfig) (view : ChainView) (status : NodeStatus)
    (c : TemplateCache) (params : GbtParams) (assembled : Option CBlockTemplate) : GbtCall :=
  match gbtPrelude H cfg view status params with
  | .error e => ⟨c, some (.error e), none⟩
  | .ok (.proposal result) => ⟨c, some (GbtResponse.proposal <$> result), none⟩
  | .ok (.template setClientRules nMaxVersionPreVB nPowAlgo) =>
    let u := updateBlock view c nPowAlgo assembled
    match u.2.1 with
    | some e => ⟨u.1, some (.error e), u.2.2⟩
    | none =>
      let r := templateBody cfg view u.1 setClientRules nMaxVersionPreVB
      ⟨r.1, r.2, u.2.2⟩

/-! ### What a call does -/

section Body

variable (cfg : GbtConfig) (view : ChainView) (c : TemplateCache) (setClientRules : List String)
  (nMaxVersionPreVB : Int)

theorem templateBody_cache :
    ∃ tmpl', (templateBody cfg view c setClientRules nMaxVersionPreVB).1 =
      { c with pblocktemplate := tmpl' } ∧ Option.Rel SameAssembly c.pblocktemplate tmpl' := by
  unfold templateBody
  split
  · exact ⟨c.pblocktemplate, rfl, sameAssembly_rel_refl _⟩
  · exact ⟨c.pblocktemplate, rfl, sameAssembly_rel_refl _⟩
  · rename_i prev rest t _ ht
    rw [ht]
    dsimp only
    split
    · exact ⟨_, rfl, .some (sameAssembly_refreshHeader _ _ _)⟩
    · exact ⟨_, rfl, .some ((sameAssembly_refreshHeader _ _ _).trans (sameAssembly_withVersion _ _))⟩

theorem templateBody_template {res : BlockTemplateResult}
    (h : (templateBody cfg view c setClientRules nMaxVersionPreVB).2 = some (.ok (.template res))) :
    ∃ prev rest t, c.pindexPrev = prev :: rest ∧ c.pblocktemplate = some t ∧
      res.previousblockhash = GetHex t.block.hashPrevBlock ∧
      res.height = (prev.nHeight + 1).toInt ∧
      res.version = (deploymentStates cfg (prev :: rest)).foldl (vbVersionStep setClientRules)
        t.block.nVersion ∧
      (templateBody cfg view c setClientRules nMaxVersionPreVB).1 = { c with
        pblocktemplate := some (withVersion (refreshHeader t (prev :: rest) view.time) res.version) } := by
  obtain ⟨prev, rest, t, hp, ht⟩ : ∃ prev rest t, c.pindexPrev = prev :: rest ∧
      c.pblocktemplate = some t := by
    unfold templateBody at h
    split at h
    · cases h
    · cases h
    · exact ⟨_, _, _, ‹_›, ‹_›⟩
  refine ⟨prev, rest, t, hp, ht, ?_⟩
  simp only [templateBody, hp, ht] at h ⊢
  split at h
  · cases h
  · rename_i transactions hT
    obtain ⟨hvb, hver, hprev, hheight⟩ := templateAnswer_template h
    obtain ⟨n, hn, hlen⟩ := versionBitsLoop_nVersion setClientRules
      (deploymentStates cfg (prev :: rest))
      ⟨(refreshHeader t (prev :: rest) view.time).block.nVersion, [], []⟩
    rw [hlen hvb, List.take_length] at hn
    refine ⟨hprev, hheight, hver.trans hn, ?_⟩
    simp only [hT, hver]
    rfl

theorem templateBody_lists {res : BlockTemplateResult}
    (h : (templateBody cfg view c setClientRules nMaxVersionPreVB).2 = some (.ok (.template res))) :
    ∃ nVersion vb, versionBitsLoop setClientRules ⟨nVersion, [], []⟩
        (deploymentStates cfg c.pindexPrev) = vb ∧
      vb.2 = none ∧ res.rules = vb.1.aRules ∧ res.vbavailable = vb.1.vbavailable := by
  obtain ⟨prev, rest, t, hp, ht, -⟩ := templateBody_template cfg view c setClientRules nMaxVersionPreVB h
  simp only [templateBody, hp, ht] at h
  split at h
  · cases h
  · obtain ⟨hr, hv⟩ := templateAnswer_lists h
    exact ⟨_, _, by rw [hp], (templateAnswer_template h).1, hr, hv⟩

theorem templateBody_cachedVersion {t' : CBlockTemplate}
    (h : (templateBody cfg view c setClientRules nMaxVersionPreVB).1.pblocktemplate = some t') :
    ∃ t n, c.pblocktemplate = some t ∧ t'.block.nVersion =
      ((deploymentStates cfg c.pindexPrev).take n).foldl (vbVersionStep setClientRules)
        t.block.nVersion := by
  unfold templateBody at h
  split at h
  · exact ⟨t', 0, h, rfl⟩
  · exact ⟨t', 0, h, rfl⟩
  · rename_i prev rest t hp ht
    refine ⟨t, ?_⟩
    dsimp only at h
    split at h
    · cases h
      exact ⟨0, ht, rfl⟩
    · cases h
      obtain ⟨n, hn, -⟩ := versionBitsLoop_nVersion setClientRules
        (deploymentStates cfg (prev :: rest))
        ⟨(refreshHeader t (prev :: rest) view.time).block.nVersion, [], []⟩
      exact ⟨n, ht, by rw [hp]; exact hn⟩

theorem templateBody_error {e : JSONRPCError}
    (h : (templateBody cfg view c setClientRules nMaxVersionPreVB).2 = some (.error e)) :
    ∃ nVersion, (versionBitsLoop setClientRules ⟨nVersion, [], []⟩
      (deploymentStates cfg c.pindexPrev)).2 = some e := by
  unfold templateBody at h
  split at h
  · cases h
  · cases h
  · rename_i prev rest t hp _
    dsimp only at h
    split at h
    · cases h
    · exact ⟨_, by rw [hp]; exact templateAnswer_error h⟩

end Body

section Call

variable (H : PowHashes) (cfg : GbtConfig) (view : ChainView) (status : NodeStatus)
  (c : TemplateCache) (params : GbtParams) (assembled : Option CBlockTemplate)

theorem getblocktemplate_cache :
    ∃ c₀ tmpl', (getblocktemplate H cfg view status c params assembled).cache =
        { c₀ with pblocktemplate := tmpl' } ∧ Option.Rel SameAssembly c₀.pblocktemplate tmpl' ∧
      (c₀ = c ∧ (getblocktemplate H cfg view status c params assembled).created = none ∨
        ∃ nPowAlgo, c₀ = ⟨view.mempoolRev, if assembled.isSome then view.chain.Tip else [],
            view.time, assembled, nPowAlgo⟩ ∧
          (getblocktemplate H cfg view status c params assembled).created =
            some ⟨view.chain.Tip, nPowAlgo, view.mempoolRev, view.time, assembled⟩) := by
  unfold getblocktemplate
  split
  · exact ⟨c, c.pblocktemplate, rfl, sameAssembly_rel_refl _, .inl ⟨rfl, rfl⟩⟩
  · exact ⟨c, c.pblocktemplate, rfl, sameAssembly_rel_refl _, .inl ⟨rfl, rfl⟩⟩
  · rename_i setClientRules nMaxVersionPreVB nPowAlgo _
    cases hs : templateStale view c nPowAlgo
    · obtain ⟨tmpl', h1, h2⟩ := templateBody_cache cfg view c setClientRules nMaxVersionPreVB
      rw [updateBlock_of_fresh assembled hs]
      exact ⟨c, tmpl', h1, h2, .inl ⟨rfl, rfl⟩⟩
    · cases assembled with
      | none =>
        rw [updateBlock_of_stale_none hs]
        exact ⟨_, none, rfl, .none, .inr ⟨nPowAlgo, rfl, rfl⟩⟩
      | some t =>
        obtain ⟨tmpl', h1, h2⟩ := templateBody_cache cfg view
          ⟨view.mempoolRev, view.chain.Tip, view.time, some t, nPowAlgo⟩ setClientRules nMaxVersionPreVB
        rw [updateBlock_of_stale_some t hs]
        exact ⟨_, tmpl', h1, h2, .inr ⟨nPowAlgo, rfl, rfl⟩⟩

theorem getblocktemplate_template {res : BlockTemplateResult}
    (h : (getblocktemplate H cfg view status c params assembled).outcome =
      some (.ok (.template res))) :
    ∃ setClientRules nMaxVersionPreVB nPowAlgo,
      gbtPrelude H cfg view status params = .ok (.template setClientRules nMaxVersionPreVB nPowAlgo) ∧
      (updateBlock view c nPowAlgo assembled).2.1 = none ∧
      (templateBody cfg view (updateBlock view c nPowAlgo assembled).1 setClientRules
        nMaxVersionPreVB).2 = some (.ok (.template res)) ∧
      (getblocktemplate H cfg view status c params assembled).cache =
        (templateBody cfg view (updateBlock view c nPowAlgo assembled).1 setClientRules
          nMaxVersionPreVB).1 ∧
      (getblocktemplate H cfg view status c params assembled).created =
        (updateBlock view c nPowAlgo assembled).2.2 := by
  revert h
  unfold getblocktemplate
  split
  · intro h; cases h
  · rename_i result _
    intro h
    cases result <;> cases h
  · rename_i setClientRules nMaxVersionPreVB nPowAlgo hp
    dsimp only
    split
    · intro h; cases h
    · intro h
      exact ⟨setClientRules, nMaxVersionPreVB, nPowAlgo, hp, ‹_›, h, rfl, rfl⟩

/-- The version a request gets is the version the cached block has when the call reaches it,
edited by every deployment for the client's rules; the cached block keeps the edited version,
so the next call starts from it. -/
theorem getblocktemplate_version {res : BlockTemplateResult}
    (h : (getblocktemplate H cfg view status c params assembled).outcome =
      some (.ok (.template res))) :
    ∃ setClientRules nMaxVersionPreVB nPowAlgo pindexPrev t,
      gbtPrelude H cfg view status params = .ok (.template setClientRules nMaxVersionPreVB nPowAlgo) ∧
      (updateBlock view c nPowAlgo assembled).1.pindexPrev = pindexPrev ∧
      (updateBlock view c nPowAlgo assembled).1.pblocktemplate = some t ∧
      res.version = (deploymentStates cfg pindexPrev).foldl (vbVersionStep setClientRules)
        t.block.nVersion ∧
      ((getblocktemplate H cfg view status c params assembled).cache.pblocktemplate.map
        fun t => t.block.nVersion) = some res.version := by
  obtain ⟨setClientRules, nMaxVersionPreVB, nPowAlgo, hp, -, hbody, hcache, -⟩ :=
    getblocktemplate_template H cfg view status c params assembled h
  obtain ⟨prev, rest, t, hprev, ht, -, -, hver, hbody1⟩ := templateBody_template cfg view _ _ _ hbody
  refine ⟨setClientRules, nMaxVersionPreVB, nPowAlgo, prev :: rest, t, hp, hprev, ht, hver, ?_⟩
  rw [hcache, hbody1]
  rfl

/-- A template answer lists in `rules` every deployment active at the template's parent and
offers in `vbavailable` every started or locked-in one with its bit, in the order of the
deployments; the client supports every active one. -/
theorem getblocktemplate_rules {res : BlockTemplateResult}
    (h : (getblocktemplate H cfg view status c params assembled).outcome =
      some (.ok (.template res))) :
    ∃ setClientRules nMaxVersionPreVB nPowAlgo pindexPrev,
      gbtPrelude H cfg view status params = .ok (.template setClientRules nMaxVersionPreVB nPowAlgo) ∧
      (updateBlock view c nPowAlgo assembled).1.pindexPrev = pindexPrev ∧
      res.rules = (cfg.deployments.filter fun d => cfg.VersionBitsState pindexPrev d = .ACTIVE).map
        gbt_vb_name ∧
      res.vbavailable = (cfg.deployments.filter fun d => cfg.VersionBitsState pindexPrev d = .STARTED ∨
        cfg.VersionBitsState pindexPrev d = .LOCKED_IN).map (fun d => (gbt_vb_name d, d.bit)) ∧
      ∀ d ∈ cfg.deployments, cfg.VersionBitsState pindexPrev d = .ACTIVE →
        vbSupported setClientRules d := by
  obtain ⟨setClientRules, nMaxVersionPreVB, nPowAlgo, hp, -, hbody, -, -⟩ :=
    getblocktemplate_template H cfg view status c params assembled h
  obtain ⟨nVersion, vb, rfl, hvb, hr, hv⟩ := templateBody_lists cfg view _ _ _ hbody
  obtain ⟨hrules, havail⟩ := versionBitsLoop_lists setClientRules _ _ hvb
  refine ⟨setClientRules, nMaxVersionPreVB, nPowAlgo, _, hp, rfl, ?_, ?_, fun d hd => ?_⟩
  · rw [hr, hrules]
    simp [deploymentStates, List.filter_map, Function.comp_def]
  · rw [hv, havail]
    simp [deploymentStates, List.filter_map, Function.comp_def]
  · exact (versionBitsLoop_error setClientRules _ _).1.mp hvb _ (List.mem_map_of_mem _ hd)

/-- With the deployments' bits distinct and inside the word, a template answer's version signals
every locked-in deployment the client supports and no started or locked-in deployment it does not
support, whatever the cached block had in those bits. -/
theorem getblocktemplate_signals (hbits : ∀ d ∈ cfg.deployments, d.bit < 32)
    (hnd : (cfg.deployments.map VBDeployment.bit).Nodup) {res : BlockTemplateResult}
    (h : (getblocktemplate H cfg view status c params assembled).outcome =
      some (.ok (.template res))) :
    ∃ setClientRules nMaxVersionPreVB nPowAlgo pindexPrev,
      gbtPrelude H cfg view status params = .ok (.template setClientRules nMaxVersionPreVB nPowAlgo) ∧
      (updateBlock view c nPowAlgo assembled).1.pindexPrev = pindexPrev ∧
      ∀ d ∈ cfg.deployments,
        (cfg.VersionBitsState pindexPrev d = .LOCKED_IN → vbSupported setClientRules d →
          res.version.getLsbD d.bit = true) ∧
        (cfg.VersionBitsState pindexPrev d = .STARTED ∨ cfg.VersionBitsState pindexPrev d = .LOCKED_IN →
          ¬vbSupported setClientRules d → res.version.getLsbD d.bit = false) := by
  obtain ⟨setClientRules, nMaxVersionPreVB, nPowAlgo, hp, -, hbody, -, -⟩ :=
    getblocktemplate_template H cfg view status c params assembled h
  obtain ⟨prev, rest, t, hprev, -, -, -, hver, -⟩ := templateBody_template cfg view _ _ _ hbody
  refine ⟨setClientRules, nMaxVersionPreVB, nPowAlgo, _, hp, hprev, fun d hd => ?_⟩
  have hnd' : ((deploymentStates cfg (prev :: rest)).map fun x => x.1.bit).Nodup := by
    simpa [deploymentStates, Function.comp_def] using hnd
  have hbit := getLsbD_foldl_vbVersionStep_owner setClientRules (deploymentStates cfg (prev :: rest))
    t.block.nVersion _ (List.mem_map_of_mem (fun d => (d, cfg.VersionBitsState _ d)) hd) hnd'
    (hbits d hd)
  dsimp only at hbit
  rw [hver, hbit]
  exact ⟨fun hl hs => by simp [vbSignal, hl, hs], fun hst hs => by simp [vbSignal, hst, hs]⟩

/-- Every error of a call comes from its checks, from a proposal, from a rebuild whose
`CreateNewBlock` failed (`Out of memory`), or from an active deployment the client does not
support, which the error names. Errors thrown inside `CreateNewBlock` itself (`miner.cpp`, not in
this source, e.g. its `TestBlockValidity` check) are outside the model: the assembler is the
parameter `assembled`, whose failure is `none`. -/
theorem getblocktemplate_error {e : JSONRPCError}
    (h : (getblocktemplate H cfg view status c params assembled).outcome = some (.error e)) :
    gbtPrelude H cfg view status params = .error e ∨
    gbtPrelude H cfg view status params = .ok (.proposal (.error e)) ∨
    ∃ setClientRules nMaxVersionPreVB nPowAlgo,
      gbtPrelude H cfg view status params = .ok (.template setClientRules nMaxVersionPreVB nPowAlgo) ∧
      ((templateStale view c nPowAlgo = true ∧ assembled = none ∧
          e = ⟨.RPC_OUT_OF_MEMORY, "Out of memory"⟩) ∨
        ∃ d ∈ cfg.deployments,
          cfg.VersionBitsState (updateBlock view c nPowAlgo assembled).1.pindexPrev d = .ACTIVE ∧
          ¬vbSupported setClientRules d ∧ e = ⟨.RPC_INVALID_PARAMETER,
            "Support for '" ++ d.name ++ "' rule requires explicit client support"⟩) := by
  revert h
  unfold getblocktemplate
  split
  · rename_i e' hp
    rintro ⟨⟩
    exact .inl hp
  · rename_i result hp
    cases result <;> rintro ⟨⟩
    exact .inr (.inl hp)
  · rename_i setClientRules nMaxVersionPreVB nPowAlgo hp
    refine fun h => .inr (.inr ⟨setClientRules, nMaxVersionPreVB, nPowAlgo, hp, ?_⟩)
    dsimp only at h
    split at h
    · cases h
      exact .inl (updateBlock_error ‹_›)
    · obtain ⟨nVersion, hvb⟩ := templateBody_error cfg view _ _ _ h
      obtain ⟨ds, hds, hns, rfl⟩ := (versionBitsLoop_error setClientRules _ _).2 e hvb
      obtain ⟨d, hd, hdeq⟩ := List.mem_map.mp hds
      obtain ⟨rfl, hst⟩ := Prod.mk.inj hdeq
      exact .inr ⟨d, hd, hst, hns, rfl⟩

end Call

/-! ### A cached template served twice -/

/-- A node with two deployments, `testdummy` (bit 28, not forced) started and `segwit` (forced)
active, on which every request is a template request. -/
def twoDeploymentConfig : GbtConfig where
  algos := ⟨0, BitVec.allOnes 32, fun _ => 0, fun _ => "sha256d"⟩
  rpcBackCompatible := false
  segwit := ⟨"segwit", true, 1⟩
  deployments := [⟨"testdummy", false, 28⟩, ⟨"segwit", true, 1⟩]
  VersionBitsState := fun _ d => if d.name = "segwit" then .ACTIVE else .STARTED
  MAX_BLOCK_SIGOPS_COST := 80000
  MAX_BLOCK_SERIALIZED_SIZE := 4000000
  MAX_BLOCK_WEIGHT := 4000000
  DecodeHexBlk := fun _ => none
  LookupBlockIndex := fun _ => none
  IsValidScripts := fun _ => false
  BLOCK_FAILED_MASK := 0x60
  TestBlockValidity := fun _ _ => .valid

/-- The genesis entry of a one-block chain. -/
def genesisIndex : CBlockIndex := ⟨1, 0, 0x20000000, 0, 0, 0, 0, 0⟩

/-- The one-block chain at mempool counter `7` and time `1000`. -/
def genesisView : ChainView := ⟨⟨[genesisIndex]⟩, List.cons_ne_nil _ _, 7, 1000⟩

/-- A connected, synced node. -/
def syncedStatus : NodeStatus := ⟨true, 1, false, false, false, true⟩

/-- The statics right after a build on `genesisView` for algorithm `0`: the assembled block has
the bit of the started `testdummy` deployment set. -/
def cachedStatics : TemplateCache :=
  ⟨7, [genesisIndex], 1000, some (withVersion sampleTemplate 0x30000000), 0⟩

/-- A template request with the client rules `rules`. -/
def rulesRequest (rules : List String) : GbtParams :=
  ⟨some ⟨.null, .null, .null, .arr (rules.map .str), .null⟩, .null⟩

theorem getblocktemplate_version_cachedStatics :
    ∃ res, (getblocktemplate samplePowHashes twoDeploymentConfig genesisView syncedStatus
        cachedStatics (rulesRequest ["segwit"]) none).outcome = some (.ok (.template res)) ∧
      ∃ setClientRules nMaxVersionPreVB nPowAlgo pindexPrev t,
        gbtPrelude samplePowHashes twoDeploymentConfig genesisView syncedStatus
          (rulesRequest ["segwit"]) = .ok (.template setClientRules nMaxVersionPreVB nPowAlgo) ∧
        (updateBlock genesisView cachedStatics nPowAlgo none).1.pindexPrev = pindexPrev ∧
        (updateBlock genesisView cachedStatics nPowAlgo none).1.pblocktemplate = some t ∧
        res.version = (deploymentStates twoDeploymentConfig pindexPrev).foldl
          (vbVersionStep setClientRules) t.block.nVersion ∧
        ((getblocktemplate samplePowHashes twoDeploymentConfig genesisView syncedStatus
          cachedStatics (rulesRequest ["segwit"]) none).cache.pblocktemplate.map
            fun t => t.block.nVersion) = some res.version :=
  ⟨_, rfl, getblocktemplate_version _ _ _ _ _ _ _ rfl⟩

theorem getblocktemplate_rules_cachedStatics :
    ∃ res, (getblocktemplate samplePowHashes twoDeploymentConfig genesisView syncedStatus
        cachedStatics (rulesRequest ["segwit"]) none).outcome = some (.ok (.template res)) ∧
      ∃ setClientRules nMaxVersionPreVB nPowAlgo pindexPrev,
        gbtPrelude samplePowHashes twoDeploymentConfig genesisView syncedStatus
          (rulesRequest ["segwit"]) = .ok (.template setClientRules nMaxVersionPreVB nPowAlgo) ∧
        (updateBlock genesisView cachedStatics nPowAlgo none).1.pindexPrev = pindexPrev ∧
        res.rules = (twoDeploymentConfig.deployments.filter fun d =>
          twoDeploymentConfig.VersionBitsState pindexPrev d = .ACTIVE).map gbt_vb_name ∧
        res.vbavailable = (twoDeploymentConfig.deployments.filter fun d =>
          twoDeploymentConfig.VersionBitsState pindexPrev d = .STARTED ∨
            twoDeploymentConfig.VersionBitsState pindexPrev d = .LOCKED_IN).map
          (fun d => (gbt_vb_name d, d.bit)) ∧
        ∀ d ∈ twoDeploymentConfig.deployments,
          twoDeploymentConfig.VersionBitsState pindexPrev d = .ACTIVE →
            vbSupported setClientRules d :=
  ⟨_, rfl, getblocktemplate_rules _ _ _ _ _ _ _ rfl⟩

theorem getblocktemplate_signals_cachedStatics :
    (∀ d ∈ twoDeploymentConfig.deployments, d.bit < 32) ∧
    (twoDeploymentConfig.deployments.map VBDeployment.bit).Nodup ∧
    ∃ res, (getblocktemplate samplePowHashes twoDeploymentConfig genesisView syncedStatus
        cachedStatics (rulesRequest ["segwit"]) none).outcome = some (.ok (.template res)) ∧
      ∃ setClientRules nMaxVersionPreVB nPowAlgo pindexPrev,
        gbtPrelude samplePowHashes twoDeploymentConfig genesisView syncedStatus
          (rulesRequest ["segwit"]) = .ok (.template setClientRules nMaxVersionPreVB nPowAlgo) ∧
        (updateBlock genesisView cachedStatics nPowAlgo none).1.pindexPrev = pindexPrev ∧
        ∀ d ∈ twoDeploymentConfig.deployments,
          (twoDeploymentConfig.VersionBitsState pindexPrev d = .LOCKED_IN →
            vbSupported setClientRules d → res.version.getLsbD d.bit = true) ∧
          (twoDeploymentConfig.VersionBitsState pindexPrev d = .STARTED ∨
              twoDeploymentConfig.VersionBitsState pindexPrev d = .LOCKED_IN →
            ¬vbSupported setClientRules d → res.version.getLsbD d.bit = false) :=
  ⟨by decide, by decide, _, rfl,
    getblocktemplate_signals _ _ _ _ _ _ _ (by decide) (by decide) rfl⟩

/-- `twoDeploymentConfig` once `testdummy` has activated too. -/
def testdummyActiveConfig : GbtConfig :=
  { twoDeploymentConfig with VersionBitsState := fun _ _ => .ACTIVE }

theorem getblocktemplate_error_testdummyActive :
    (getblocktemplate samplePowHashes testdummyActiveConfig genesisView syncedStatus cachedStatics
      (rulesRequest ["segwit"]) none).outcome = some (.error ⟨.RPC_INVALID_PARAMETER,
        "Support for 'testdummy' rule requires explicit client support"⟩) ∧
    (gbtPrelude samplePowHashes testdummyActiveConfig genesisView syncedStatus
        (rulesRequest ["segwit"]) = .error ⟨.RPC_INVALID_PARAMETER,
          "Support for 'testdummy' rule requires explicit client support"⟩ ∨
      gbtPrelude samplePowHashes testdummyActiveConfig genesisView syncedStatus
        (rulesRequest ["segwit"]) = .ok (.proposal (.error ⟨.RPC_INVALID_PARAMETER,
          "Support for 'testdummy' rule requires explicit client support"⟩)) ∨
      ∃ setClientRules nMaxVersionPreVB nPowAlgo,
        gbtPrelude samplePowHashes testdummyActiveConfig genesisView syncedStatus
          (rulesRequest ["segwit"]) = .ok (.template setClientRules nMaxVersionPreVB nPowAlgo) ∧
        ((templateStale genesisView cachedStatics nPowAlgo = true ∧ (none : Option CBlockTemplate) = none ∧
            (⟨.RPC_INVALID_PARAMETER, "Support for 'testdummy' rule requires explicit client support"⟩ :
              JSONRPCError) = ⟨.RPC_OUT_OF_MEMORY, "Out of memory"⟩) ∨
          ∃ d ∈ testdummyActiveConfig.deployments,
            testdummyActiveConfig.VersionBitsState
              (updateBlock genesisView cachedStatics nPowAlgo none).1.pindexPrev d = .ACTIVE ∧
            ¬vbSupported setClientRules d ∧
            (⟨.RPC_INVALID_PARAMETER, "Support for 'testdummy' rule requires explicit client support"⟩ :
              JSONRPCError) = ⟨.RPC_INVALID_PARAMETER,
              "Support for '" ++ d.name ++ "' rule requires explicit client support"⟩)) :=
  ⟨rfl, getblocktemplate_error _ _ _ _ _ _ _ rfl⟩

end VelesMining
