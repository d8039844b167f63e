import VelesMining.Rpc.Template.Cache

/-!
# The version of a served template

`getblocktemplate` keeps one assembled block and edits its version in place at every call, with
the deployment loop, so one call's edits are what the next call starts from. These edits touch
only the deployments' bits. `cachedFromLastAssembly_of_reachable`: in every reachable world the cached
block is the last `CreateNewBlock` result with at most the deployments' bits of its version
changed. So a template answer's version is the assembler's on every other bit
(`getblocktemplate_version_frame`). On the deployments' bits it is not: a request for a client
that names a started deployment gets its bit from a fresh template, but not after a request for a
client that does not name it (`getblocktemplate_version_carried_over`).

A Veles block carries its proof-of-work algorithm in its version, `nVersion & ALGO_VERSION_MASK`,
and the cache is rebuilt when a request asks for another algorithm than the cached one
(`nPowAlgo != nTemplatePowAlgo`). `AlgoRun` is a run of the cache in which
`CreateNewBlock(scriptDummy, nPowAlgo)` builds its block with `nPowAlgo` in the algorithm field;
each such run is a run of the cache (`AlgoRun.reachable`). With no deployment bit in the field,
the cached block's algorithm field is the cached algorithm along it
(`cachedAlgoField_of_algoRun`). So every template a call answers with has the algorithm the call
asked for (`getblocktemplate_algo`).
-/

namespace VelesMining

/-- `v'` is `v` with at most the bits of the deployments changed. -/
def KeepsOtherBits (cfg : GbtConfig) (v v' : BitVec 32) : Prop :=
  ∀ i, (∀ d ∈ cfg.deployments, d.bit ≠ i) → v'.getLsbD i = v.getLsbD i

theorem KeepsOtherBits.refl (cfg : GbtConfig) (v : BitVec 32) : KeepsOtherBits cfg v v :=
  fun _ _ => rfl

theorem KeepsOtherBits.trans {cfg : GbtConfig} {v v' v'' : BitVec 32}
    (h : KeepsOtherBits cfg v v') (h' : KeepsOtherBits cfg v' v'') : KeepsOtherBits cfg v v'' :=
  fun i hi => (h' i hi).trans (h i hi)

theorem keepsOtherBits_foldl {cfg : GbtConfig} (setClientRules : List String)
    {deps : List (VBDeployment × ThresholdState)} (hdeps : ∀ ds ∈ deps, ds.1 ∈ cfg.deployments)
    (v : BitVec 32) : KeepsOtherBits cfg v (deps.foldl (vbVersionStep setClientRules) v) :=
  fun _ hi => getLsbD_foldl_vbVersionStep_of_ne _ _ _ _ fun ds hds => hi ds.1 (hdeps ds hds)

theorem mem_deploymentStates {cfg : GbtConfig} {pindexPrev : BlockPtr}
    {ds : VBDeployment × ThresholdState} (h : ds ∈ deploymentStates cfg pindexPrev) :
    ds.1 ∈ cfg.deployments := by
  obtain ⟨d, hd, rfl⟩ := List.mem_map.mp h
  exact hd

theorem templateBody_keepsOtherBits {cfg : GbtConfig} {view : ChainView} {c : TemplateCache}
    {setClientRules : List String} {nMaxVersionPreVB : Int} {t' : CBlockTemplate}
    (h : (templateBody cfg view c setClientRules nMaxVersionPreVB).1.pblocktemplate = some t') :
    ∃ t, c.pblocktemplate = some t ∧ KeepsOtherBits cfg t.block.nVersion t'.block.nVersion := by
  obtain ⟨t, n, ht, hv⟩ := templateBody_cachedVersion cfg view c setClientRules nMaxVersionPreVB h
  exact ⟨t, ht, hv ▸ keepsOtherBits_foldl setClientRules
    (fun ds hds => mem_deploymentStates (List.mem_of_mem_take hds)) _⟩

/-! ### Over every run -/

/-- The cached block is the result of the last `CreateNewBlock` call with at most the deployments'
bits of its version changed. -/
def CachedFromLastAssembly (cfg : GbtConfig) (w : World) : Prop :=
  ∀ t', w.cache.pblocktemplate = some t' → ∃ r t, w.lastCreate = some r ∧ r.result = some t ∧
    KeepsOtherBits cfg t.block.nVersion t'.block.nVersion

theorem CachedFromLastAssembly.updateBlock {cfg : GbtConfig} {w : World} {nPowAlgo : BitVec 32}
    {assembled : Option CBlockTemplate} (hi : CachedFromLastAssembly cfg w) :
    CachedFromLastAssembly cfg { w with
      cache := (VelesMining.updateBlock w.view w.cache nPowAlgo assembled).1,
      lastCreate :=
        (VelesMining.updateBlock w.view w.cache nPowAlgo assembled).2.2.or w.lastCreate } := by
  rcases @updateBlock_cases w.view w.cache nPowAlgo assembled with ⟨-, h⟩ | ⟨-, h, hcreated⟩
  · simpa [h] using hi
  · rintro t' ht'
    rw [h] at ht'
    exact ⟨_, t', by rw [hcreated]; rfl, ht', .refl cfg _⟩

theorem CachedFromLastAssembly.call {H : PowHashes} {cfg : GbtConfig} {w : World}
    {status : NodeStatus} {params : GbtParams} {assembled : Option CBlockTemplate}
    (hi : CachedFromLastAssembly cfg w) :
    CachedFromLastAssembly cfg
      (w.afterCall (getblocktemplate H cfg w.view status w.cache params assembled)) := by
  unfold World.afterCall getblocktemplate
  split
  · simpa using hi
  · simpa using hi
  · rename_i setClientRules nMaxVersionPreVB nPowAlgo _
    dsimp only
    split
    · exact hi.updateBlock
    · intro t' ht'
      obtain ⟨t, ht, hk⟩ := templateBody_keepsOtherBits ht'
      obtain ⟨r, t₀, hr, hres, hk₀⟩ := hi.updateBlock t ht
      exact ⟨r, t₀, hr, hres, hk₀.trans hk⟩

theorem cachedFromLastAssembly_of_reachable {H : PowHashes} {cfg : GbtConfig} {w : World}
    (hw : Reachable H cfg w) : CachedFromLastAssembly cfg w := by
  induction hw with
  | init => rintro _ ⟨⟩
  | step _ hs ih =>
    cases hs with
    | tipChange => exact ih
    | mempoolBump => exact ih
    | clock => exact ih
    | call => exact ih.call

/-- In every reachable world, the version of a template answer differs from the version the
last `CreateNewBlock` call gave the block only in the deployments' bits: the in-place edits of
earlier calls never reach the algorithm field or the top bits. -/
theorem getblocktemplate_version_frame {H : PowHashes} {cfg : GbtConfig} {w : World}
    (hw : Reachable H cfg w) {status : NodeStatus} {params : GbtParams}
    {assembled : Option CBlockTemplate} {res : BlockTemplateResult}
    (h : (getblocktemplate H cfg w.view status w.cache params assembled).outcome =
      some (.ok (.template res))) :
    ∃ r t, (w.afterCall (getblocktemplate H cfg w.view status w.cache params assembled)).lastCreate =
        some r ∧ r.result = some t ∧
      ∀ i, (∀ d ∈ cfg.deployments, d.bit ≠ i) → res.version.getLsbD i = t.block.nVersion.getLsbD i := by
  obtain ⟨setClientRules, nMaxVersionPreVB, nPowAlgo, -, -, hbody, hcache, -⟩ :=
    getblocktemplate_template H cfg w.view status w.cache params assembled h
  obtain ⟨prev, rest, t, -, -, -, -, -, hbody1⟩ := templateBody_template cfg w.view _ _ _ hbody
  exact (cachedFromLastAssembly_of_reachable hw).call _ (by
    show (getblocktemplate H cfg w.view status w.cache params assembled).cache.pblocktemplate = _
    rw [hcache, hbody1])

theorem getblocktemplate_version_frame_builtWorld :
    Reachable samplePowHashes twoDeploymentConfig builtWorld ∧
    ∃ res, (getblocktemplate samplePowHashes twoDeploymentConfig builtWorld.view syncedStatus
        builtWorld.cache (rulesRequest ["segwit"]) none).outcome = some (.ok (.template res)) ∧
      ∃ r t, (builtWorld.afterCall (getblocktemplate samplePowHashes twoDeploymentConfig
          builtWorld.view syncedStatus builtWorld.cache (rulesRequest ["segwit"]) none)).lastCreate =
        some r ∧ r.result = some t ∧
        ∀ i, (∀ d ∈ twoDeploymentConfig.deployments, d.bit ≠ i) →
          res.version.getLsbD i = t.block.nVersion.getLsbD i :=
  have hw : Reachable samplePowHashes twoDeploymentConfig builtWorld :=
    .step (.init genesisView) (.call _ syncedStatus (rulesRequest ["segwit"]) (some genesisTemplate)
      fun _ h => by cases h; rfl)
  ⟨hw, _, rfl, getblocktemplate_version_frame hw rfl⟩

/-- The block `CreateNewBlock` assembles on `genesisView` while `testdummy` is started: its
version signals bit 28. -/
def signallingTemplate : CBlockTemplate := withVersion genesisTemplate 0x30000000

/-- The world after a first call on `genesisView`, by a client that names `testdummy`, which built
`signallingTemplate`. -/
def signalledWorld : World :=
  World.afterCall ⟨genesisView, TemplateCache.init, none⟩
    (getblocktemplate samplePowHashes twoDeploymentConfig genesisView syncedStatus
      TemplateCache.init (rulesRequest ["segwit", "testdummy"]) (some signallingTemplate))

/-- `signalledWorld` after a request served from the cache for a client that does not name
`testdummy`. -/
def clearedWorld : World :=
  signalledWorld.afterCall (getblocktemplate samplePowHashes twoDeploymentConfig
    signalledWorld.view syncedStatus signalledWorld.cache (rulesRequest ["segwit"]) none)

/-- Two requests naming `testdummy`, served without a rebuild from the template assembled on the
tip with its bit set: right after the build the request gets the bit, but after a request that
did not name `testdummy` it does not, as that request cleared the bit in the cached block. -/
theorem getblocktemplate_version_carried_over :
    Reachable samplePowHashes twoDeploymentConfig clearedWorld ∧
    signalledWorld.lastCreate =
      some ⟨genesisView.chain.Tip, 0, 7, 1000, some signallingTemplate⟩ ∧
    clearedWorld.lastCreate = signalledWorld.lastCreate ∧
    (getblocktemplate samplePowHashes twoDeploymentConfig signalledWorld.view syncedStatus
      signalledWorld.cache (rulesRequest ["segwit", "testdummy"]) none).created = none ∧
    (∃ res, (getblocktemplate samplePowHashes twoDeploymentConfig signalledWorld.view syncedStatus
        signalledWorld.cache (rulesRequest ["segwit", "testdummy"]) none).outcome =
          some (.ok (.template res)) ∧ res.version = 0x30000000) ∧
    (getblocktemplate samplePowHashes twoDeploymentConfig clearedWorld.view syncedStatus
      clearedWorld.cache (rulesRequest ["segwit", "testdummy"]) none).created = none ∧
    (∃ res, (getblocktemplate samplePowHashes twoDeploymentConfig clearedWorld.view syncedStatus
        clearedWorld.cache (rulesRequest ["segwit", "testdummy"]) none).outcome =
          some (.ok (.template res)) ∧ res.version = 0x20000000) ∧
    (deploymentStates twoDeploymentConfig genesisView.chain.Tip).foldl
      (vbVersionStep ["segwit", "testdummy"]) signallingTemplate.block.nVersion = 0x30000000 :=
  ⟨.step (.step (.init genesisView) (.call _ syncedStatus (rulesRequest ["segwit", "testdummy"])
      (some signallingTemplate) fun _ h => by cases h; rfl))
      (.call _ syncedStatus (rulesRequest ["segwit"]) none fun _ h => by cases h),
    rfl, rfl, rfl, ⟨_, rfl, by decide⟩, rfl, ⟨_, rfl, by decide⟩, by decide⟩

/-! ### The algorithm field -/

theorem KeepsOtherBits.algoOf {K : AlgoConstants} {cfg : GbtConfig} {v v' : BitVec 32}
    (hmask : ∀ d ∈ cfg.deployments, K.ALGO_VERSION_MASK.getLsbD d.bit = false)
    (h : KeepsOtherBits cfg v v') : VelesMining.algoOf K v' = VelesMining.algoOf K v := by
  apply BitVec.eq_of_getLsbD_eq
  intro i
  simp only [VelesMining.algoOf, BitVec.getLsbD_and]
  cases hi : K.ALGO_VERSION_MASK.getLsbD i
  · simp
  · rw [h i fun d hd he => by rw [← he, hmask d hd] at hi; cases hi]

variable {K : AlgoConstants}

/-- `CreateNewBlock(scriptDummy, nPowAlgo)` (`miner.cpp`) builds its block with the algorithm
the request asks for in the algorithm field of the version. -/
def AssembledForAlgo (K : AlgoConstants) (cfg : GbtConfig) (params : GbtParams)
    (assembled : Option CBlockTemplate) : Prop :=
  ∀ t nPowAlgo, assembled = some t → requestedAlgo cfg.algos params.algo = .ok nPowAlgo →
    algoOf K t.block.nVersion = nPowAlgo

/-- The runs of the template cache whose assembler builds for the algorithm of its call. -/
inductive AlgoRun (K : AlgoConstants) (H : PowHashes) (cfg : GbtConfig) : World → Prop
  | init (view : ChainView) : AlgoRun K H cfg ⟨view, TemplateCache.init, none⟩
  | tipChange {w : World} (chain : CChain) (h : chain.Tip ≠ []) : AlgoRun K H cfg w →
      AlgoRun K H cfg { w with view := { w.view with chain := chain, tip_ne := h } }
  | mempoolBump {w : World} : AlgoRun K H cfg w →
      AlgoRun K H cfg { w with view := { w.view with mempoolRev := w.view.mempoolRev + 1 } }
  | clock {w : World} (time : Int) : AlgoRun K H cfg w →
      AlgoRun K H cfg { w with view := { w.view with time := time } }
  | call {w : World} (status : NodeStatus) (params : GbtParams)
      (assembled : Option CBlockTemplate) : AlgoRun K H cfg w → AssembledOnTip w.view assembled →
      AssembledForAlgo K cfg params assembled →
      AlgoRun K H cfg (w.afterCall (getblocktemplate H cfg w.view status w.cache params assembled))

theorem AlgoRun.reachable {H : PowHashes} {cfg : GbtConfig} {w : World} (hw : AlgoRun K H cfg w) :
    Reachable H cfg w := by
  induction hw with
  | init view => exact .init view
  | tipChange chain h _ ih => exact .step ih (.tipChange _ chain h)
  | mempoolBump _ ih => exact .step ih (.mempoolBump _)
  | clock time _ ih => exact .step ih (.clock _ time)
  | call status params assembled _ hasm _ ih => exact .step ih (.call _ status params assembled hasm)

/-- The cached block's algorithm field is the cached algorithm. -/
def CachedAlgoField (K : AlgoConstants) (c : TemplateCache) : Prop :=
  ∀ t, c.pblocktemplate = some t → algoOf K t.block.nVersion = c.nTemplatePowAlgo

theorem updateBlock_nTemplatePowAlgo (view : ChainView) (c : TemplateCache) (nPowAlgo : BitVec 32)
    (assembled : Option CBlockTemplate) :
    (updateBlock view c nPowAlgo assembled).1.nTemplatePowAlgo = nPowAlgo := by
  rcases updateBlock_cases assembled with ⟨hs, h⟩ | ⟨-, h, -⟩
  · rw [h]
    simp only [templateStale, decide_eq_false_iff_not, not_or, not_not] at hs
    exact hs.2.2.symm
  · rw [h]

section Call

variable {H : PowHashes} {cfg : GbtConfig} {view : ChainView} {status : NodeStatus}
  {c : TemplateCache} {params : GbtParams} {assembled : Option CBlockTemplate}

theorem CachedAlgoField.updateBlock {nPowAlgo : BitVec 32} (hc : CachedAlgoField K c)
    (hasm : ∀ t, assembled = some t → algoOf K t.block.nVersion = nPowAlgo) :
    CachedAlgoField K (updateBlock view c nPowAlgo assembled).1 := by
  rcases @updateBlock_cases view c nPowAlgo assembled with ⟨-, h⟩ | ⟨-, h, -⟩
  · rwa [h]
  · rw [h]
    exact hasm

theorem CachedAlgoField.templateBody
    (hmask : ∀ d ∈ cfg.deployments, K.ALGO_VERSION_MASK.getLsbD d.bit = false)
    (hc : CachedAlgoField K c) (setClientRules : List String) (nMaxVersionPreVB : Int) :
    CachedAlgoField K (templateBody cfg view c setClientRules nMaxVersionPreVB).1 := by
  intro t' ht'
  obtain ⟨t, ht, hk⟩ := templateBody_keepsOtherBits ht'
  obtain ⟨_, hbody, -⟩ := templateBody_cache cfg view c setClientRules nMaxVersionPreVB
  rw [hk.algoOf hmask, hc t ht, hbody]

theorem CachedAlgoField.call
    (hmask : ∀ d ∈ cfg.deployments, K.ALGO_VERSION_MASK.getLsbD d.bit = false)
    (hc : CachedAlgoField K c) (halgo : AssembledForAlgo K cfg params assembled) :
    CachedAlgoField K (getblocktemplate H cfg view status c params assembled).cache := by
  unfold getblocktemplate
  split
  · exact hc
  · exact hc
  · rename_i setClientRules nMaxVersionPreVB nPowAlgo hp
    have hu : CachedAlgoField K (VelesMining.updateBlock view c nPowAlgo assembled).1 :=
      hc.updateBlock fun t ht => halgo t nPowAlgo ht (gbtPrelude_template hp)
    dsimp only
    split
    · exact hu
    · exact hu.templateBody hmask setClientRules nMaxVersionPreVB

end Call

theorem cachedAlgoField_of_algoRun {H : PowHashes} {cfg : GbtConfig} {w : World}
    (hmask : ∀ d ∈ cfg.deployments, K.ALGO_VERSION_MASK.getLsbD d.bit = false)
    (hw : AlgoRun K H cfg w) : CachedAlgoField K w.cache := by
  induction hw with
  | init => rintro _ ⟨⟩
  | tipChange _ _ _ ih => exact ih
  | mempoolBump _ ih => exact ih
  | clock _ _ ih => exact ih
  | call _ _ _ _ _ halgo ih => exact ih.call hmask halgo

/-- In every run whose assembler builds for the requested algorithm, and with no deployment bit
in the algorithm field, a call that answers with a template answers with one whose algorithm
field is the algorithm it asked for: the cached block is rebuilt for another algorithm, and the
version edits of earlier calls leave the field alone. -/
theorem getblocktemplate_algo {H : PowHashes} {cfg : GbtConfig} {w : World} {status : NodeStatus}
    {params : GbtParams} {assembled : Option CBlockTemplate}
    (hmask : ∀ d ∈ cfg.deployments, K.ALGO_VERSION_MASK.getLsbD d.bit = false)
    (hw : AlgoRun K H cfg w) (halgo : AssembledForAlgo K cfg params assembled)
    {res : BlockTemplateResult}
    (h : (getblocktemplate H cfg w.view status w.cache params assembled).outcome =
      some (.ok (.template res))) :
    requestedAlgo cfg.algos params.algo = .ok (algoOf K res.version) := by
  obtain ⟨setClientRules, nMaxVersionPreVB, nPowAlgo, hp, -, hbody, -, -⟩ :=
    getblocktemplate_template H cfg w.view status w.cache params assembled h
  obtain ⟨prev, rest, t, -, ht, -, -, hver, -⟩ := templateBody_template cfg w.view _ _ _ hbody
  have hu : CachedAlgoField K (updateBlock w.view w.cache nPowAlgo assembled).1 :=
    (cachedAlgoField_of_algoRun hmask hw).updateBlock fun t ht =>
      halgo t nPowAlgo ht (gbtPrelude_template hp)
  rw [gbtPrelude_template hp, hver, (keepsOtherBits_foldl setClientRules
    (fun _ => mem_deploymentStates) _).algoOf hmask, hu t ht, updateBlock_nTemplatePowAlgo]

theorem getblocktemplate_algo_builtWorld :
    (∀ d ∈ twoDeploymentConfig.deployments,
      sampleAlgoConstants.ALGO_VERSION_MASK.getLsbD d.bit = false) ∧
    AlgoRun sampleAlgoConstants samplePowHashes twoDeploymentConfig builtWorld ∧
    AssembledForAlgo sampleAlgoConstants twoDeploymentConfig (rulesRequest ["segwit"]) none ∧
    ∃ res, (getblocktemplate samplePowHashes twoDeploymentConfig builtWorld.view syncedStatus
        builtWorld.cache (rulesRequest ["segwit"]) none).outcome = some (.ok (.template res)) ∧
      requestedAlgo twoDeploymentConfig.algos (rulesRequest ["segwit"]).algo =
        .ok (algoOf sampleAlgoConstants res.version) :=
  have hrun : AlgoRun sampleAlgoConstants samplePowHashes twoDeploymentConfig builtWorld :=
    .call syncedStatus (rulesRequest ["segwit"]) (some genesisTemplate) (.init genesisView)
      (fun _ h => by cases h; rfl) (fun _ _ h hr => by cases h; cases hr; decide)
  ⟨by decide, hrun, (fun _ _ h => by cases h), _, rfl,
    @getblocktemplate_algo _ _ _ _ syncedStatus _ none (by decide) hrun (fun _ _ h => by cases h) _
      rfl⟩

end VelesMining
