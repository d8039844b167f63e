import VelesMining.Rpc.Template.GetBlockTemplate

/-!
# The template cache over whole runs

The statics of `getblocktemplate` are shared by every call, while blocks are connected, the
mempool changes and the clock moves between calls. `World` is the chain state, the statics, and
(a ghost) the last `CreateNewBlock` call; `Step` is one of these events or one call, which runs
atomically under `cs_main` from the end of its long-poll wait; a call's `CreateNewBlock` may fail.

`cacheCoherent_of_reachable`: in every reachable world a non-null `pindexPrev` comes with the
template of the last `CreateNewBlock` call, made on it for the cached algorithm at the cached
counter and time; the cached template is that one with its header edited. From this,
`call_template_on_tip`: a call that answers with a template answers with one assembled on the
current tip, for the algorithm it asked for, at the current mempool counter or at most five
seconds ago. Clearing `pindexPrev` before the assembler runs is what keeps the first fact across
a failed rebuild: the statics then name no template, and the next call rebuilds.
-/

namespace VelesMining

/-- The state the statics live in: the chain state that calls read, the statics, and the most
recent `CreateNewBlock` call. -/
structure World where
  view : ChainView
  cache : TemplateCache
  lastCreate : Option CreateNewBlockCall

/-- `CreateNewBlock` (`miner.cpp`) builds on `chainActive.Tip()`: a template it returns has the
tip's hash as the previous block. -/
def AssembledOnTip (view : ChainView) (assembled : Option CBlockTemplate) : Prop :=
  ∀ t, assembled = some t → t.block.hashPrevBlock = view.tip.hash

/-- The world after a call: its statics, and its `CreateNewBlock` call if it made one. -/
def World.afterCall (w : World) (call : GbtCall) : World :=
  { w with cache := call.cache, lastCreate := call.created.or w.lastCreate }

/-- The events: the active chain changes (a block is connected or the chain reorganises), the
mempool counter moves on, the clock is set, or a call runs. -/
inductive Step (H : PowHashes) (cfg : GbtConfig) : World → World → Prop
  | tipChange (w : World) (chain : CChain) (h : chain.Tip ≠ []) :
      Step H cfg w { w with view := { w.view with chain := chain, tip_ne := h } }
  | mempoolBump (w : World) :
      Step H cfg w { w with view := { w.view with mempoolRev := w.view.mempoolRev + 1 } }
  | clock (w : World) (time : Int) :
      Step H cfg w { w with view := { w.view with time := time } }
  | call (w : World) (status : NodeStatus) (params : GbtParams)
      (assembled : Option CBlockTemplate) (h : AssembledOnTip w.view assembled) :
      Step H cfg w (w.afterCall (getblocktemplate H cfg w.view status w.cache params assembled))

/-- The worlds a node goes through from zeroed statics. -/
inductive Reachable (H : PowHashes) (cfg : GbtConfig) : World → Prop
  | init (view : ChainView) : Reachable H cfg ⟨view, TemplateCache.init, none⟩
  | step {w w' : World} : Reachable H cfg w → Step H cfg w w' → Reachable H cfg w'

/-- A non-null `pindexPrev` comes with the template of the last `CreateNewBlock` call, which
succeeded on it, for the cached algorithm, at the cached counter and time, and built on its first
entry; the cached template is that template with its header edited. -/
def CacheCoherent (w : World) : Prop :=
  ∀ prev rest, w.cache.pindexPrev = prev :: rest → ∃ t t',
    w.lastCreate = some ⟨prev :: rest, w.cache.nTemplatePowAlgo, w.cache.nTransactionsUpdatedLast,
      w.cache.nStart, some t⟩ ∧
    t.block.hashPrevBlock = prev.hash ∧ w.cache.pblocktemplate = some t' ∧ SameAssembly t t'

theorem ChainView.tip_of_Tip_eq {view : ChainView} {prev : CBlockIndex} {rest : BlockPtr}
    (h : view.chain.Tip = prev :: rest) : view.tip = prev := by
  obtain ⟨_, htip⟩ := view.Tip_eq
  rw [htip] at h
  exact (List.cons.inj h).1

section Call

variable {H : PowHashes} {cfg : GbtConfig} {w : World} {status : NodeStatus} {params : GbtParams}
  {assembled : Option CBlockTemplate}

theorem CacheCoherent.call (hi : CacheCoherent w) (hasm : AssembledOnTip w.view assembled) :
    CacheCoherent (w.afterCall (getblocktemplate H cfg w.view status w.cache params assembled)) := by
  obtain ⟨c₀, tmpl', hcache, hrel, hc₀⟩ :=
    getblocktemplate_cache H cfg w.view status w.cache params assembled
  intro prev rest hp
  simp only [World.afterCall, hcache] at hp ⊢
  rcases hc₀ with ⟨rfl, hcreated⟩ | ⟨nPowAlgo, rfl, hcreated⟩
  · -- no rebuild: the last assembly stays, and the call only edits its header
    obtain ⟨t, t', hlast, hhash, ht', hsame⟩ := hi prev rest hp
    rw [ht'] at hrel
    obtain ⟨t'', rfl, hsame'⟩ : ∃ t'', tmpl' = some t'' ∧ SameAssembly t' t'' := by
      cases hrel; exact ⟨_, rfl, ‹_›⟩
    exact ⟨t, t'', by rw [hcreated, Option.none_or, hlast], hhash, rfl, hsame.trans hsame'⟩
  · -- a rebuild that succeeded on the tip
    cases assembled with
    | none => simp at hp
    | some t =>
      simp only [Option.isSome_some, if_true] at hp hrel
      obtain ⟨t', rfl, hsame⟩ : ∃ t', tmpl' = some t' ∧ SameAssembly t t' := by
        cases hrel; exact ⟨_, rfl, ‹_›⟩
      refine ⟨t, t', by rw [hcreated, Option.or_some, hp], ?_, rfl, hsame⟩
      rw [hasm t rfl, ChainView.tip_of_Tip_eq hp]

theorem call_template_on_tip (hi : CacheCoherent w) (hasm : AssembledOnTip w.view assembled)
    {res : BlockTemplateResult}
    (h : (getblocktemplate H cfg w.view status w.cache params assembled).outcome =
      some (.ok (.template res))) :
    res.previousblockhash = GetHex w.view.tip.hash ∧ res.height = (w.view.tip.nHeight + 1).toInt ∧
      ∃ r, (w.afterCall (getblocktemplate H cfg w.view status w.cache params assembled)).lastCreate =
          some r ∧
        r.pindexPrev = w.view.chain.Tip ∧ requestedAlgo cfg.algos params.algo = .ok r.nPowAlgo ∧
        r.result.isSome ∧ (r.nTransactionsUpdated = w.view.mempoolRev ∨ w.view.time - r.nTime ≤ 5) := by
  obtain ⟨setClientRules, nMaxVersionPreVB, nPowAlgo, hp, hu, hbody, -, hcreated⟩ :=
    getblocktemplate_template H cfg w.view status w.cache params assembled h
  have halgo := gbtPrelude_template hp
  obtain ⟨prev, rest, t, hprev, ht, hres, hheight, -, -⟩ := templateBody_template cfg w.view _ _ _ hbody
  simp only [World.afterCall, hcreated]
  cases hs : templateStale w.view w.cache nPowAlgo
  · -- served from the cache: coherence names the last assembly
    simp only [updateBlock_of_fresh assembled hs] at hprev ht ⊢
    simp only [templateStale, ne_eq, gt_iff_lt, decide_eq_false_iff_not, not_or, not_and,
      not_lt, not_not] at hs
    obtain ⟨hTip, hfresh, rfl⟩ := hs
    obtain ⟨t₀, t', hlast, hhash, ht', hsame⟩ := hi prev rest hprev
    have htip := ChainView.tip_of_Tip_eq (hTip ▸ hprev)
    cases ht.symm.trans ht'
    refine ⟨by rw [hres, hsame.hashPrevBlock, hhash, htip], by rw [hheight, htip], _, hlast,
      hprev.symm.trans hTip, halgo, rfl, ?_⟩
    by_cases hrev : w.view.mempoolRev = w.cache.nTransactionsUpdatedLast
    · exact .inl hrev.symm
    · exact .inr (hfresh hrev)
  · -- rebuilt on the tip
    cases assembled with
    | none => simp [updateBlock_of_stale_none hs] at hu
    | some t₁ =>
      simp only [updateBlock_of_stale_some t₁ hs, Option.some.injEq] at hprev ht ⊢
      subst ht
      have htip := ChainView.tip_of_Tip_eq hprev
      exact ⟨by rw [hres, hasm _ rfl], by rw [hheight, htip], _, rfl, rfl, halgo, rfl, .inl rfl⟩

end Call

theorem CacheCoherent.step {H : PowHashes} {cfg : GbtConfig} {w w' : World}
    (hi : CacheCoherent w) (hs : Step H cfg w w') : CacheCoherent w' := by
  cases hs with
  | tipChange => exact hi
  | mempoolBump => exact hi
  | clock => exact hi
  | call _ _ _ hasm => exact hi.call hasm

theorem cacheCoherent_of_reachable {H : PowHashes} {cfg : GbtConfig} {w : World}
    (hw : Reachable H cfg w) : CacheCoherent w := by
  induction hw with
  | init => intro _ _ h; cases h
  | step _ hs ih => exact ih.step hs

/-- Every reachable world has coherent statics, and a call from it that answers with a template
answers with one assembled on the current tip (its previous hash and height are the tip's), for
the algorithm the call asked for, at the current mempool counter or at most five seconds ago. -/
theorem templateCache_sound {H : PowHashes} {cfg : GbtConfig} {w : World}
    (hw : Reachable H cfg w) :
    CacheCoherent w ∧
    ∀ (status : NodeStatus) (params : GbtParams) (assembled : Option CBlockTemplate)
      (res : BlockTemplateResult), AssembledOnTip w.view assembled →
      (getblocktemplate H cfg w.view status w.cache params assembled).outcome =
        some (.ok (.template res)) →
      res.previousblockhash = GetHex w.view.tip.hash ∧ res.height = (w.view.tip.nHeight + 1).toInt ∧
      ∃ r, (w.afterCall (getblocktemplate H cfg w.view status w.cache params assembled)).lastCreate =
          some r ∧
        r.pindexPrev = w.view.chain.Tip ∧ requestedAlgo cfg.algos params.algo = .ok r.nPowAlgo ∧
        r.result.isSome ∧ (r.nTransactionsUpdated = w.view.mempoolRev ∨ w.view.time - r.nTime ≤ 5) :=
  ⟨cacheCoherent_of_reachable hw, fun _ _ _ _ hasm h =>
    call_template_on_tip (cacheCoherent_of_reachable hw) hasm h⟩

/-- A template assembled on the tip of `genesisView`. -/
def genesisTemplate : CBlockTemplate :=
  { sampleTemplate with block := { sampleTemplate.block with hashPrevBlock := genesisIndex.hash } }

/-- The world after a first call on `genesisView`, which built `genesisTemplate`. -/
def builtWorld : World :=
  World.afterCall ⟨genesisView, TemplateCache.init, none⟩
    (getblocktemplate samplePowHashes twoDeploymentConfig genesisView syncedStatus
      TemplateCache.init (rulesRequest ["segwit"]) (some genesisTemplate))

theorem templateCache_sound_builtWorld :
    Reachable samplePowHashes twoDeploymentConfig builtWorld ∧
    (∃ res, (getblocktemplate samplePowHashes twoDeploymentConfig builtWorld.view syncedStatus
        builtWorld.cache (rulesRequest ["segwit"]) none).outcome = some (.ok (.template res))) ∧
    CacheCoherent builtWorld ∧
    ∀ (status : NodeStatus) (params : GbtParams) (assembled : Option CBlockTemplate)
      (res : BlockTemplateResult), AssembledOnTip builtWorld.view assembled →
      (getblocktemplate samplePowHashes twoDeploymentConfig builtWorld.view status builtWorld.cache
        params assembled).outcome = some (.ok (.template res)) →
      res.previousblockhash = GetHex builtWorld.view.tip.hash ∧
      res.height = (builtWorld.view.tip.nHeight + 1).toInt ∧
      ∃ r, (builtWorld.afterCall (getblocktemplate samplePowHashes twoDeploymentConfig
          builtWorld.view status builtWorld.cache params assembled)).lastCreate = some r ∧
        r.pindexPrev = builtWorld.view.chain.Tip ∧
        requestedAlgo twoDeploymentConfig.algos params.algo = .ok r.nPowAlgo ∧
        r.result.isSome ∧
        (r.nTransactionsUpdated = builtWorld.view.mempoolRev ∨
          builtWorld.view.time - r.nTime ≤ 5) :=
  have hw : Reachable samplePowHashes twoDeploymentConfig builtWorld :=
    .step (.init genesisView) (.call _ syncedStatus (rulesRequest ["segwit"]) (some genesisTemplate)
      fun _ h => by cases h; rfl)
  ⟨hw, ⟨_, rfl⟩, templateCache_sound hw⟩

end VelesMining
