import VelesMining.Chain

/-!
# `GetNetworkHashPS`

The estimate walks `lookup` entries back from a start entry `pb` to `pb0`, tracking the least
and greatest block time, then divides the per-algorithm work between the most recent blocks of
`nAlgo` at or below `pb` and `pb0` by the time span. The model returns `none` where the C++
dereferences `nullptr` or takes `pb->nHeight % DifficultyAdjustmentInterval()` of a zero
interval, and keeps the final floating-point quotient as its two operands.

* `GetNetworkHashPS_run` says what a call can do: return early, stop at the zero interval, or
  walk a window of `clampLookup` steps (`walkBack`) and divide.
* On a well-formed chain with a positive interval the call always returns, and a quotient
  divides by a positive time span (`GetNetworkHashPS_safe`). Either it returns 0 with no `pprev`
  step taken, or the window lies in `[1, pb->nHeight]` and the walk ends at height
  `pb->nHeight - lookup` (`GetNetworkHashPS_clamped_walk`). The window is non-positive only where
  `nHeight % interval + 1`, computed in `int64_t`, is `2^31` and wraps in the `int` it is stored
  in; elsewhere it lies in `[1, pb->nHeight]` (`GetNetworkHashPS_window`).
* With every `nChainWorkAlgo` accounted as `W` of its own algorithm, the work difference is
  the work of the window's `nAlgo` blocks, except when no block of `nAlgo` lies at or below
  `pb0` while one lies above it: the lower back-scan then falls through to the genesis entry
  and subtracts its own-algorithm work (`GetNetworkHashPS_genesis_fallthrough`).
-/

namespace VelesMining

/-- What `GetNetworkHashPS` returns: `0`, or `workDiff.getdouble() / timeDiff`, kept as its two
operands. -/
inductive NetworkHashPS where
  | zero
  | quotient (workDiff : Uint256) (timeDiff : Int)
  deriving DecidableEq, Repr

/-- `pb`: `chainActive[height]` for `0 <= height < chainActive.Height()`, else the tip. -/
def startBlock (chain : CChain) (height : BitVec 32) : BlockPtr :=
  if 0 ≤ height.toInt ∧ height.toInt < chain.Height.toInt then chain.get height else chain.Tip

/-- The window length: a non-positive `lookup` becomes `nHeight % interval + 1`, computed in
`int64_t` and stored in an `int`; a `lookup` above `nHeight` becomes `nHeight`. At a zero
interval the C++ `%` divides by zero; `GetNetworkHashPS` stops there before it asks for this
value. -/
def clampLookup (interval : Int) (nHeight lookup : BitVec 32) : BitVec 32 :=
  let lookup :=
    if lookup.toInt ≤ 0 then BitVec.ofInt 32 (Int.tmod nHeight.toInt interval + 1) else lookup
  if lookup.toInt > nHeight.toInt then nHeight else lookup

/-- The loop `pb0 = pb0->pprev; time = pb0->GetBlockTime(); …` run `k` times; `none` when a
step reaches `nullptr`. -/
def walkBack : Nat → BlockPtr → Int → Int → Option (BlockPtr × Int × Int)
  | 0, pb0, minTime, maxTime => some (pb0, minTime, maxTime)
  | k + 1, pb0, minTime, maxTime =>
    match pb0.tail with
    | [] => none
    | e :: rest =>
      walkBack k (e :: rest) (min e.GetBlockTime minTime) (max e.GetBlockTime maxTime)

variable (K : AlgoConstants)

/-- The division step: `pbAlgo->nChainWorkAlgo - pb0Algo->nChainWorkAlgo` over the time span.
(The first `workDiff`, from `nChainWork`, is overwritten before it is read.) -/
def algoQuotient (pbAlgo pb0Algo : BlockPtr) (timeDiff : Int) : Option NetworkHashPS :=
  match pbAlgo, pb0Algo with
  | a :: _, b :: _ => some (.quotient (a.nChainWorkAlgo - b.nChainWorkAlgo) timeDiff)
  | _, _ => none

/-- `GetNetworkHashPS(lookup, height, nAlgo)`, with `interval` the consensus
`DifficultyAdjustmentInterval()`; `none` where the code divides by a zero interval or
dereferences `nullptr`. -/
def GetNetworkHashPS (interval : Int) (chain : CChain) (lookup height nAlgo : BitVec 32) :
    Option NetworkHashPS :=
  match startBlock chain height with
  | [] => some .zero
  | e :: rest =>
    if e.nHeight = 0 then some .zero else
    if lookup.toInt ≤ 0 ∧ interval = 0 then none else
    match walkBack (clampLookup interval e.nHeight lookup).toInt.toNat (e :: rest)
        e.GetBlockTime e.GetBlockTime with
    | none => none
    | some (pb0, minTime, maxTime) =>
      if minTime = maxTime then some .zero else
      algoQuotient (scanBackToAlgo K nAlgo (e :: rest)) (scanBackToAlgo K nAlgo pb0)
        (maxTime - minTime)


/-! ### The start entry -/

theorem lt_length_of_lt_Height (chain : CChain) (height : BitVec 32)
    (h : height.toInt < chain.Height.toInt) : height.toInt < chain.vChain.length := by
  have := toInt_lt_two_pow height
  by_cases hfit : (chain.vChain.length : Int) - 1 < 2 ^ 31
  · rw [CChain.Height, toInt_ofInt_of_range _ (by omega) hfit] at h; omega
  · omega

theorem startBlock_eq_drop (chain : CChain) (height : BitVec 32) :
    ∃ n, startBlock chain height = chain.vChain.drop n ∧
      (chain.vChain ≠ [] → startBlock chain height ≠ []) := by
  unfold startBlock CChain.get CChain.Tip
  split
  · rename_i h
    rw [if_pos ⟨h.1, lt_length_of_lt_Height chain height h.2⟩]
    refine ⟨_, rfl, fun hne => ?_⟩
    have := List.length_pos.mpr hne
    rw [ne_eq, List.drop_eq_nil_iff]; omega
  · exact ⟨0, rfl, id⟩

theorem WellFormed.startBlock {chain : CChain} (h : WellFormed chain.vChain)
    (height : BitVec 32) : WellFormed (startBlock chain height) := by
  obtain ⟨n, hn, -⟩ := startBlock_eq_drop chain height
  exact hn ▸ h.drop n

/-! ### The window length -/

theorem clampLookup_le (interval : Int) (nHeight lookup : BitVec 32) :
    (clampLookup interval nHeight lookup).toInt ≤ nHeight.toInt := by
  unfold clampLookup; dsimp only; split_ifs <;> omega

theorem clampLookup_mem_Icc (interval : Int) (hint : 0 < interval) (nHeight lookup : BitVec 32)
    (hn : 0 < nHeight.toInt)
    (hfit : lookup.toInt ≤ 0 → Int.tmod nHeight.toInt interval + 1 < 2 ^ 31) :
    1 ≤ (clampLookup interval nHeight lookup).toInt ∧
      (clampLookup interval nHeight lookup).toInt ≤ nHeight.toInt := by
  have hmod : Int.tmod nHeight.toInt interval = nHeight.toInt % interval :=
    Int.tmod_eq_emod hn.le hint.le
  have h1 : 0 ≤ nHeight.toInt % interval := Int.emod_nonneg _ hint.ne'
  have h2 : nHeight.toInt % interval ≤ nHeight.toInt := by
    have := Int.mul_nonneg hint.le (Int.ediv_nonneg hn.le hint.le)
    rw [Int.emod_def]; omega
  unfold clampLookup
  by_cases hl : lookup.toInt ≤ 0
  · have hv := toInt_ofInt_of_range (Int.tmod nHeight.toInt interval + 1) (by omega) (hfit hl)
    simp only [hl, if_true, hv]
    split <;> omega
  · simp only [hl, if_false]
    split <;> omega

/-! ### The walk -/

theorem walkBack_eq (k : Nat) (p : BlockPtr) (hk : k < p.length) (mn mx : Int) :
    ∃ mn' mx', walkBack k p mn mx = some (p.drop k, mn', mx') ∧ (mn ≤ mx → mn' ≤ mx') := by
  induction k generalizing p mn mx with
  | zero => exact ⟨mn, mx, rfl, id⟩
  | succ k ih =>
    obtain ⟨e, rest, rfl⟩ := List.exists_cons_of_ne_nil
      (List.ne_nil_of_length_pos (by omega : 0 < p.length))
    obtain ⟨e', rest', rfl⟩ := List.exists_cons_of_ne_nil
      (List.ne_nil_of_length_pos (by simp at hk; omega : 0 < rest.length))
    obtain ⟨mn', mx', hw, hle⟩ := ih (e' :: rest') (by simp at hk ⊢; omega)
      (min e'.GetBlockTime mn) (max e'.GetBlockTime mx)
    exact ⟨mn', mx', by simpa [walkBack] using hw, fun h => hle (by omega)⟩

theorem WellFormed.drop_cons {e : CBlockIndex} {rest : BlockPtr} (h : WellFormed (e :: rest))
    (k : Nat) (hk : k ≤ rest.length) :
    ∃ e0 r0, (e :: rest).drop k = e0 :: r0 ∧ e0.nHeight.toInt = e.nHeight.toInt - k := by
  have hd := (h.drop k)
  obtain ⟨e0, r0, h0⟩ := List.exists_cons_of_ne_nil
    (List.ne_nil_of_length_pos (by simp; omega : 0 < ((e :: rest).drop k).length))
  have hlen := congrArg List.length h0
  rw [h0] at hd
  simp only [List.length_drop, List.length_cons] at hlen
  exact ⟨e0, r0, h0, by rw [hd.1, h.1]; omega⟩

theorem walkBack_clampLookup (interval : Int) (lookup : BitVec 32) {e : CBlockIndex}
    {rest : BlockPtr} (hwf : WellFormed (e :: rest)) :
    ∃ e0 r0 mn mx, (e :: rest).drop (clampLookup interval e.nHeight lookup).toInt.toNat = e0 :: r0 ∧
      walkBack (clampLookup interval e.nHeight lookup).toInt.toNat (e :: rest) e.GetBlockTime
        e.GetBlockTime = some (e0 :: r0, mn, mx) ∧
      e0.nHeight.toInt = e.nHeight.toInt - (clampLookup interval e.nHeight lookup).toInt.toNat ∧
      mn ≤ mx := by
  have hk : (clampLookup interval e.nHeight lookup).toInt.toNat ≤ rest.length := by
    have := clampLookup_le interval e.nHeight lookup
    have := hwf.1
    omega
  obtain ⟨mn, mx, hw, hle⟩ := walkBack_eq (clampLookup interval e.nHeight lookup).toInt.toNat
    (e :: rest) (by simp; omega) e.GetBlockTime e.GetBlockTime
  obtain ⟨e0, r0, h0, hh⟩ := hwf.drop_cons _ hk
  exact ⟨e0, r0, mn, mx, h0, h0 ▸ hw, hh, hle le_rfl⟩

/-! ### What a call does -/

theorem GetNetworkHashPS_eq (interval : Int) (chain : CChain) (lookup height nAlgo : BitVec 32)
    (e : CBlockIndex) (rest : BlockPtr) (hs : startBlock chain height = e :: rest)
    (hn : e.nHeight ≠ 0) (hdiv : ¬ (lookup.toInt ≤ 0 ∧ interval = 0)) :
    GetNetworkHashPS K interval chain lookup height nAlgo =
      match walkBack (clampLookup interval e.nHeight lookup).toInt.toNat (e :: rest)
          e.GetBlockTime e.GetBlockTime with
      | none => none
      | some (pb0, minTime, maxTime) =>
        if minTime = maxTime then some .zero else
        algoQuotient (scanBackToAlgo K nAlgo (e :: rest)) (scanBackToAlgo K nAlgo pb0)
          (maxTime - minTime) := by
  rw [GetNetworkHashPS, hs]; simp only [hn, hdiv, if_false]

theorem GetNetworkHashPS_run (interval : Int) (chain : CChain) (lookup height nAlgo : BitVec 32)
    (hwf : WellFormed chain.vChain) :
    (GetNetworkHashPS K interval chain lookup height nAlgo = some .zero ∧
      ∀ e rest, startBlock chain height = e :: rest → e.nHeight = 0) ∨
    (GetNetworkHashPS K interval chain lookup height nAlgo = none ∧ lookup.toInt ≤ 0 ∧
      interval = 0) ∨
    ∃ e rest e0 r0 mn mx, startBlock chain height = e :: rest ∧ e.nHeight ≠ 0 ∧
      (e :: rest).drop (clampLookup interval e.nHeight lookup).toInt.toNat = e0 :: r0 ∧
      walkBack (clampLookup interval e.nHeight lookup).toInt.toNat (e :: rest) e.GetBlockTime
        e.GetBlockTime = some (e0 :: r0, mn, mx) ∧
      e0.nHeight.toInt = e.nHeight.toInt - (clampLookup interval e.nHeight lookup).toInt.toNat ∧
      mn ≤ mx ∧
      GetNetworkHashPS K interval chain lookup height nAlgo =
        if mn = mx then some .zero else
        algoQuotient (scanBackToAlgo K nAlgo (e :: rest)) (scanBackToAlgo K nAlgo (e0 :: r0))
          (mx - mn) := by
  have hwf' := hwf.startBlock height
  cases hs : startBlock chain height with
  | nil => exact .inl ⟨by simp [GetNetworkHashPS, hs], by simp⟩
  | cons e rest =>
    rw [hs] at hwf'
    by_cases hn : e.nHeight = 0
    · refine .inl ⟨by simp [GetNetworkHashPS, hs, hn], fun e' rest' h => ?_⟩
      obtain ⟨rfl, rfl⟩ := List.cons.inj h
      exact hn
    by_cases hdiv : lookup.toInt ≤ 0 ∧ interval = 0
    · refine .inr (.inl ⟨?_, hdiv⟩)
      rw [GetNetworkHashPS, hs]
      simp only [hn, hdiv, if_false, and_self, if_true]
    obtain ⟨e0, r0, mn, mx, hdrop, hw, hh, hle⟩ := walkBack_clampLookup interval lookup hwf'
    refine .inr (.inr ⟨e, rest, e0, r0, mn, mx, rfl, hn, hdrop, hw, hh, hle, ?_⟩)
    rw [GetNetworkHashPS_eq K interval chain lookup height nAlgo e rest hs hn hdiv, hw]

theorem ite_algoQuotient_returns (a : BitVec 32) (e e0 : CBlockIndex) (rest r0 : BlockPtr)
    {mn mx : Int} (hle : mn ≤ mx) :
    ∃ r, (if mn = mx then some NetworkHashPS.zero else
        algoQuotient (scanBackToAlgo K a (e :: rest)) (scanBackToAlgo K a (e0 :: r0)) (mx - mn)) =
        some r ∧ ∀ w d, r = .quotient w d → d = mx - mn ∧ 0 < d := by
  split_ifs with ht
  · exact ⟨.zero, rfl, by simp⟩
  · obtain ⟨x, xs, hx⟩ :=
      List.exists_cons_of_ne_nil (scanBackToAlgo_ne_nil K a (List.cons_ne_nil e rest))
    obtain ⟨y, ys, hy⟩ :=
      List.exists_cons_of_ne_nil (scanBackToAlgo_ne_nil K a (List.cons_ne_nil e0 r0))
    refine ⟨_, by rw [hx, hy]; rfl, ?_⟩
    rintro w d ⟨⟩
    omega

/-- A SHA256D genesis entry (proof 10, time 0) under a SCRYPT block (proof 1, time 100), with
`nChainWorkAlgo` accounted for the proofs `twoBlockProof`. -/
def twoBlockChain : CChain := ⟨[scryptBlock, genesis]⟩
where
  genesis : CBlockIndex := ⟨0, 0, K.ALGO_SHA256D, 0, 0, 0, 10, 10⟩
  scryptBlock : CBlockIndex := ⟨1, 1, K.ALGO_SCRYPT, 100, 0, 0, 11, 1⟩

/-- The proofs of `twoBlockChain`: 10 for genesis, 1 above it. -/
def twoBlockProof (e : CBlockIndex) : Nat := if e.nHeight = 0 then 10 else 1

/-! ### Safety -/

/-- On a well-formed chain with a positive interval the walk never dereferences `nullptr` and
both back-scans stop at an entry: `GetNetworkHashPS` always returns. A quotient divides by a
positive time span. -/
theorem GetNetworkHashPS_safe (interval : Int) (hint : 0 < interval) (chain : CChain)
    (lookup height nAlgo : BitVec 32) (hwf : WellFormed chain.vChain) :
    ∃ r, GetNetworkHashPS K interval chain lookup height nAlgo = some r ∧
      ∀ w d, r = .quotient w d → 0 < d := by
  rcases GetNetworkHashPS_run K interval chain lookup height nAlgo hwf with
    ⟨h, -⟩ | ⟨-, -, h0⟩ | ⟨e, rest, e0, r0, mn, mx, -, -, -, -, -, hle, h⟩
  · exact ⟨.zero, h, by simp⟩
  · exact absurd h0 hint.ne'
  · obtain ⟨r, hr, hd⟩ := ite_algoQuotient_returns K nAlgo e e0 rest r0 hle
    exact ⟨r, h.trans hr, fun w d hq => (hd w d hq).2⟩

theorem GetNetworkHashPS_safe_twoBlockChain :
    0 < (60 : Int) ∧ WellFormed (twoBlockChain sampleAlgoConstants).vChain ∧
      ∃ r, GetNetworkHashPS sampleAlgoConstants 60 (twoBlockChain sampleAlgoConstants) 120 (-1)
          sampleAlgoConstants.ALGO_SCRYPT = some r ∧ ∀ w d, r = .quotient w d → 0 < d :=
  ⟨by decide, ⟨rfl, rfl, trivial⟩,
    GetNetworkHashPS_safe sampleAlgoConstants 60 (by decide) _ 120 (-1) _ ⟨rfl, rfl, trivial⟩⟩

/-- With a positive interval, a call on a well-formed chain either returns 0 with no `pprev` step
taken (no start entry, the genesis entry, or a window of no step), or clamps its window into
`[1, pb->nHeight]`, walks it to an entry at height `pb->nHeight - lookup`, stops both back-scans
at an entry and divides by the positive span of the times it read. -/
theorem GetNetworkHashPS_clamped_walk (interval : Int) (hint : 0 < interval) (chain : CChain)
    (lookup height nAlgo : BitVec 32) (hwf : WellFormed chain.vChain) :
    (GetNetworkHashPS K interval chain lookup height nAlgo = some .zero ∧
      ∀ e rest, startBlock chain height = e :: rest → e.nHeight ≠ 0 →
        (clampLookup interval e.nHeight lookup).toInt ≤ 0) ∨
    ∃ e rest, startBlock chain height = e :: rest ∧
      let L := clampLookup interval e.nHeight lookup
      1 ≤ L.toInt ∧ L.toInt ≤ e.nHeight.toInt ∧
      ∃ e0 r0 mn mx, walkBack L.toInt.toNat (e :: rest) e.GetBlockTime e.GetBlockTime =
          some (e0 :: r0, mn, mx) ∧
        e0.nHeight.toInt = e.nHeight.toInt - L.toInt ∧ 0 ≤ e0.nHeight.toInt ∧
        scanBackToAlgo K nAlgo (e :: rest) ≠ [] ∧ scanBackToAlgo K nAlgo (e0 :: r0) ≠ [] ∧
        ∃ r, GetNetworkHashPS K interval chain lookup height nAlgo = some r ∧
          ∀ w d, r = .quotient w d → d = mx - mn ∧ 0 < d := by
  rcases GetNetworkHashPS_run K interval chain lookup height nAlgo hwf with
    ⟨h, h0⟩ | ⟨-, -, h0⟩ | ⟨e, rest, e0, r0, mn, mx, hs, -, -, hw, hh, hle, h⟩
  · exact .inl ⟨h, fun e rest hs hn => absurd (h0 e rest hs) hn⟩
  · exact absurd h0 hint.ne'
  by_cases hL : (clampLookup interval e.nHeight lookup).toInt ≤ 0
  · -- the loop takes no step, so the least and greatest time are the start entry's
    rw [show (clampLookup interval e.nHeight lookup).toInt.toNat = 0 by omega] at hw
    obtain ⟨-, rfl, rfl⟩ := Prod.mk.inj_iff.mp (Option.some.inj hw)
    refine .inl ⟨by simp [h], fun e' rest' hs' _ => ?_⟩
    obtain ⟨rfl, rfl⟩ := List.cons.inj (hs.symm.trans hs')
    exact hL
  · have hle' := clampLookup_le interval e.nHeight lookup
    obtain ⟨r, hr, hd⟩ := ite_algoQuotient_returns K nAlgo e e0 rest r0 hle
    exact .inr ⟨e, rest, hs, by omega, hle', e0, r0, mn, mx, hw, by omega, by omega,
      scanBackToAlgo_ne_nil K nAlgo (List.cons_ne_nil _ _),
      scanBackToAlgo_ne_nil K nAlgo (List.cons_ne_nil _ _), r, h.trans hr, hd⟩

theorem GetNetworkHashPS_clamped_walk_twoBlockChain :
    0 < (60 : Int) ∧ WellFormed (twoBlockChain sampleAlgoConstants).vChain ∧
    ((GetNetworkHashPS sampleAlgoConstants 60 (twoBlockChain sampleAlgoConstants) 120 (-1)
        sampleAlgoConstants.ALGO_SCRYPT = some .zero ∧
      ∀ e rest, startBlock (twoBlockChain sampleAlgoConstants) (-1) = e :: rest → e.nHeight ≠ 0 →
        (clampLookup 60 e.nHeight 120).toInt ≤ 0) ∨
    ∃ e rest, startBlock (twoBlockChain sampleAlgoConstants) (-1) = e :: rest ∧
      let L := clampLookup 60 e.nHeight 120
      1 ≤ L.toInt ∧ L.toInt ≤ e.nHeight.toInt ∧
      ∃ e0 r0 mn mx, walkBack L.toInt.toNat (e :: rest) e.GetBlockTime e.GetBlockTime =
          some (e0 :: r0, mn, mx) ∧
        e0.nHeight.toInt = e.nHeight.toInt - L.toInt ∧ 0 ≤ e0.nHeight.toInt ∧
        scanBackToAlgo sampleAlgoConstants sampleAlgoConstants.ALGO_SCRYPT (e :: rest) ≠ [] ∧
        scanBackToAlgo sampleAlgoConstants sampleAlgoConstants.ALGO_SCRYPT (e0 :: r0) ≠ [] ∧
        ∃ r, GetNetworkHashPS sampleAlgoConstants 60 (twoBlockChain sampleAlgoConstants) 120 (-1)
            sampleAlgoConstants.ALGO_SCRYPT = some r ∧
          ∀ w d, r = .quotient w d → d = mx - mn ∧ 0 < d) :=
  ⟨by decide, ⟨rfl, rfl, trivial⟩, GetNetworkHashPS_clamped_walk sampleAlgoConstants 60
    (by decide) _ 120 (-1) _ ⟨rfl, rfl, trivial⟩⟩

/-! ### The window when nothing wraps -/

/-- The window of `GetNetworkHashPS` when nothing wraps: a length in `[1, nHeight]`, a walk
that ends at an entry at height `nHeight - L`, times in order, and two back-scans that stop at an
entry. -/
theorem GetNetworkHashPS_window (interval : Int) (hint : 0 < interval) (chain : CChain)
    (lookup height nAlgo : BitVec 32) (hwf : WellFormed chain.vChain) (e : CBlockIndex)
    (rest : BlockPtr) (hs : startBlock chain height = e :: rest) (hn : e.nHeight ≠ 0)
    (hfit : lookup.toInt ≤ 0 → Int.tmod e.nHeight.toInt interval + 1 < 2 ^ 31) :
    let L := clampLookup interval e.nHeight lookup
    1 ≤ L.toInt ∧ L.toInt ≤ e.nHeight.toInt ∧
      ∃ e0 r0 mn mx, walkBack L.toInt.toNat (e :: rest) e.GetBlockTime e.GetBlockTime =
          some (e0 :: r0, mn, mx) ∧ e0.nHeight.toInt = e.nHeight.toInt - L.toInt ∧
        (mn ≠ mx → 0 < mx - mn) ∧
        scanBackToAlgo K nAlgo (e :: rest) ≠ [] ∧ scanBackToAlgo K nAlgo (e0 :: r0) ≠ [] := by
  have hwf' : WellFormed (e :: rest) := hs ▸ hwf.startBlock height
  have hpos : 0 < e.nHeight.toInt := by
    have := hwf'.1
    have : e.nHeight.toInt ≠ 0 := fun h0 => hn (BitVec.toInt_inj.mp (by simpa using h0))
    omega
  obtain ⟨h1, h2⟩ := clampLookup_mem_Icc interval hint e.nHeight lookup hpos hfit
  obtain ⟨e0, r0, mn, mx, -, hw, hh, hle⟩ := walkBack_clampLookup interval lookup hwf'
  exact ⟨h1, h2, e0, r0, mn, mx, hw, by omega, fun _ => by omega,
    scanBackToAlgo_ne_nil K nAlgo (List.cons_ne_nil _ _),
    scanBackToAlgo_ne_nil K nAlgo (List.cons_ne_nil _ _)⟩

theorem GetNetworkHashPS_window_twoBlockChain :
    0 < (60 : Int) ∧ WellFormed (twoBlockChain sampleAlgoConstants).vChain ∧
      startBlock (twoBlockChain sampleAlgoConstants) (-1) =
        twoBlockChain.scryptBlock sampleAlgoConstants :: [twoBlockChain.genesis sampleAlgoConstants] ∧
      (twoBlockChain.scryptBlock sampleAlgoConstants).nHeight ≠ 0 ∧
      ((120 : BitVec 32).toInt ≤ 0 →
        Int.tmod (twoBlockChain.scryptBlock sampleAlgoConstants).nHeight.toInt 60 + 1 < 2 ^ 31) ∧
      1 ≤ (clampLookup 60 (twoBlockChain.scryptBlock sampleAlgoConstants).nHeight 120).toInt ∧
      (clampLookup 60 (twoBlockChain.scryptBlock sampleAlgoConstants).nHeight 120).toInt ≤
        (twoBlockChain.scryptBlock sampleAlgoConstants).nHeight.toInt ∧
      ∃ e0 r0 mn mx,
        walkBack (clampLookup 60 (twoBlockChain.scryptBlock sampleAlgoConstants).nHeight 120).toInt.toNat
          (twoBlockChain.scryptBlock sampleAlgoConstants :: [twoBlockChain.genesis sampleAlgoConstants])
          (twoBlockChain.scryptBlock sampleAlgoConstants).GetBlockTime
          (twoBlockChain.scryptBlock sampleAlgoConstants).GetBlockTime = some (e0 :: r0, mn, mx) ∧
        e0.nHeight.toInt = (twoBlockChain.scryptBlock sampleAlgoConstants).nHeight.toInt -
          (clampLookup 60 (twoBlockChain.scryptBlock sampleAlgoConstants).nHeight 120).toInt ∧
        (mn ≠ mx → 0 < mx - mn) ∧
        scanBackToAlgo sampleAlgoConstants sampleAlgoConstants.ALGO_SCRYPT
          (twoBlockChain.scryptBlock sampleAlgoConstants :: [twoBlockChain.genesis sampleAlgoConstants])
          ≠ [] ∧
        scanBackToAlgo sampleAlgoConstants sampleAlgoConstants.ALGO_SCRYPT (e0 :: r0) ≠ [] :=
  ⟨by decide, ⟨rfl, rfl, trivial⟩, rfl, by decide, by decide,
    GetNetworkHashPS_window sampleAlgoConstants 60 (by decide) (twoBlockChain sampleAlgoConstants)
      120 (-1) sampleAlgoConstants.ALGO_SCRYPT ⟨rfl, rfl, trivial⟩ _ _ rfl (by decide) (by decide)⟩

/-! ### The work difference -/

theorem GetNetworkHashPS_quotient_inv {interval : Int} {chain : CChain}
    {lookup height nAlgo : BitVec 32} {w : Uint256} {d : Int}
    (hwf : WellFormed chain.vChain)
    (h : GetNetworkHashPS K interval chain lookup height nAlgo = some (.quotient w d)) :
    ∃ e rest a as b bs, startBlock chain height = e :: rest ∧
      scanBackToAlgo K nAlgo (e :: rest) = a :: as ∧
      scanBackToAlgo K nAlgo ((e :: rest).drop (clampLookup interval e.nHeight lookup).toInt.toNat)
        = b :: bs ∧
      (e :: rest).drop (clampLookup interval e.nHeight lookup).toInt.toNat ≠ [] ∧
      w = a.nChainWorkAlgo - b.nChainWorkAlgo := by
  rcases GetNetworkHashPS_run K interval chain lookup height nAlgo hwf with
    ⟨h', -⟩ | ⟨h', -⟩ | ⟨e, rest, e0, r0, mn, mx, hs, -, hdrop, -, -, -, h'⟩
  · cases h.symm.trans h'
  · cases h.symm.trans h'
  rw [h'] at h
  split_ifs at h
  · cases h
  obtain ⟨a, as, ha⟩ := List.exists_cons_of_ne_nil
    (scanBackToAlgo_ne_nil K nAlgo (List.cons_ne_nil e rest))
  obtain ⟨b, bs, hb⟩ := List.exists_cons_of_ne_nil
    (scanBackToAlgo_ne_nil K nAlgo (List.cons_ne_nil e0 r0))
  simp only [ha, hb, algoQuotient, Option.some.injEq, NetworkHashPS.quotient.injEq] at h
  exact ⟨e, rest, a, as, b, bs, hs, ha, hdrop ▸ hb, hdrop ▸ List.cons_ne_nil _ _, h.1.symm⟩

variable (GetBlockProof : CBlockIndex → Nat)

/-- The work difference a quotient stands for: `W(pb, A) - W(pb0, A)`, with no wrap-around, for
the start entry `pb` and the end of the walk `pb0`. -/
def WorkDiffLaw (interval : Int) (chain : CChain) (lookup height nAlgo : BitVec 32)
    (w : Uint256) : Prop :=
  ∃ e rest, startBlock chain height = e :: rest ∧
    let pb0 := (e :: rest).drop (clampLookup interval e.nHeight lookup).toInt.toNat
    algoWork K GetBlockProof nAlgo pb0 ≤ algoWork K GetBlockProof nAlgo (e :: rest) ∧
      w.toNat = algoWork K GetBlockProof nAlgo (e :: rest) - algoWork K GetBlockProof nAlgo pb0

theorem algoWork_drop_le (a : BitVec 32) (p : BlockPtr) (k : Nat) :
    algoWork K GetBlockProof a (p.drop k) ≤ algoWork K GetBlockProof a p := by
  conv_rhs => rw [← List.take_append_drop k p]
  rw [algoWork_append]; omega

/-- The law holds whenever the lower back-scan finds a block of `nAlgo`, and also when no block
of `nAlgo` is reachable from `pb` at all (both back-scans then stop at genesis). -/
theorem GetNetworkHashPS_workDiffLaw {interval : Int} {chain : CChain}
    {lookup height nAlgo : BitVec 32} {w : Uint256} {d : Int}
    (hwf : WellFormed chain.vChain) (hacc : WorkAccounted K GetBlockProof chain.vChain)
    (h : GetNetworkHashPS K interval chain lookup height nAlgo = some (.quotient w d))
    (hfound : ∀ e rest, startBlock chain height = e :: rest →
      (∃ x ∈ (e :: rest).drop (clampLookup interval e.nHeight lookup).toInt.toNat,
        algoOf K x.nVersion = nAlgo) ∨ ¬ ∃ x ∈ e :: rest, algoOf K x.nVersion = nAlgo) :
    WorkDiffLaw K GetBlockProof interval chain lookup height nAlgo w := by
  obtain ⟨e, rest, a, as, b, bs, hs, ha, hb, hne, rfl⟩ := GetNetworkHashPS_quotient_inv K hwf h
  set pb0 := (e :: rest).drop (clampLookup interval e.nHeight lookup).toInt.toNat
  obtain ⟨n, hn, -⟩ := startBlock_eq_drop chain height
  have hacc' : WorkAccounted K GetBlockProof (e :: rest) :=
    hs ▸ hn ▸ WorkAccounted.drop K GetBlockProof hacc n
  have hle : algoWork K GetBlockProof nAlgo pb0 ≤ algoWork K GetBlockProof nAlgo (e :: rest) :=
    algoWork_drop_le K GetBlockProof nAlgo _ _
  refine ⟨e, rest, hs, hle, ?_⟩
  rcases hfound e rest hs with hex0 | hnone
  · have hex : ∃ x ∈ e :: rest, algoOf K x.nVersion = nAlgo := by
      obtain ⟨x, hx, hxa⟩ := hex0; exact ⟨x, List.mem_of_mem_drop hx, hxa⟩
    obtain ⟨a', as', ha', hwa⟩ :=
      scanBackToAlgo_work K GetBlockProof nAlgo (e :: rest) (List.cons_ne_nil _ _) hacc' hex
    obtain ⟨b', bs', hb', hwb⟩ :=
      scanBackToAlgo_work K GetBlockProof nAlgo pb0 hne (WorkAccounted.drop K GetBlockProof hacc' _)
        hex0
    rw [ha] at ha'; rw [hb] at hb'
    cases ha'; cases hb'
    rw [BitVec.toNat_sub_of_le (by rw [BitVec.le_def]; omega), hwa, hwb]
  · have hnone0 : ¬ ∃ x ∈ pb0, algoOf K x.nVersion = nAlgo := fun ⟨x, hx, hxa⟩ =>
      hnone ⟨x, List.mem_of_mem_drop hx, hxa⟩
    rw [scanBackToAlgo_eq K nAlgo _ (List.cons_ne_nil _ _), if_neg hnone] at ha
    rw [scanBackToAlgo_eq K nAlgo _ hne, if_neg hnone0] at hb
    rw [algoWork_eq_zero K GetBlockProof nAlgo _ hnone, algoWork_eq_zero K GetBlockProof nAlgo _ hnone0]
    have hlast : pb0.getLast hne = (e :: rest).getLast (List.cons_ne_nil _ _) :=
      List.getLast_drop hne
    simp only [List.cons.injEq] at ha hb
    rw [← ha.1, ← hb.1, hlast]; simp

theorem GetNetworkHashPS_workDiffLaw_twoBlockChain :
    WellFormed (twoBlockChain sampleAlgoConstants).vChain ∧
      WorkAccounted sampleAlgoConstants twoBlockProof (twoBlockChain sampleAlgoConstants).vChain ∧
      GetNetworkHashPS sampleAlgoConstants 60 (twoBlockChain sampleAlgoConstants) 120 (-1)
          sampleAlgoConstants.ALGO_SHA256D =
        some (.quotient (10 - 10) 100) ∧
      (∀ e rest, startBlock (twoBlockChain sampleAlgoConstants) (-1) = e :: rest →
        (∃ x ∈ (e :: rest).drop (clampLookup 60 e.nHeight 120).toInt.toNat,
          algoOf sampleAlgoConstants x.nVersion = sampleAlgoConstants.ALGO_SHA256D) ∨
        ¬ ∃ x ∈ e :: rest,
          algoOf sampleAlgoConstants x.nVersion = sampleAlgoConstants.ALGO_SHA256D) ∧
      WorkDiffLaw sampleAlgoConstants twoBlockProof 60 (twoBlockChain sampleAlgoConstants) 120 (-1)
        sampleAlgoConstants.ALGO_SHA256D (10 - 10) := by
  have hwf : WellFormed (twoBlockChain sampleAlgoConstants).vChain := ⟨rfl, rfl, trivial⟩
  have hacc :
      WorkAccounted sampleAlgoConstants twoBlockProof (twoBlockChain sampleAlgoConstants).vChain := by
    simp [WorkAccounted, twoBlockChain, twoBlockChain.genesis, twoBlockChain.scryptBlock,
      twoBlockProof, algoWork, algoOf, sampleAlgoConstants]
  have hq : GetNetworkHashPS sampleAlgoConstants 60 (twoBlockChain sampleAlgoConstants) 120 (-1)
      sampleAlgoConstants.ALGO_SHA256D = some (.quotient (10 - 10) 100) := by decide
  have hfound : ∀ e rest, startBlock (twoBlockChain sampleAlgoConstants) (-1) = e :: rest →
      (∃ x ∈ (e :: rest).drop (clampLookup 60 e.nHeight 120).toInt.toNat,
        algoOf sampleAlgoConstants x.nVersion = sampleAlgoConstants.ALGO_SHA256D) ∨
      ¬ ∃ x ∈ e :: rest,
        algoOf sampleAlgoConstants x.nVersion = sampleAlgoConstants.ALGO_SHA256D := by
    intro e rest hs
    obtain ⟨rfl, rfl⟩ := List.cons.inj (hs.symm : e :: rest =
      [twoBlockChain.scryptBlock sampleAlgoConstants, twoBlockChain.genesis sampleAlgoConstants])
    exact .inl ⟨twoBlockChain.genesis sampleAlgoConstants, by decide, by decide⟩
  exact ⟨hwf, hacc, hq, hfound,
    GetNetworkHashPS_workDiffLaw sampleAlgoConstants twoBlockProof hwf hacc hq hfound⟩

/-- The window's SCRYPT work is 1, but the lower back-scan finds no SCRYPT block and stops at
the SHA256D genesis entry, so the code subtracts genesis's own work 10 and wraps around. -/
theorem GetNetworkHashPS_genesis_fallthrough :
    WellFormed (twoBlockChain K).vChain ∧
      WorkAccounted K twoBlockProof (twoBlockChain K).vChain ∧
      GetNetworkHashPS K 60 (twoBlockChain K) 120 (-1) K.ALGO_SCRYPT =
        some (.quotient (1 - 10) 100) ∧
      (1 - 10 : Uint256).toNat = 2 ^ 256 - 9 ∧
      ¬ WorkDiffLaw K twoBlockProof 60 (twoBlockChain K) 120 (-1) K.ALGO_SCRYPT (1 - 10) := by
  have h1 := algoOf_SHA256D K
  have h2 := algoOf_SCRYPT K
  have h3 := SHA256D_ne_SCRYPT K
  have hL : (clampLookup 60 1 120).toInt.toNat = 1 := by decide
  have hn1 : (twoBlockChain.scryptBlock K).nHeight = 1 := rfl
  have hW1 : algoWork K twoBlockProof K.ALGO_SCRYPT
      [twoBlockChain.scryptBlock K, twoBlockChain.genesis K] = 1 := by
    simp only [algoWork, twoBlockChain.scryptBlock, twoBlockChain.genesis, h1, h2, h3, if_true,
      if_false]
    rfl
  have hW0 : algoWork K twoBlockProof K.ALGO_SCRYPT [twoBlockChain.genesis K] = 0 := by
    simp only [algoWork, twoBlockChain.genesis, h1, h3, if_false]
  refine ⟨⟨rfl, rfl, trivial⟩, ⟨?_, ?_, trivial⟩, ?_, by decide, ?_⟩
  · show 1 = algoWork K twoBlockProof (algoOf K K.ALGO_SCRYPT) _
    rw [h2, hW1]
  · show 10 = algoWork K twoBlockProof (algoOf K K.ALGO_SHA256D) [twoBlockChain.genesis K]
    rw [h1]
    simp only [algoWork, twoBlockChain.genesis, h1, if_true]
    rfl
  · have hs1 : scanBackToAlgo K K.ALGO_SCRYPT [twoBlockChain.scryptBlock K, twoBlockChain.genesis K]
        = [twoBlockChain.scryptBlock K, twoBlockChain.genesis K] := by
      simp [scanBackToAlgo, twoBlockChain.scryptBlock, h2]
    have hs2 : scanBackToAlgo K K.ALGO_SCRYPT [twoBlockChain.genesis K] =
        [twoBlockChain.genesis K] := by
      simp [scanBackToAlgo]
    have hw : walkBack 1 [twoBlockChain.scryptBlock K, twoBlockChain.genesis K]
        (twoBlockChain.scryptBlock K).GetBlockTime (twoBlockChain.scryptBlock K).GetBlockTime =
        some ([twoBlockChain.genesis K], 0, 100) := rfl
    rw [GetNetworkHashPS_eq K 60 (twoBlockChain K) 120 (-1) K.ALGO_SCRYPT
      (twoBlockChain.scryptBlock K) [twoBlockChain.genesis K] rfl (by rw [hn1]; decide)
      (by decide), hn1, hL, hw]
    simp only [hs1, hs2]
    rfl
  · rintro ⟨e, rest, hs, -, hw⟩
    have hs' : [twoBlockChain.scryptBlock K, twoBlockChain.genesis K] = e :: rest := hs
    simp only [List.cons.injEq] at hs'
    obtain ⟨rfl, rfl⟩ := hs'
    rw [hn1, hL] at hw
    simp only [List.drop_one, List.tail_cons, hW1, hW0] at hw
    revert hw; decide

end VelesMining
